/-
Module: TallyKeep.Proofs.AttemptRecords
Layer: Proofs
Purpose: Which attempts to withdraw leave a record once their request or job has ended.
Trusted boundary: none
Main exports: SweepAttemptRecorded, sweepAttemptRecorded_iff, sweepAttemptRecorded_refused,
  rateLimited_unrecorded
-/
import TallyKeep.Api.SweepExecutions
import TallyKeep.Proofs.DryRuns

namespace TallyKeep

open Relational

/-- The committed row of an attempt: what was asked for, and how it was answered. -/
structure AttemptRecord (prepared : PreparedSweep) (answer : Except PyError String)
    (row : SweepExecutionRow) : Prop where
  attempt : row.id = prepared.execution.id
  policy : row.sweepPolicyId = prepared.execution.sweepPolicyId
  amount : (row.intendedAmountSats : Int) = prepared.amountSats
  withdrawn : ∀ withdrawalId, answer = .ok withdrawalId →
    row.providerWithdrawalId = some withdrawalId
  failed : ∀ error, answer = .error error →
    row.status = .failed ∧ row.errorMessage = some error.message ∧ row.completedAt.isSome = true

/-- The database has the row of an attempt. -/
def SweepAttemptRecorded (db : TreasuryDatabase) (prepared : PreparedSweep)
    (answer : Except PyError String) : Prop :=
  ∃ row ∈ db.sweepExecutions.rows, AttemptRecord prepared answer row

section Attempts

variable {custody : Custody} {metadata : HoldingMetadata} {db : TreasuryDatabase} {policyId : Uuid}
  {amountSats : Option Int} {now : Timestamp} {prepared : PreparedSweep}

/-- A prepared execution is new, and of the amount that is asked for. -/
theorem prepared_execution
    (passes : prepareSweep custody metadata db policyId amountSats now = .ok prepared) :
    prepared.execution.id = (SweepSession.start db).freshExecutionId ∧
      (prepared.execution.intendedAmountSats : Int) = prepared.amountSats := by
  obtain ⟨policy, provider, address, credentials, -, ready, rfl⟩ := prepareSweep_ok_iff.mp passes
  exact ⟨rfl, Int.toNat_of_nonneg (Int.le_of_lt ready.positive)⟩

/-- The row of a prepared execution is not there before. -/
theorem not_sweepAttemptRecorded_before
    (passes : prepareSweep custody metadata db policyId amountSats now = .ok prepared)
    (answer : Except PyError String) : ¬SweepAttemptRecorded db prepared answer := by
  rintro ⟨row, member, record⟩
  have absent := SweepSession.get?_freshExecutionId (SweepSession.start db)
  rw [← (prepared_execution passes).1, ← record.attempt] at absent
  exact Table.get?_eq_none_iff.mp absent (List.mem_map_of_mem member)

/-- The row an update leaves in a session that was flushed. -/
theorem sweepAttemptRecorded_of_adds {row : SweepExecutionRow} {after : TreasuryDatabase}
    {answer : Except PyError String} (adds : SweepAdds db [row] [] after)
    (record : AttemptRecord prepared answer row) : SweepAttemptRecorded after prepared answer := by
  refine ⟨row, ?_, record⟩
  rw [adds.executions]
  exact List.mem_append_right _ (List.mem_singleton_self row)

theorem executeSweepNow_recorded_iff
    (passes : prepareSweep custody metadata db policyId amountSats now = .ok prepared) :
    SweepAttemptRecorded (executeSweepNow custody metadata db policyId amountSats now).db prepared
        (attemptWithdrawal custody prepared).2 ↔
      ∀ error, (attemptWithdrawal custody prepared).2 = .error error → error.FromProvider := by
  obtain ⟨fresh, amount⟩ := prepared_execution passes
  simp only [executeSweepNow, passes]
  cases answer : (attemptWithdrawal custody prepared).2 with
  | ok withdrawalId =>
      refine iff_of_true ?_ (by rintro error ⟨⟩)
      apply sweepAttemptRecorded_of_adds
        (SweepSession.updateStatus_flushed fresh .requested (some withdrawalId) none none)
      refine ⟨rfl, rfl, amount, ?_, ?_⟩
      · rintro other ⟨⟩
        rfl
      · rintro error ⟨⟩
  | error error =>
      dsimp only
      by_cases caught : error.cls = .providerAuthError ∨ error.cls = .providerError
      · rw [if_pos caught]
        refine iff_of_true ?_ ?_
        · apply sweepAttemptRecorded_of_adds (SweepSession.updateStatus_flushed fresh .failed none
            (some error.message) (some now))
          refine ⟨rfl, rfl, amount, ?_, ?_⟩
          · rintro withdrawalId ⟨⟩
          · rintro other ⟨⟩
            exact ⟨rfl, rfl, rfl⟩
        · rintro other ⟨⟩
          exact caught
      · rw [if_neg caught]
        refine iff_of_false (not_sweepAttemptRecorded_before passes _) ?_
        intro all
        exact caught (all error rfl)

end Attempts

/-- An attempt of which the checks pass is recorded by the endpoint and by the job, exactly when the
    adapter was built and withdrew, or the error is one of the two that are caught. -/
theorem sweepAttemptRecorded_iff {custody : Custody} {metadata : HoldingMetadata}
    {db : TreasuryDatabase} {policyId : Uuid} {amountSats : Option Int} {now : Timestamp}
    {prepared : PreparedSweep}
    (passes : prepareSweep custody metadata db policyId amountSats now = .ok prepared) :
    SweepAttemptRecorded (executeSweepPolicyNow custody metadata db policyId amountSats now).db
        prepared (attemptWithdrawal custody prepared).2 ∧
      SweepAttemptRecorded (doExecute custody metadata db policyId amountSats now).db prepared
        (attemptWithdrawal custody prepared).2 ↔
      ∀ error, (attemptWithdrawal custody prepared).2 = .error error →
        error.cls = .providerAuthError ∨ error.cls = .providerError := by
  rw [executeSweepPolicyNow, doExecute, and_self]
  exact executeSweepNow_recorded_iff passes

/-- The adapter of the sample provider fails to withdraw. -/
def failingCustody (error : PyError) : Custody :=
  { sampleCustody with withdraw := fun _ _ _ _ => .error error }

/-- The manual execution of the sample policy, ready to withdraw. -/
def preparedSample : PreparedSweep :=
  ⟨⟨1, 1, 0, .manual, 100000, 40000, .requested, none, none, none, none, none⟩, "kraken",
    ⟨"kraken key", "kraken secret", none⟩, 40000, "bcrt1qb"⟩

theorem prepareSweep_sample (error : PyError) :
    prepareSweep (failingCustody error) sampleMetadata (sampleEnabled 30 true) 1 none 0 =
      .ok preparedSample := by
  have prepared : (prepareSweep sampleCustody sampleMetadata (sampleEnabled 30 true) 1 none
      0).toOption = some preparedSample := by decide
  -- The checks read the secret store, not the adapter.
  change prepareSweep sampleCustody sampleMetadata (sampleEnabled 30 true) 1 none 0 = _
  cases run : prepareSweep sampleCustody sampleMetadata (sampleEnabled 30 true) 1 none 0 with
  | error error =>
      rw [run] at prepared
      cases prepared
  | ok other =>
      rw [run] at prepared
      cases prepared
      rfl

/-- A provider that refuses the credentials leaves a failed execution. -/
theorem sweepAttemptRecorded_refused :
    SweepAttemptRecorded (executeSweepPolicyNow (failingCustody ⟨.providerAuthError, "revoked"⟩)
        sampleMetadata (sampleEnabled 30 true) 1 none 0).db preparedSample
        (.error ⟨.providerAuthError, "revoked"⟩) ∧
      SweepAttemptRecorded (doExecute (failingCustody ⟨.providerAuthError, "revoked"⟩)
        sampleMetadata (sampleEnabled 30 true) 1 none 0).db preparedSample
        (.error ⟨.providerAuthError, "revoked"⟩) := by
  apply (sweepAttemptRecorded_iff (prepareSweep_sample ⟨.providerAuthError, "revoked"⟩)).mpr
  rintro error ⟨⟩
  exact .inl rfl

/-- A withdrawal was asked for, the provider limited the rate, and no execution is left. -/
theorem rateLimited_unrecorded :
    (executeSweepPolicyNow (failingCustody ⟨.providerRateLimitError, "limited"⟩) sampleMetadata
        (sampleEnabled 30 true) 1 none 0).effects = [.withdrawal 1 40000 "bcrt1qb"] ∧
      ¬SweepAttemptRecorded (executeSweepPolicyNow
        (failingCustody ⟨.providerRateLimitError, "limited"⟩) sampleMetadata
        (sampleEnabled 30 true) 1 none 0).db preparedSample
        (.error ⟨.providerRateLimitError, "limited"⟩) := by
  refine ⟨by decide, ?_⟩
  rintro ⟨row, member, -⟩
  have rows : (executeSweepPolicyNow (failingCustody ⟨.providerRateLimitError, "limited"⟩)
      sampleMetadata (sampleEnabled 30 true) 1 none 0).db.sweepExecutions.rows = [] := by
    decide
  rw [rows] at member
  cases member

end TallyKeep
