/-
Module: TallyKeep.Proofs.ManualSweeps
Layer: Proofs
Purpose: The specification of a manual execution: when it passes its checks, how the adapter
  answers, and which row is left.
Trusted boundary: none
Main exports: ManualReady, withdrawalAnswer, manualRow, prepareSweep_ok_iff,
  executeSweepNow_of_ready, executeSweepNow_cases, executeSweepNow_adds
-/
import TallyKeep.Proofs.SweepSessions

namespace TallyKeep

open Relational

/-! ### Sessions that flush -/

namespace SweepSession

/-- Once the added row is flushed, an update of its status finds it. -/
theorem updateStatus_flushed {db : TreasuryDatabase} {row : SweepExecutionRow}
    (fresh : row.id = (SweepSession.start db).freshExecutionId) (status : SweepExecutionStatus)
    (providerWithdrawalId errorMessage : Option String) (completedAt : Option Timestamp) :
    SweepAdds db
      [{ row with
          status := status
          providerWithdrawalId := providerWithdrawalId.or row.providerWithdrawalId
          errorMessage := errorMessage.or row.errorMessage
          completedAt := completedAt.or row.completedAt }]
      []
      (((SweepSession.start db).create row).flush.updateStatus row.id status providerWithdrawalId
        errorMessage completedAt).commit := by
  have absent : db.sweepExecutions.get? (key row) = none := by
    change db.sweepExecutions.get? row.id = none
    rw [fresh]
    exact get?_freshExecutionId (SweepSession.start db)
  have rows := Table.rows_insert_of_fresh absent
  have found : (db.sweepExecutions.insert row).get? row.id = some row := by
    rw [Table.get?_insert_of_fresh absent]
    exact if_pos rfl
  have others : ∀ other ∈ db.sweepExecutions.rows, key other ≠ row.id := by
    intro other stored same
    rw [Table.get?_eq_none_iff] at absent
    exact absent (List.mem_map.mpr ⟨other, stored, same⟩)
  have written : ∀ f : SweepExecutionRow → SweepExecutionRow,
      (db.sweepExecutions.rows ++ [row]).map (fun other => if key other = row.id then f other else other) =
        db.sweepExecutions.rows ++ [f row] := by
    intro f
    rw [List.map_append, List.map_congr_left fun other stored => if_neg (others other stored),
      List.map_id', List.map_singleton]
    exact congrArg (fun last => db.sweepExecutions.rows ++ [last]) (if_pos rfl)
  simp only [flush, updateStatus, create, start, SweepExecutionRepo.create, found, commit,
    SweepExecutionRepo.updateStatus]
  constructor
  · rfl
  · simp only [Table.update, Table.rows_updateAll, rows]
    exact written _
  · exact (List.append_nil _).symm

end SweepSession

/-! ### The checks -/

/-- What a manual execution of the policy withdraws. -/
def SweepPolicyRow.manualAmount (policy : SweepPolicyRow) (provider : CustodialProviderRow)
    (amountSats : Option Int) : Int :=
  amountSats.getD (policy.sweepAmount provider.currentBalance)

/-- A manual execution of the policy passes its checks, with the provider it withdraws from, the
    address it pays to and the credentials it uses. -/
structure ManualReady (custody : Custody) (metadata : HoldingMetadata) (db : TreasuryDatabase)
    (policy : SweepPolicyRow) (amountSats : Option Int) (provider : CustodialProviderRow)
    (address : String) (credentials : Credentials) : Prop where
  stored : db.sweepPolicies.get? policy.id = some policy
  loads : policy.Loads
  enabled : policy.isEnabled = true
  source : manualSource metadata db policy = .ok provider
  destination : manualAddress db policy.destinationHoldingId = .ok address
  credentials : resolveCredentials custody provider = .ok credentials
  positive : 0 < policy.manualAmount provider amountSats

/-- The execution of a manual sweep before the adapter answers. -/
def SweepPolicyRow.requestedRow (policy : SweepPolicyRow) (executionId : Uuid)
    (provider : CustodialProviderRow) (amountSats : Option Int) (now : Timestamp) :
    SweepExecutionRow where
  id := executionId
  sweepPolicyId := policy.id
  triggeredAt := now
  triggerSource := .manual
  preBalanceSats := provider.currentBalance.toNat
  intendedAmountSats := (policy.manualAmount provider amountSats).toNat
  status := .requested
  providerWithdrawalId := none
  expectedTxid := none
  confirmedTxid := none
  errorMessage := none
  completedAt := none

theorem getSweepPolicy_ok_iff {db : TreasuryDatabase} {policyId : Uuid} {policy : SweepPolicyRow} :
    getSweepPolicy db policyId = .ok policy ↔
      db.sweepPolicies.get? policyId = some policy ∧ policy.Loads := by
  rw [getSweepPolicy, SweepPolicyRepo.get]
  cases found : db.sweepPolicies.get? policyId with
  | none => simp [bind, Except.bind, throw, throwThe, MonadExceptOf.throw]
  | some row =>
      cases checked : row.postInit with
      | error error =>
          have refused : ¬row.Loads := by
            rw [SweepPolicyRow.Loads, checked]
            simp
          simp only [checked, Except.map, bind, Except.bind, reduceCtorEq, Option.some.injEq,
            false_iff, not_and]
          rintro rfl
          exact refused
      | ok row' =>
          obtain ⟨rfl, loads⟩ := SweepPolicyRow.postInit_ok checked
          simp only [checked, Except.map, bind, Except.bind, pure, Except.pure, Except.ok.injEq,
            Option.some.injEq]
          constructor
          · rintro rfl
            exact ⟨rfl, loads⟩
          · rintro ⟨rfl, -⟩
            rfl

/-- The balance of a provider that loads is not negative. -/
theorem manualSource_ok {metadata : HoldingMetadata} {db : TreasuryDatabase}
    {policy : SweepPolicyRow} {provider : CustodialProviderRow}
    (found : manualSource metadata db policy = .ok provider) : 0 ≤ provider.currentBalance := by
  rw [manualSource, bind_ok_iff] at found
  obtain ⟨source, -, found⟩ := found
  split at found
  · split at found
    · cases found
    · rw [bind_ok_iff] at found
      obtain ⟨stored, read, found⟩ := found
      split at found
      · cases found
      · cases found
        rw [CustodialProviderRepo.get] at read
        split at read
        · cases read
        · rename_i row _
          cases checked : row.postInit with
          | error error =>
              rw [checked] at read
              cases read
          | ok row' =>
              rw [checked] at read
              cases read
              rw [CustodialProviderRow.postInit] at checked
              repeat' split at checked
              all_goals try cases checked
              rename_i floor
              rw [CustodialProviderRow.currentBalance]
              cases known : provider.lastKnownBalanceSats with
              | none => exact le_refl _
              | some balance => simpa [known] using floor
  · cases found

section Manual

variable {custody : Custody} {metadata : HoldingMetadata} {db : TreasuryDatabase} {policyId : Uuid}
  {policy : SweepPolicyRow} {amountSats : Option Int} {now : Timestamp}
  {provider : CustodialProviderRow} {address : String} {credentials : Credentials}

/-- A manual execution is prepared exactly when its checks pass. -/
theorem prepareSweep_ok_iff {prepared : PreparedSweep} :
    prepareSweep custody metadata db policyId amountSats now = .ok prepared ↔
      ∃ policy provider address credentials, policy.id = policyId ∧
        ManualReady custody metadata db policy amountSats provider address credentials ∧
          prepared =
            ⟨policy.requestedRow (SweepSession.start db).freshExecutionId provider amountSats now,
              provider.adapterId, credentials, policy.manualAmount provider amountSats, address⟩ := by
  have built : ∀ (policy : SweepPolicyRow) (provider : CustodialProviderRow),
      0 ≤ provider.currentBalance → 0 < policy.manualAmount provider amountSats →
        newSweepExecution (SweepSession.start db).freshExecutionId policy.id now .manual
            provider.currentBalance (policy.manualAmount provider amountSats) .requested =
          .ok (policy.requestedRow (SweepSession.start db).freshExecutionId provider amountSats
            now) := by
    intro policy provider floor positive
    rw [newSweepExecution, if_neg (Int.not_lt.mpr floor), if_neg (by omega)]
    rfl
  constructor
  · intro run
    rw [prepareSweep, bind_ok_iff] at run
    obtain ⟨policy, found, run⟩ := run
    obtain ⟨stored, loads⟩ := getSweepPolicy_ok_iff.mp found
    split at run
    · cases run
    · rename_i enabled
      rw [bind_ok_iff] at run
      obtain ⟨provider, source, run⟩ := run
      rw [bind_ok_iff] at run
      obtain ⟨address, destination, run⟩ := run
      rw [bind_ok_iff] at run
      obtain ⟨credentials, resolved, run⟩ := run
      simp only at run
      split at run
      · cases run
      · rename_i positive
        have same : policy.id = policyId := Table.key_of_get? stored
        rw [← same] at stored
        have ready : ManualReady custody metadata db policy amountSats provider address
            credentials :=
          ⟨stored, loads, by simpa using enabled, source, destination, resolved,
            Int.not_le.mp positive⟩
        rw [bind_ok_iff] at run
        obtain ⟨execution, made, run⟩ := run
        rw [show amountSats.getD (policy.sweepAmount provider.currentBalance) =
          policy.manualAmount provider amountSats from rfl,
          built policy provider (manualSource_ok source) ready.positive] at made
        cases made
        cases run
        exact ⟨policy, provider, address, credentials, same, ready, rfl⟩
  · rintro ⟨policy, provider, address, credentials, rfl, ready, rfl⟩
    have found := getSweepPolicy_ok_iff.mpr ⟨ready.stored, ready.loads⟩
    have positive : ¬amountSats.getD (policy.sweepAmount provider.currentBalance) ≤ 0 :=
      Int.not_le.mpr ready.positive
    have made := built policy provider (manualSource_ok ready.source) ready.positive
    rw [SweepPolicyRow.manualAmount] at made
    simp only [prepareSweep, found, ready.enabled, ready.source, ready.destination,
      ready.credentials, bind, Except.bind, positive, made]
    rfl

/-- The policy, the provider, the address and the credentials of a manual execution are
    determined. -/
theorem ManualReady.unique {policy' : SweepPolicyRow} {provider' : CustodialProviderRow}
    {address' : String} {credentials' : Credentials}
    (ready : ManualReady custody metadata db policy amountSats provider address credentials)
    (ready' : ManualReady custody metadata db policy' amountSats provider' address' credentials')
    (same : policy.id = policy'.id) :
    policy = policy' ∧ provider = provider' ∧ address = address' ∧ credentials = credentials' := by
  have stored := ready.stored
  rw [same, ready'.stored] at stored
  cases stored
  have source := ready.source
  rw [ready'.source] at source
  cases source
  have destination := ready.destination
  rw [ready'.destination] at destination
  cases destination
  have resolved := ready.credentials
  rw [ready'.credentials] at resolved
  cases resolved
  exact ⟨rfl, rfl, rfl, rfl⟩

/-! ### The withdrawal -/

/-- How the provider's adapter answers a withdrawal, or its construction fails. -/
def withdrawalAnswer (custody : Custody) (provider : CustodialProviderRow)
    (credentials : Credentials) (amountSats : Int) (address : String) : Except PyError String :=
  match buildAdapter custody provider.adapterId credentials with
  | .error error => .error error
  | .ok _ => custody.withdraw provider.adapterId credentials amountSats address

/-- The effects of asking for a withdrawal: there are none before the adapter is built. -/
def withdrawalEffects (custody : Custody) (policyId : Uuid) (provider : CustodialProviderRow)
    (credentials : Credentials) (amountSats : Int) (address : String) : List SweepEffect :=
  match buildAdapter custody provider.adapterId credentials with
  | .error _ => []
  | .ok _ => [.withdrawal policyId amountSats address]

section Attempts

variable (custody : Custody) (execution : SweepExecutionRow) (provider : CustodialProviderRow)
  (credentials : Credentials) (amountSats : Int) (address : String)

theorem attemptWithdrawal_fst :
    (attemptWithdrawal custody ⟨execution, provider.adapterId, credentials, amountSats, address⟩).1 =
      withdrawalEffects custody execution.sweepPolicyId provider credentials amountSats address := by
  rw [attemptWithdrawal, withdrawalEffects]
  cases buildAdapter custody provider.adapterId credentials <;> rfl

theorem attemptWithdrawal_snd :
    (attemptWithdrawal custody ⟨execution, provider.adapterId, credentials, amountSats, address⟩).2 =
      withdrawalAnswer custody provider credentials amountSats address := by
  rw [attemptWithdrawal, withdrawalAnswer]
  cases buildAdapter custody provider.adapterId credentials <;> rfl

end Attempts

/-- The provider refused: the failure of a withdrawal that is recorded. -/
def PyError.FromProvider (error : PyError) : Prop :=
  error.cls = .providerAuthError ∨ error.cls = .providerError

instance (error : PyError) : Decidable error.FromProvider :=
  inferInstanceAs (Decidable (_ ∨ _))

/-- The row that is left of a manual execution once the adapter has answered. -/
def SweepExecutionRow.answered (row : SweepExecutionRow) :
    Except PyError String → Option SweepExecutionRow
  | .ok withdrawalId => some { row with providerWithdrawalId := some withdrawalId }
  | .error error =>
      if error.FromProvider then
        some
          { row with
            status := .failed
            errorMessage := some error.message
            completedAt := some row.triggeredAt }
      else none

/-- The row that a manual execution of the policy leaves. -/
def manualRow (custody : Custody) (policy : SweepPolicyRow) (executionId : Uuid)
    (amountSats : Option Int) (now : Timestamp) (provider : CustodialProviderRow) (address : String)
    (credentials : Credentials) : Option SweepExecutionRow :=
  (policy.requestedRow executionId provider amountSats now).answered
    (withdrawalAnswer custody provider credentials (policy.manualAmount provider amountSats) address)

/-- A manual execution that fails its checks changes nothing and asks no adapter. -/
theorem executeSweepNow_of_not_ready
    (refused : ∀ policy provider address credentials, policy.id = policyId →
      ¬ManualReady custody metadata db policy amountSats provider address credentials)
    (now : Timestamp) :
    ∃ error, executeSweepNow custody metadata db policyId amountSats now =
      ⟨db, [], some error⟩ := by
  rw [executeSweepNow]
  cases preparation : prepareSweep custody metadata db policyId amountSats now with
  | error error => exact ⟨error, rfl⟩
  | ok prepared =>
      obtain ⟨policy, provider, address, credentials, same, ready, -⟩ :=
        prepareSweep_ok_iff.mp preparation
      exact absurd ready (refused policy provider address credentials same)

/-- A manual execution that passes its checks asks the adapter, once it is built, and leaves the row
    that the answer makes of it. -/
theorem executeSweepNow_of_ready
    (ready : ManualReady custody metadata db policy amountSats provider address credentials)
    (now : Timestamp) :
    SweepAdds db
        (manualRow custody policy (SweepSession.start db).freshExecutionId amountSats now provider
          address credentials).toList
        [] (executeSweepNow custody metadata db policy.id amountSats now).db ∧
      (executeSweepNow custody metadata db policy.id amountSats now).effects =
        withdrawalEffects custody policy.id provider credentials
          (policy.manualAmount provider amountSats) address := by
  obtain ⟨row, sameRow⟩ : ∃ row, row =
    policy.requestedRow (SweepSession.start db).freshExecutionId provider amountSats now := ⟨_, rfl⟩
  have fresh : row.id = (SweepSession.start db).freshExecutionId := by
    rw [sameRow]
    rfl
  have own : row.sweepPolicyId = policy.id := by
    rw [sameRow]
    rfl
  have accepted : ∀ withdrawalId, SweepAdds db (row.answered (.ok withdrawalId)).toList []
      (((SweepSession.start db).create row).flush.updateStatus row.id .requested (some withdrawalId)
        none none).commit := by
    intro withdrawalId
    have flushed := SweepSession.updateStatus_flushed fresh .requested (some withdrawalId) none none
    rw [sameRow] at flushed ⊢
    exact flushed
  have failed : ∀ error : PyError, error.FromProvider →
      SweepAdds db (row.answered (.error error)).toList []
        (((SweepSession.start db).create row).flush.updateStatus row.id .failed none
          (some error.message) (some now)).commit := by
    intro error recorded
    have flushed := SweepSession.updateStatus_flushed fresh .failed none (some error.message)
      (some now)
    rw [SweepExecutionRow.answered, if_pos recorded]
    rw [sameRow] at flushed ⊢
    exact flushed
  have preparation : prepareSweep custody metadata db policy.id amountSats now = .ok
      ⟨row, provider.adapterId, credentials, policy.manualAmount provider amountSats, address⟩ := by
    rw [sameRow]
    exact prepareSweep_ok_iff.mpr ⟨policy, provider, address, credentials, rfl, ready, rfl⟩
  have asked := attemptWithdrawal_fst custody row provider credentials
    (policy.manualAmount provider amountSats) address
  have answers := attemptWithdrawal_snd custody row provider credentials
    (policy.manualAmount provider amountSats) address
  rw [executeSweepNow, preparation, manualRow, ← sameRow, ← answers, ← own, ← asked]
  simp only
  cases (attemptWithdrawal custody
      ⟨row, provider.adapterId, credentials, policy.manualAmount provider amountSats, address⟩).2 with
  | ok withdrawalId => exact ⟨accepted withdrawalId, rfl⟩
  | error error =>
      by_cases recorded : error.cls = .providerAuthError ∨ error.cls = .providerError
      · simp only [if_pos recorded]
        exact ⟨failed error recorded, trivial⟩
      · have rolledBack : row.answered (.error error) = none := if_neg recorded
        simp only [rolledBack, if_neg recorded]
        exact ⟨.refl db, trivial⟩

/-- A manual execution passes its checks or changes nothing. -/
theorem executeSweepNow_cases (custody : Custody) (metadata : HoldingMetadata)
    (db : TreasuryDatabase) (policyId : Uuid) (amountSats : Option Int) (now : Timestamp) :
    (∃ policy provider address credentials, policy.id = policyId ∧
        ManualReady custody metadata db policy amountSats provider address credentials) ∨
      (∀ policy provider address credentials, policy.id = policyId →
        ¬ManualReady custody metadata db policy amountSats provider address credentials) ∧
        ∃ error, executeSweepNow custody metadata db policyId amountSats now =
          ⟨db, [], some error⟩ := by
  by_cases checks : ∃ policy provider address credentials, policy.id = policyId ∧
      ManualReady custody metadata db policy amountSats provider address credentials
  · exact .inl checks
  · have refused : ∀ policy provider address credentials, policy.id = policyId →
        ¬ManualReady custody metadata db policy amountSats provider address credentials := by
      intro policy provider address credentials same ready
      exact checks ⟨policy, provider, address, credentials, same, ready⟩
    exact .inr ⟨refused, executeSweepNow_of_not_ready refused now⟩

/-- A manual execution adds executions, and writes nothing else. -/
theorem executeSweepNow_adds (custody : Custody) (metadata : HoldingMetadata)
    (db : TreasuryDatabase) (policyId : Uuid) (amountSats : Option Int) (now : Timestamp) :
    ∃ new, SweepAdds db new []
      (executeSweepNow custody metadata db policyId amountSats now).db := by
  rcases executeSweepNow_cases custody metadata db policyId amountSats now with
    ⟨policy, provider, address, credentials, rfl, ready⟩ | ⟨-, error, outcome⟩
  · exact ⟨_, (executeSweepNow_of_ready ready now).1⟩
  · rw [outcome]
    exact ⟨[], .refl db⟩

end Manual

end TallyKeep
