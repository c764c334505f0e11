/-
Module: TallyKeep.Proofs.DryRuns
Layer: Proofs
Purpose: Which triggers of a dry-run policy move money or leave an execution that does not end.
Trusted boundary: none
Main exports: Fires, effects_of_step, DryRunRecorded, MovesNothing, FiresNone,
  dryRunRecorded_throughout_iff
-/
import TallyKeep.Proofs.SweepPolicies
import TallyKeep.Proofs.TreasurySteps

namespace TallyKeep

open Relational Transition History

variable {Psbt Tx : Type}

/-! ### Triggers that fire -/

/-- A trigger fires on a policy: an event or a poll sweeps it, or a manual execution passes its
    checks and does not fail to build its adapter for a reason other than the provider's. -/
inductive Fires (bdk : Bdk Psbt Tx) (db : TreasuryDatabase) :
    TreasuryOperation → SweepPolicyRow → Prop where
  | event {listing : PolicyListing} {holdingId : Uuid} {balanceSats : Int}
      {clock : Uuid → Timestamp} {policy : SweepPolicyRow}
      (sweeps : EventSweeps db holdingId balanceSats policy) :
      Fires bdk db (.balanceUpdated listing holdingId balanceSats clock) policy
  | poll {ctx : PollContext} {policy : SweepPolicyRow} (lists : PollLists db)
      (sweeps : SweptIn bdk ctx db (polledPolicies ctx db) policy) :
      Fires bdk db (.pollOnce ctx) policy
  | manual {custody : Custody} {metadata : HoldingMetadata} {policy : SweepPolicyRow}
      {amountSats : Option Int} {now : Timestamp} {provider : CustodialProviderRow}
      {address : String} {credentials : Credentials}
      (ready : ManualReady custody metadata db policy amountSats provider address credentials)
      (reached : ∀ error, buildAdapter custody provider.adapterId credentials = .error error →
        error.FromProvider) :
      Fires bdk db (.executeSweepNow custody metadata policy.id amountSats now) policy

section Firing

variable {bdk : Bdk Psbt Tx} {db : TreasuryDatabase} {operation : TreasuryOperation}
  {policy : SweepPolicyRow}

/-- What sweeps a policy fires on it. -/
theorem Sweeps.fires {row : SweepExecutionRow} (sweeps : Sweeps bdk db operation policy row) :
    Fires bdk db operation policy := by
  cases sweeps with
  | event sweeps => exact .event sweeps
  | poll lists sweeps => exact .poll lists sweeps
  | @manual custody _ _ _ _ provider _ credentials _ ready left =>
      apply Fires.manual ready
      intro error failed
      rw [manualRow, withdrawalAnswer, failed, SweepExecutionRow.answered] at left
      by_contra other
      rw [if_neg other] at left
      cases left

/-- A trigger fires on stored policies that are enabled. -/
theorem Fires.enabled (fires : Fires bdk db operation policy) :
    policy ∈ db.sweepPolicies.rows ∧ policy.isEnabled = true := by
  cases fires with
  | event sweeps =>
      obtain ⟨stored, -, enabled⟩ := mem_selected.mp sweeps.2.1
      exact ⟨stored, enabled true rfl⟩
  | poll lists sweeps =>
      obtain ⟨stored, -, enabled⟩ := mem_selected.mp sweeps.listed
      exact ⟨stored, enabled true rfl⟩
  | manual ready reached => exact ⟨Table.mem_of_get? ready.stored, ready.enabled⟩

/-- An execution is left neither completed nor with the time it was. -/
theorem Sweeps.status_ne_completed {row : SweepExecutionRow}
    (sweeps : Sweeps bdk db operation policy row) : row.status ≠ .completed := by
  have initial : policy.initialStatus ≠ .completed := by
    rw [SweepPolicyRow.initialStatus]
    split <;> simp
  cases sweeps with
  | event => exact initial
  | poll => exact initial
  | @manual custody _ _ amountSats _ provider address credentials _ ready left =>
      rw [manualRow] at left
      cases answer : withdrawalAnswer custody provider credentials
          (policy.manualAmount provider amountSats) address with
      | ok withdrawalId =>
          rw [answer] at left
          cases left
          simp [SweepPolicyRow.requestedRow]
      | error error =>
          rw [answer, SweepExecutionRow.answered] at left
          split at left
          · cases left
            simp
          · cases left

/-- A trigger that fires asks an adapter for a withdrawal or leaves an execution. -/
theorem Fires.asks_or_sweeps (fires : Fires bdk db operation policy) :
    (∃ effect ∈ (treasuryPerform bdk db operation).effects, effect.policyId = policy.id) ∨
      ∃ row, Sweeps bdk db operation policy row := by
  cases fires with
  | event sweeps => exact .inr ⟨_, .event sweeps⟩
  | poll lists sweeps => exact .inr ⟨_, .poll lists sweeps⟩
  | @manual custody metadata _ amountSats now provider address credentials ready reached =>
      cases built : buildAdapter custody provider.adapterId credentials with
      | error error =>
          have left : ∃ row, manualRow custody policy 0 amountSats now provider address credentials =
              some row := by
            rw [manualRow, withdrawalAnswer, built, SweepExecutionRow.answered,
              if_pos (reached error built)]
            exact ⟨_, rfl⟩
          obtain ⟨row, left⟩ := left
          exact .inr ⟨row, .manual ready left⟩
      | ok _ =>
          refine .inl ⟨.withdrawal policy.id (policy.manualAmount provider amountSats) address, ?_, rfl⟩
          simp only [treasuryPerform, (executeSweepNow_of_ready ready now).2, withdrawalEffects,
            built, List.mem_singleton]

/-- Every effect comes from a trigger that fires on its policy. -/
theorem effects_of_step {effect : SweepEffect}
    (happened : effect ∈ (treasuryPerform bdk db operation).effects) :
    ∃ policy, policy.id = effect.policyId ∧ Fires bdk db operation policy := by
  have silent : ∀ out, (commitTreasury db out).effects = [] := by
    intro out
    cases out <;> rfl
  cases operation with
  | balanceUpdated listing holdingId balanceSats clock =>
      simp only [treasuryPerform] at happened
      rw [(onBalanceUpdated_adds listing db holdingId balanceSats clock).2] at happened
      cases happened
  | pollOnce ctx =>
      simp only [treasuryPerform] at happened
      rcases pollOnce_cases bdk ctx db with
        ⟨lists, outcome, new, made, leaves⟩ | ⟨-, error, outcome⟩
      · rw [outcome] at happened
        obtain ⟨policy, sweeps, -, same⟩ := leaves.effects effect happened
        exact ⟨policy, same.symm, .poll lists sweeps⟩
      · rw [outcome] at happened
        cases happened
  | executeSweepNow custody metadata policyId amountSats now =>
      simp only [treasuryPerform] at happened
      rcases executeSweepNow_cases custody metadata db policyId amountSats now with
        ⟨policy, provider, address, credentials, rfl, ready⟩ | ⟨-, error, outcome⟩
      · rw [(executeSweepNow_of_ready ready now).2, withdrawalEffects] at happened
        split at happened
        · cases happened
        · rename_i built
          rw [List.mem_singleton.mp happened]
          refine ⟨policy, rfl, .manual ready ?_⟩
          intro error failed
          rw [built] at failed
          cases failed
      · rw [outcome] at happened
        cases happened
  | elsewhere base =>
      simp only [treasuryPerform] at happened
      split at happened <;> cases happened
  | pauseAllPolicies => cases happened
  | resumeAllPolicies => cases happened
  | writeProviders providers => cases happened
  | createSweepPolicy metadata order => simp [treasuryPerform, silent] at happened
  | updateSweepPolicy metadata policyId patch => simp [treasuryPerform, silent] at happened
  | deleteSweepPolicy policyId => simp [treasuryPerform, silent] at happened
  | enableSweepPolicy policyId => simp [treasuryPerform, silent] at happened
  | disableSweepPolicy policyId => simp [treasuryPerform, silent] at happened
  | acknowledgeWarnings policyId => simp [treasuryPerform, silent] at happened
  | confirmSweepExecution executionId => simp [treasuryPerform, silent] at happened

end Firing

/-! ### Dry runs -/

/-- The policy, while it is stored, is a dry run, and its executions are completed, with the
    time. -/
structure DryRunRecorded (policyId : Uuid) (db : TreasuryDatabase) : Prop where
  dry : ∀ policy, db.sweepPolicies.get? policyId = some policy → policy.isDryRun = true
  ended : ∀ row ∈ ofPolicy policyId db.sweepExecutions.rows,
    row.status = .completed ∧ row.completedAt.isSome = true

/-- An operation asks no adapter for a withdrawal and makes no payment request for the policy. -/
def MovesNothing (bdk : Bdk Psbt Tx) (policyId : Uuid) (db : TreasuryDatabase)
    (operation : TreasuryOperation) : Prop :=
  ∀ effect ∈ (treasuryPerform bdk db operation).effects, effect.policyId ≠ policyId

/-- An operation fires no trigger on the policy. -/
def FiresNone (bdk : Bdk Psbt Tx) (policyId : Uuid) (db : TreasuryDatabase)
    (operation : TreasuryOperation) : Prop :=
  ∀ policy, policy.id = policyId → ¬Fires bdk db operation policy

/-- Executions that are all completed stay so unless the policy is swept. -/
theorem ended_of_carried {rows rows' : List SweepExecutionRow}
    (ended : ∀ row ∈ rows, row.status = .completed ∧ row.completedAt.isSome = true)
    (carried : Carried SweepExecutionRow.Progress rows rows') :
    ∀ row ∈ rows', row.status = .completed ∧ row.completedAt.isSome = true := by
  intro row' present
  obtain ⟨row, stored, progress⟩ := carried.exists_of_mem present
  have completed := ended row stored
  rw [progress.ended (.inl completed.1)]
  exact completed

/-- An operation that keeps the record and moves nothing has fired no trigger. -/
theorem firesNone_of_recorded {bdk : Bdk Psbt Tx} {chain : Chain} {policyId : Uuid}
    {db : TreasuryDatabase} {operation : TreasuryOperation}
    (legal : TreasuryLegal chain db operation) (moves : MovesNothing bdk policyId db operation)
    (after : DryRunRecorded policyId (treasuryStep bdk db operation)) :
    FiresNone bdk policyId db operation := by
  intro policy own fires
  rcases fires.asks_or_sweeps with ⟨effect, happened, same⟩ | ⟨row, sweeps⟩
  · exact moves effect happened (same.trans own)
  · rcases ofPolicy_of_step bdk legal policyId with
      ⟨policy', row', -, sweeps', -, rows⟩ | ⟨idle, -⟩
    · have present : row' ∈ ofPolicy policyId
          (treasuryStep bdk db operation).sweepExecutions.rows := by
        rw [rows]
        simp
      exact sweeps'.status_ne_completed (after.ended row' present).1
    · exact idle policy row sweeps own

/-- An operation that fires no trigger on the policy moves nothing and keeps the record. -/
theorem recorded_of_firesNone {bdk : Bdk Psbt Tx} {chain : Chain} {policyId : Uuid}
    {db : TreasuryDatabase} {operation : TreasuryOperation} (recorded : DryRunRecorded policyId db)
    (defined : ¬operation.Redefines) (legal : TreasuryLegal chain db operation)
    (quiet : FiresNone bdk policyId db operation) :
    MovesNothing bdk policyId db operation ∧
      DryRunRecorded policyId (treasuryStep bdk db operation) := by
  constructor
  · intro effect happened same
    obtain ⟨policy, own, fires⟩ := effects_of_step happened
    exact quiet policy (own.trans same) fires
  · constructor
    · intro policy' found
      obtain ⟨policy, stored, same⟩ :=
        (policyWrite_of_step bdk db operation).get?_sameTerms defined found
      rw [same]
      exact recorded.dry policy stored
    · rcases ofPolicy_of_step bdk legal policyId with
        ⟨policy, row, own, sweeps, -, -⟩ | ⟨-, carried⟩
      · exact absurd sweeps.fires (quiet policy own)
      · exact ended_of_carried recorded.ended carried

/-- Along any triggers a dry-run policy moves nothing and all its executions are completed exactly
    if no trigger fires on it. -/
theorem dryRunRecorded_throughout_iff (bdk : Bdk Psbt Tx) (chain : Chain) {policyId : Uuid}
    {db db' : TreasuryDatabase} {operations : List TreasuryOperation}
    (first : DryRunRecorded policyId db) :
    Throughout (TriggerStep bdk chain) (DryRunRecorded policyId) (MovesNothing bdk policyId) db
        operations db' ↔
      Run (guarded (TriggerStep bdk chain) (FiresNone bdk policyId)) db operations db' := by
  apply Run.throughout_iff (I := fun _ => True) _ _ trivial first
  · intro _ _ _ _ _
    trivial
  · intro s operation t _ recorded taken
    obtain ⟨defined, legal, rfl⟩ := taken
    constructor
    · intro ⟨moves, after⟩
      exact firesNone_of_recorded legal moves after
    · intro quiet
      exact recorded_of_firesNone recorded defined legal quiet

/-! ### A dry run of the sample policy -/

theorem dryRunRecorded_sampleEnabled : DryRunRecorded 1 (sampleEnabled 30 true) := by
  have rows : (sampleEnabled 30 true).sweepExecutions.rows = [] := by
    decide
  have stored : (sampleEnabled 30 true).sweepPolicies.rows.map SweepPolicyRow.isDryRun = [true] := by
    decide
  constructor
  · intro policy found
    have flag := List.mem_map_of_mem (f := SweepPolicyRow.isDryRun) (Table.mem_of_get? found)
    rw [stored] at flag
    exact List.mem_singleton.mp flag
  · intro row present
    rw [rows] at present
    cases present

/-- The adapter and the secret store of the sample provider. -/
def sampleCustody : Custody where
  getSecret reference := .ok reference
  construct _ _ := .ok ()
  withdraw _ _ _ _ := .ok "withdrawal 1"

/-- A low balance, and after the policy is disabled a high one and a manual execution. -/
def sampleQuiet : List TreasuryOperation :=
  [.balanceUpdated .inOrder 30 40000 fun _ => 0, .disableSweepPolicy 1,
    .balanceUpdated .inOrder 30 100000 fun _ => hour,
    .executeSweepNow sampleCustody sampleMetadata 1 none hour]

/-- No trigger fires on a balance below the threshold, or on a disabled policy. -/
theorem dryRunRecorded_throughout_iff_quiet :
    Throughout (TriggerStep sampleBdk sampleChain) (DryRunRecorded 1) (MovesNothing sampleBdk 1)
      (sampleEnabled 30 true) sampleQuiet
      (sampleQuiet.foldl (treasuryStep sampleBdk) (sampleEnabled 30 true)) := by
  apply (dryRunRecorded_throughout_iff sampleBdk sampleChain dryRunRecorded_sampleEnabled).mpr
  have low : FiresNone sampleBdk 1 (sampleEnabled 30 true)
      (.balanceUpdated .inOrder 30 40000 fun _ => 0) := by
    intro policy _ fires
    cases fires with
    | event sweeps =>
        have none : ∀ row ∈ (sampleEnabled 30 true).sweepPolicies.rows, ¬row.SweptAt 40000 := by
          decide
        exact none policy (mem_selected.mp sweeps.2.1).1 sweeps.2.2
  have disables : FiresNone sampleBdk 1
      ((sampleQuiet.take 1).foldl (treasuryStep sampleBdk) (sampleEnabled 30 true))
      (.disableSweepPolicy 1) := by
    intro policy _ fires
    cases fires
  have disabled : ∀ n, n = 2 ∨ n = 3 → ∀ row ∈ ((sampleQuiet.take n).foldl
      (treasuryStep sampleBdk) (sampleEnabled 30 true)).sweepPolicies.rows,
        row.isEnabled = false := by
    rintro n (rfl | rfl) <;> decide
  have off : ∀ n, n = 2 ∨ n = 3 → ∀ operation, FiresNone sampleBdk 1
      ((sampleQuiet.take n).foldl (treasuryStep sampleBdk) (sampleEnabled 30 true)) operation := by
    intro n late operation policy _ fires
    obtain ⟨stored, enabled⟩ := fires.enabled
    rw [disabled n late policy stored] at enabled
    cases enabled
  exact .cons ⟨low, id, trivial, rfl⟩ (.cons ⟨disables, id, trivial, rfl⟩
    (.cons ⟨off 2 (.inl rfl) _, id, trivial, rfl⟩ (.cons ⟨off 3 (.inr rfl) _, id, trivial, rfl⟩
      (.stop _))))

/-- A balance above it leaves an execution that is not completed, and a manual execution of the
    dry-run policy withdraws. -/
theorem not_dryRunRecorded_of_highBalance :
    Run (TriggerStep sampleBdk sampleChain) (sampleEnabled 30 true)
        [.balanceUpdated .inOrder 30 100000 fun _ => 0]
        (treasuryStep sampleBdk (sampleEnabled 30 true)
          (.balanceUpdated .inOrder 30 100000 fun _ => 0)) ∧
      ¬DryRunRecorded 1
        (treasuryStep sampleBdk (sampleEnabled 30 true)
          (.balanceUpdated .inOrder 30 100000 fun _ => 0)) ∧
        ¬MovesNothing sampleBdk 1 (sampleEnabled 30 true)
          (.executeSweepNow sampleCustody sampleMetadata 1 none 0) := by
  refine ⟨.cons ⟨id, trivial, rfl⟩ (.stop _), ?_, ?_⟩
  · intro recorded
    have requested : (ofPolicy 1 (treasuryStep sampleBdk (sampleEnabled 30 true)
        (.balanceUpdated .inOrder 30 100000 fun _ => 0)).sweepExecutions.rows).map
          SweepExecutionRow.status = [.requested] := by
      decide
    have completed : ∀ status ∈ (ofPolicy 1 (treasuryStep sampleBdk (sampleEnabled 30 true)
        (.balanceUpdated .inOrder 30 100000 fun _ => 0)).sweepExecutions.rows).map
          SweepExecutionRow.status, status = .completed := by
      intro status listed
      obtain ⟨row, present, rfl⟩ := List.mem_map.mp listed
      exact (recorded.ended row present).1
    rw [requested] at completed
    simp at completed
  · intro moves
    have withdrawn : (treasuryPerform sampleBdk (sampleEnabled 30 true)
        (.executeSweepNow sampleCustody sampleMetadata 1 none 0)).effects =
          [.withdrawal 1 40000 "bcrt1qb"] := by
      decide
    have asked := moves (.withdrawal 1 40000 "bcrt1qb")
    rw [withdrawn] at asked
    exact asked (List.mem_singleton_self _) rfl

end TallyKeep
