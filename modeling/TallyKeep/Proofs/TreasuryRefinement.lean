/-
Module: TallyKeep.Proofs.TreasuryRefinement
Layer: Proofs
Purpose: Every operation of the treasury is, on the tables of the rest of the program, a run of its
  operations, so what holds of its reachable states holds along every run of the treasury.
Trusted boundary: none
Main exports: Refined, refined_of_step, refined_of_run, TreasuryReached,
  reached_of_treasuryReached, sound_of_treasuryReached
-/
import TallyKeep.Proofs.SystemInvariant
import TallyKeep.Proofs.TreasurySteps

namespace TallyKeep

open Relational Transition

variable {Psbt Tx : Type}

/-- On the tables of the rest of the program, a run of its operations leads to the second
    database. -/
def Refined (bdk : Bdk Psbt Tx) (chain : Chain) (db after : TreasuryDatabase) : Prop :=
  ∃ operations, Run (SystemStep bdk chain) db.toDatabase operations after.toDatabase

section Refinement

variable {bdk : Bdk Psbt Tx} {chain : Chain} {db middle after : TreasuryDatabase}

namespace Refined

theorem refl (db : TreasuryDatabase) : Refined bdk chain db db := ⟨[], .stop _⟩

theorem trans (first : Refined bdk chain db middle) (second : Refined bdk chain middle after) :
    Refined bdk chain db after := by
  obtain ⟨operations, firstRun⟩ := first
  obtain ⟨operations', secondRun⟩ := second
  exact ⟨operations ++ operations', firstRun.append secondRun⟩

theorem of_same (same : after.toDatabase = db.toDatabase) : Refined bdk chain db after := by
  rw [Refined, same]
  exact ⟨[], .stop _⟩

theorem of_operation (operation : Operation) (legal : Legal chain operation)
    (same : after.toDatabase = step bdk db.toDatabase operation) : Refined bdk chain db after :=
  ⟨[operation], .single ⟨legal, same⟩⟩

end Refined

/-! ### Added rows -/

/-- Added executions are created one after the other. -/
theorem SweepAdds.refined {executions : List SweepExecutionRow}
    (adds : SweepAdds db executions [] after) : Refined bdk chain db after := by
  induction executions generalizing db with
  | nil =>
      apply Refined.of_same
      rw [adds.tables, adds.paymentRequests,
        Table.ext (adds.executions.trans (List.append_nil _))]
  | cons row rest inductionHypothesis =>
      have absent : db.sweepExecutions.get? (key row) = none := adds.fresh List.mem_cons_self
      have rows := Table.rows_insert_of_fresh absent
      have created : Refined bdk chain db
          { db with toDatabase := SweepExecutionRepo.create db.toDatabase row } :=
        .of_operation (.createSweepExecution row) trivial rfl
      apply created.trans
      apply inductionHypothesis
      constructor
      · rw [adds.tables]
        rfl
      · rw [adds.executions]
        simp only [SweepExecutionRepo.create, rows, List.append_assoc, List.singleton_append]
      · exact adds.requests

/-! ### Polls -/

theorem thresholdExecution_id {session : SweepSession} {policy : SweepPolicyRow}
    {balanceSats amountSats : Int} {now : Timestamp} {row : SweepExecutionRow}
    (built : thresholdExecution session policy balanceSats amountSats now = .ok row) :
    row.id = session.freshExecutionId := by
  rw [thresholdExecution, newSweepExecution] at built
  split at built
  · cases built
  · split at built
    · cases built
    · cases built
      rfl

/-- The request of a sweep is built before its execution is added: the builder does not see the
    row. -/
theorem triggerSweep_refined {node : PaymentNode} {policy : SweepPolicyRow}
    {balanceSats amountSats : Int} {now : Timestamp} {request : Option PaymentRequestRow}
    (run : triggerSweep bdk node db policy balanceSats amountSats now = .ok (after, request)) :
    Refined bdk chain db after := by
  rw [triggerSweep, bind_ok_iff] at run
  obtain ⟨row, built, run⟩ := run
  have fresh := thresholdExecution_id built
  have started := SweepSession.Added.start db
  have unseen : (SweepSession.start db).visible.sweepExecutions.get? row.id = none := by
    rw [fresh]
    exact started.get?_fresh
  have alone := (started.create fresh).written
  simp only [(SweepSession.start db).updateStatus_added unseen] at run
  split at run
  · cases run
    exact alone.refined
  · split at run
    · cases run
      exact alone.refined
    · rename_i address _
      split at run
      · cases run
        exact alone.refined
      · cases run
      · rename_i base made requested
        cases run
        rcases buildPaymentRequest_ok requested with ⟨-, impossible⟩ | ⟨-, _, _, -, same, inserted⟩
        · cases impossible
        · have absent : db.paymentRequests.get? made.id = none := by
            rw [Option.some.inj same]
            exact db.paymentRequests.get?_freshKey
          rw [((SweepSession.start db).create row).linkRequest_added absent]
          have asked : buildPaymentRequest bdk node db.toDatabase
              (policy.paymentOrder address amountSats) now = .ok (base, some made) := requested
          have built : Refined bdk chain db { db with toDatabase := base } := by
            apply Refined.of_operation
              (.buildPaymentRequest node (policy.paymentOrder address amountSats) now) trivial
            simp only [step, perform, asked, Except.map, commitOrRollback]
          apply built.trans
          apply Refined.of_operation (.createSweepExecution row) trivial
          rw [inserted, ← Option.some.inj same]
          rfl

theorem pollPolicy_refined {ctx : PollContext} {policy : SweepPolicyRow}
    {request : Option PaymentRequestRow}
    (run : pollPolicy bdk ctx db policy = .ok (after, request)) : Refined bdk chain db after := by
  rw [pollPolicy, bind_ok_iff] at run
  obtain ⟨source, -, run⟩ := run
  split at run
  · cases run
    exact .refl db
  · split at run
    · cases run
      exact .refl db
    · rw [bind_ok_iff] at run
      obtain ⟨amount, -, run⟩ := run
      split at run
      · cases run
        exact .refl db
      · exact triggerSweep_refined run

variable (bdk chain) in
theorem pollRounds_refined (ctx : PollContext) (db : TreasuryDatabase)
    (policies : List SweepPolicyRow) :
    Refined bdk chain db (pollRounds bdk ctx db policies).db := by
  induction policies generalizing db with
  | nil => exact .refl db
  | cons policy rest inductionHypothesis =>
      rw [pollRounds]
      split
      · exact inductionHypothesis db
      · split
        · exact .refl db
        · rename_i after round
          exact (pollPolicy_refined round).trans (inductionHypothesis after)
        · rename_i after made round
          simp only
          split
          · exact pollPolicy_refined round
          · exact (pollPolicy_refined round).trans (inductionHypothesis after)

/-! ### Every operation -/

theorem onBalanceUpdated_refined (listing : PolicyListing) (holdingId : Uuid) (balanceSats : Int)
    (clock : Uuid → Timestamp) :
    Refined bdk chain db (onBalanceUpdated listing db holdingId balanceSats clock).db := by
  obtain ⟨⟨new, adds⟩, -⟩ := onBalanceUpdated_adds listing db holdingId balanceSats clock
  exact adds.refined

theorem executeSweepNow_refined (custody : Custody) (metadata : HoldingMetadata) (policyId : Uuid)
    (amountSats : Option Int) (now : Timestamp) :
    Refined bdk chain db (executeSweepNow custody metadata db policyId amountSats now).db := by
  obtain ⟨new, adds⟩ := executeSweepNow_adds custody metadata db policyId amountSats now
  exact adds.refined

theorem confirmSweepExecution_refined {executionId : Uuid}
    (run : confirmSweepExecution db executionId = .ok after) : Refined bdk chain db after := by
  rw [confirmSweepExecution] at run
  split at run
  · cases run
  · rename_i execution found
    split at run
    · cases run
    · cases run
      apply Refined.of_operation
        (.updateSweepExecution executionId .requested none none none none none) trivial
      simp only [SweepSession.updateStatus, SweepSession.start, SweepSession.commit, found]
      rfl

/-- Every operation of the treasury is a run of the rest of the program. -/
theorem refined_of_step {operation : TreasuryOperation}
    (taken : TreasuryStep bdk chain db operation after) : Refined bdk chain db after := by
  obtain ⟨legal, rfl⟩ := taken
  by_cases manages : operation.ManagesPolicies
  · have same := congrArg TreasuryDatabase.toDatabase
      (policySession_of_manages bdk db manages).tables
    exact .of_same same
  · cases operation with
    | balanceUpdated listing holdingId balanceSats clock =>
        exact onBalanceUpdated_refined listing holdingId balanceSats clock
    | pollOnce ctx =>
        rw [treasuryStep, treasuryPerform, pollOnce]
        split
        · exact .refl db
        · exact pollRounds_refined bdk chain ctx db _
    | executeSweepNow custody metadata policyId amountSats now =>
        exact executeSweepNow_refined custody metadata policyId amountSats now
    | confirmSweepExecution executionId =>
        rw [treasuryStep, treasuryPerform]
        cases run : confirmSweepExecution db executionId with
        | error error => exact .refl db
        | ok after => exact confirmSweepExecution_refined run
    | writeProviders providers => exact .of_same rfl
    | elsewhere base =>
        apply Refined.of_operation base legal.1
        rw [treasuryStep, treasuryPerform, step]
        generalize perform bdk db.toDatabase base = out
        obtain ⟨base', raised⟩ := out
        cases raised with
        | none => cases base <;> rfl
        | some error => rfl
    | _ => exact absurd trivial manages

/-! ### Runs -/

/-- A run of the treasury is a run of the rest of the program. -/
theorem refined_of_run {operations : List TreasuryOperation}
    (run : Run (TreasuryStep bdk chain) db operations after) : Refined bdk chain db after :=
  run.simulated TreasuryDatabase.toDatabase fun _ _ _ taken => refined_of_step taken

/-- The committed states of the treasury, from an empty database with any policies and providers
    on. -/
def TreasuryReached (bdk : Bdk Psbt Tx) (chain : Chain) : TreasuryDatabase → Prop :=
  Reachable (fun db => db.toDatabase = Database.empty) (TreasuryStep bdk chain)

/-- What the treasury reaches, the rest of the program reaches. -/
theorem reached_of_treasuryReached (reached : TreasuryReached bdk chain db) :
    Reached bdk chain db.toDatabase := by
  apply reached.simulated TreasuryDatabase.toDatabase
  · intro start empty
    exact empty
  · intro s operation t taken
    exact refined_of_step taken

/-- Sweeps leave the coins, the entries and their links sound. -/
theorem sound_of_treasuryReached (reached : TreasuryReached bdk chain db) :
    Sound chain db.toDatabase :=
  sound_of_reached (reached_of_treasuryReached reached)

end Refinement

end TallyKeep
