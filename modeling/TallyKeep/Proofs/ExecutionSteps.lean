/-
Module: TallyKeep.Proofs.ExecutionSteps
Layer: Proofs
Purpose: What the program makes of stored executions between their triggers: they are carried on,
  and one that is over stays as it is.
Trusted boundary: none
Main exports: SweepExecutionRow.Progress, updateStatus_carried, handleTxDb_carried, step_carried
-/
import TallyKeep.Library.History
import TallyKeep.Proofs.RequestSteps
import TallyKeep.TreasurySystem

namespace TallyKeep

open Relational History

variable {Psbt Tx : Type}

/-! ### Progress -/

/-- How a stored execution may change: its trigger stays, and once it is over all of it does. -/
structure SweepExecutionRow.Progress (row row' : SweepExecutionRow) : Prop where
  trigger : row' =
    { row with
      status := row'.status
      providerWithdrawalId := row'.providerWithdrawalId
      expectedTxid := row'.expectedTxid
      confirmedTxid := row'.confirmedTxid
      errorMessage := row'.errorMessage
      completedAt := row'.completedAt }
  ended : row.status.Over → row' = row

namespace SweepExecutionRow.Progress

variable {row row' row'' : SweepExecutionRow}

theorem refl (row : SweepExecutionRow) : row.Progress row := ⟨rfl, fun _ => rfl⟩

/-- Progress after progress is progress. -/
theorem trans (first : row.Progress row') (second : row'.Progress row'') : row.Progress row'' := by
  constructor
  · rw [second.trigger, first.trigger]
  · intro isOver
    have same := first.ended isOver
    rw [same] at second
    exact second.ended isOver

theorem id (progress : row.Progress row') : row'.id = row.id := by
  rw [progress.trigger]

theorem sweepPolicyId (progress : row.Progress row') : row'.sweepPolicyId = row.sweepPolicyId := by
  rw [progress.trigger]

theorem triggeredAt (progress : row.Progress row') : row'.triggeredAt = row.triggeredAt := by
  rw [progress.trigger]

theorem preBalanceSats (progress : row.Progress row') :
    row'.preBalanceSats = row.preBalanceSats := by
  rw [progress.trigger]

theorem intendedAmountSats (progress : row.Progress row') :
    row'.intendedAmountSats = row.intendedAmountSats := by
  rw [progress.trigger]

end SweepExecutionRow.Progress

/-- The executions of the second database are those of the first, each as far on as it got. -/
def ExecutionsCarried (db db' : Database) : Prop :=
  Carried SweepExecutionRow.Progress db.sweepExecutions.rows db'.sweepExecutions.rows

theorem ExecutionsCarried.of_same {db db' : Database}
    (same : db'.sweepExecutions = db.sweepExecutions) : ExecutionsCarried db db' := by
  rw [ExecutionsCarried, same]
  exact .refl SweepExecutionRow.Progress.refl _

/-- What two changes carry of the executions is carried by both. -/
theorem ExecutionsCarried.trans {db db' db'' : Database} (first : ExecutionsCarried db db')
    (second : ExecutionsCarried db' db'') : ExecutionsCarried db db'' :=
  Carried.trans (fun _ _ _ => SweepExecutionRow.Progress.trans) first second

/-- An update of an execution that is not over carries all of them on. -/
theorem updateStatus_carried {db : Database} {executionId : Uuid}
    (underway : ∀ row, db.sweepExecutions.get? executionId = some row → ¬row.status.Over)
    (status : SweepExecutionStatus)
    (providerWithdrawalId expectedTxid confirmedTxid errorMessage : Option String)
    (completedAt : Option Timestamp) :
    ExecutionsCarried db (SweepExecutionRepo.updateStatus db executionId status
      providerWithdrawalId expectedTxid confirmedTxid errorMessage completedAt) := by
  apply Carried.of_map
  intro row stored
  split
  · rename_i hit
    have found : db.sweepExecutions.get? executionId = some row := by
      rw [← hit]
      exact Table.get?_of_mem stored
    exact ⟨rfl, fun isOver => absurd isOver (underway row found)⟩
  · exact .refl row

/-! ### The listener -/

/-- The processing of a transaction leaves the executions. -/
theorem processDecodedTransaction_executions {db db' : Database} {tx : DecodedTx}
    {ctx : TxContext} {result : TxProcessingResult}
    (run : processDecodedTransaction db tx ctx = .ok (db', result)) :
    db'.sweepExecutions = db.sweepExecutions := by
  by_cases touched : Touches db tx
  · rw [processDecodedTransaction_of_touches ctx touched] at run
    cases created : createEntries (recordedStage db tx ctx).1 tx ctx
        (discoverOutputs (markInputsSpent db tx).db ctx.rowOrder tx) (stageDirection db tx ctx)
        (ctx.setOrder.enumerate (affectedHoldings db tx)) with
    | error error =>
        rw [created] at run
        cases run
    | ok booked =>
        rw [created] at run
        cases run
        rw [createEntries_tables created, recordedStage_tables]
  · rw [processDecodedTransaction_of_not_touches ctx touched] at run
    cases run
    rw [markInputsSpent_db]
    rfl

/-- The completion of a sweep carries the executions on. -/
theorem completeOriginatingSweep_carried (db : Database) (request : PaymentRequestRow)
    (txid : Txid) (now : Timestamp) :
    ExecutionsCarried db (completeOriginatingSweep db request txid now) := by
  rw [completeOriginatingSweep]
  split
  · exact .of_same rfl
  · rename_i execution originating
    split
    · exact .of_same rfl
    · rename_i underway
      apply updateStatus_carried
      intro row found
      obtain ⟨executionId, -, stored⟩ := Option.bind_eq_some_iff.mp originating
      rw [← Table.key_of_get? stored] at stored
      rw [show db.sweepExecutions.get? execution.id = some execution from stored] at found
      cases found
      exact underway

/-- A confirmation carries the executions on. -/
theorem confirmation_carried (db : Database) (result : TxProcessingResult) (now : Timestamp) :
    ExecutionsCarried db (confirmation db result now).1 := by
  rw [confirmation]
  split
  · rw [confirmRequest]
    split
    · exact .of_same rfl
    · exact ExecutionsCarried.trans (.of_same rfl) (completeOriginatingSweep_carried _ _ _ _)
  · exact .of_same rfl

/-- The step of the executions carries them on. -/
theorem sweepStep_carried (db : Database) (result : TxProcessingResult) (now : Timestamp) :
    ExecutionsCarried db (sweepStep db result now).1 := by
  rw [sweepStep]
  split
  · rename_i height execution _ first
    split
    · exact .of_same rfl
    · rename_i pending
      apply updateStatus_carried
      intro row found isOver
      have stored := (Table.mem_select.mp (List.mem_of_mem_head? first)).1
      rw [show db.sweepExecutions.get? execution.id = some execution from
        Table.get?_of_mem stored] at found
      cases found
      rw [not_not.mp pending] at isOver
      simp [SweepExecutionStatus.Over] at isOver
  · exact .of_same rfl

/-- The database phase carries the executions on. -/
theorem handleTxDb_carried {db db' : Database} {tx : DecodedTx} {ctx : TxContext}
    {events : TxEvents} (run : handleTxDb db tx ctx = .ok (db', events)) :
    ExecutionsCarried db db' := by
  cases processed : processDecodedTransaction db tx ctx with
  | error error =>
      rw [handleTxDb, processed] at run
      cases run
  | ok out =>
      obtain ⟨-, -, -, same⟩ := (handleTxDb_ok_iff_steps processed).mp run
      rw [(Prod.mk.inj same).1]
      have first : ExecutionsCarried db out.1 :=
        .of_same (processDecodedTransaction_executions processed)
      have invoices : ExecutionsCarried (confirmation out.1 out.2 ctx.now).1
          (afterInvoice out.1 out.2 tx ctx.now).1 := by
        apply ExecutionsCarried.of_same
        rw [afterInvoice, invoiceStep_tables]
      exact ((first.trans (confirmation_carried _ _ _)).trans invoices).trans (sweepStep_carried _ _ _)

/-! ### Every operation between triggers -/

/-- The rest of the program carries the executions on. -/
theorem step_carried (bdk : Bdk Psbt Tx) {db : TreasuryDatabase} {operation : Operation}
    (legal : ElsewhereLegal db operation) :
    ExecutionsCarried db.toDatabase (step bdk db.toDatabase operation) := by
  by_cases leaves : operation.LeavesRoster
  · exact .of_same (roster_of_step bdk db.toDatabase leaves).2
  · cases operation with
    | registerHolding row => exact .of_same rfl
    | changeHolding holdingId holdingType purpose declaredSigningModel => exact .of_same rfl
    | deleteHolding holdingId policyIds =>
        simp only [step, perform, deleteHolding]
        split
        · exact .of_same rfl
        · split
          · exact .of_same rfl
          · split
            · exact .of_same rfl
            · exact .of_sublist SweepExecutionRow.Progress.refl List.filter_sublist
    | createSweepExecution row => exact legal.elim
    | updateSweepExecution executionId status withdrawalId expectedTxid confirmedTxid error
        completedAt =>
        apply updateStatus_carried
        intro row found isOver
        cases legal.1 row found with
        | onchainPending expectedTxid requested =>
            rw [requested] at isOver
            simp [SweepExecutionStatus.Over] at isOver
        | dispatched outgoing =>
            rcases outgoing with outgoing | outgoing <;>
              simp [outgoing, SweepExecutionStatus.Over] at isOver
    | handleTx tx ctx =>
        apply commitOrRollback_invariant (.of_same rfl)
        intro db' run
        obtain ⟨events, run⟩ := map_fst_ok run
        exact handleTxDb_carried run
    | _ => exact absurd trivial leaves

end TallyKeep
