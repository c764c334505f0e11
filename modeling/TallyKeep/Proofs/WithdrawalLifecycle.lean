/-
Module: TallyKeep.Proofs.WithdrawalLifecycle
Layer: Proofs
Purpose: When the execution of a withdrawal gets its transaction id and is completed, whatever the
  order in which cycles, the reconciler and the chain listener advance it.
Trusted boundary: none
Main exports: SweepExecutionRow.Completing, handleTxDb_completing, completed_of_handleTxDb,
  get?_execution_commit_of_dispatches, get?_execution_recordTxids, withdrawalNext_onEntryAdded,
  withdrawalNext_pollCycle, WithdrawalTracked, Undisturbed, withdrawalTracked_throughout_iff
-/
import TallyKeep.CustodialSystem
import TallyKeep.Proofs.BroadcastRace
import TallyKeep.Proofs.ExecutionSteps
import TallyKeep.Proofs.PollCycles
import TallyKeep.Proofs.TreasuryRefinement

namespace TallyKeep

open Relational Transition

/-! ### The listener -/

/-- The listener completes an execution or leaves its status, and leaves the ids it was given. -/
structure SweepExecutionRow.Completing (row row' : SweepExecutionRow) : Prop where
  withdrawal : row'.providerWithdrawalId = row.providerWithdrawalId
  expected : row'.expectedTxid = row.expectedTxid
  status : row'.status = row.status ∨ row'.status = .completed

namespace SweepExecutionRow.Completing

variable {row row' row'' : SweepExecutionRow}

theorem refl (row : SweepExecutionRow) : row.Completing row := ⟨rfl, rfl, .inl rfl⟩

theorem trans (first : row.Completing row') (second : row'.Completing row'') :
    row.Completing row'' where
  withdrawal := second.withdrawal.trans first.withdrawal
  expected := second.expected.trans first.expected
  status := by
    cases second.status with
    | inl same =>
        rw [same]
        exact first.status
    | inr completed => exact .inr completed

end SweepExecutionRow.Completing

/-- Every execution is there afterwards, completed or with its status. -/
def ExecutionsCompleting (db db' : Database) : Prop :=
  ∀ executionId row, db.sweepExecutions.get? executionId = some row →
    ∃ row', db'.sweepExecutions.get? executionId = some row' ∧ row.Completing row'

namespace ExecutionsCompleting

variable {db db' db'' : Database}

theorem of_same (same : db'.sweepExecutions = db.sweepExecutions) : ExecutionsCompleting db db' := by
  intro executionId row found
  rw [same]
  exact ⟨row, found, .refl row⟩

theorem trans (first : ExecutionsCompleting db db') (second : ExecutionsCompleting db' db'') :
    ExecutionsCompleting db db'' := by
  intro executionId row found
  obtain ⟨row', found', step⟩ := first executionId row found
  obtain ⟨row'', found'', step'⟩ := second executionId row' found'
  exact ⟨row'', found'', step.trans step'⟩

end ExecutionsCompleting

/-- The row after `complete`. -/
def SweepExecutionRow.completedBy (row : SweepExecutionRow) (txid : Txid) (now : Timestamp) :
    SweepExecutionRow :=
  { row with
    status := .completed
    confirmedTxid := some txid.text
    completedAt := some now }

/-- The executions after one is completed. -/
theorem get?_complete (db : Database) (executionId otherId : Uuid) (txid : Txid) (now : Timestamp) :
    (SweepExecutionRepo.complete db executionId txid now).sweepExecutions.get? otherId =
      if otherId = executionId then
        (db.sweepExecutions.get? executionId).map fun row => row.completedBy txid now
      else db.sweepExecutions.get? otherId :=
  Table.get?_update db.sweepExecutions executionId otherId (fun row => row.completedBy txid now)
    fun _ => rfl

/-- Completing an execution is a completion. -/
theorem completing_complete (db : Database) (executionId : Uuid) (txid : Txid) (now : Timestamp) :
    ExecutionsCompleting db (SweepExecutionRepo.complete db executionId txid now) := by
  intro otherId row found
  rw [get?_complete]
  split
  · next same =>
    subst same
    rw [found]
    exact ⟨_, rfl, rfl, rfl, .inr rfl⟩
  · exact ⟨row, found, .refl row⟩

/-- A confirmation only completes executions. -/
theorem completing_confirmation (db : Database) (result : TxProcessingResult) (now : Timestamp) :
    ExecutionsCompleting db (confirmation db result now).1 := by
  rw [confirmation]
  split
  · rw [confirmRequest]
    split
    · exact .of_same rfl
    · simp only [completeOriginatingSweep]
      split
      · exact .of_same rfl
      · split
        · exact .of_same rfl
        · exact ExecutionsCompleting.trans (.of_same rfl) (completing_complete _ _ _ _)
  · exact .of_same rfl

/-- The step of the executions only completes some. -/
theorem completing_sweepStep (db : Database) (result : TxProcessingResult) (now : Timestamp) :
    ExecutionsCompleting db (sweepStep db result now).1 := by
  rw [sweepStep]
  split
  · split
    · exact .of_same rfl
    · exact completing_complete _ _ _ _
  · exact .of_same rfl

/-- All linking of a transaction only completes executions. -/
theorem completing_afterInvoice {db processed : Database} {tx : DecodedTx} {ctx : TxContext}
    {result : TxProcessingResult}
    (run : processDecodedTransaction db tx ctx = .ok (processed, result)) :
    ExecutionsCompleting db (afterInvoice processed result tx ctx.now).1 := by
  have first : ExecutionsCompleting db processed :=
    .of_same (processDecodedTransaction_executions run)
  have invoices : ExecutionsCompleting (confirmation processed result ctx.now).1
      (afterInvoice processed result tx ctx.now).1 := by
    apply ExecutionsCompleting.of_same
    rw [afterInvoice, invoiceStep_tables]
  exact (first.trans (completing_confirmation _ _ _)).trans invoices

/-- The only execution that expects the transaction is completed by the last step of the phase, if
    it is not already. -/
theorem completed_sweepStep {db : Database} {result : TxProcessingResult} (now : Timestamp)
    (height : result.confirmationHeight.isSome)
    (few : (SweepExecutionRepo.executionsFor db result.txid).length ≤ 1) {executionId : Uuid}
    {row : SweepExecutionRow} (found : db.sweepExecutions.get? executionId = some row)
    (expected : row.expectedTxid = some result.txid.text)
    (status : row.status = .onchainPending ∨ row.status = .completed) :
    ∃ row', (sweepStep db result now).1.sweepExecutions.get? executionId = some row' ∧
      row'.status = .completed := by
  have listed : row ∈ SweepExecutionRepo.executionsFor db result.txid :=
    Table.mem_select.mpr ⟨Table.mem_of_get? found, decide_eq_true expected⟩
  have head := eq_head_of_short few listed
  obtain ⟨confirmed, height⟩ := Option.isSome_iff_exists.mp height
  have sameId : row.id = executionId := Table.key_of_get? found
  simp only [sweepStep, height, head]
  cases status with
  | inl pending =>
      rw [if_neg (not_not_intro pending), get?_complete, if_pos sameId.symm, sameId, found]
      exact ⟨_, rfl, rfl⟩
  | inr completed =>
      have ended : row.status ≠ .onchainPending := by
        rw [completed]
        decide
      rw [if_pos ended]
      exact ⟨row, found, completed⟩

section Phase

variable {db db' : Database} {tx : DecodedTx} {ctx : TxContext} {events : TxEvents}

/-- The database phase only completes executions. -/
theorem handleTxDb_completing (run : handleTxDb db tx ctx = .ok (db', events)) :
    ExecutionsCompleting db db' := by
  cases processed : processDecodedTransaction db tx ctx with
  | error error =>
      rw [handleTxDb, processed] at run
      cases run
  | ok out =>
      obtain ⟨-, -, -, same⟩ := (handleTxDb_ok_iff_steps processed).mp run
      rw [(Prod.mk.inj same).1]
      exact (completing_afterInvoice processed).trans (completing_sweepStep _ _ _)

/-- A confirmed transaction completes the execution that waits for it. -/
theorem completed_of_handleTxDb (wellFormed : ChainWellFormed db)
    (run : handleTxDb db tx ctx = .ok (db', events)) (height : ctx.confirmationHeight.isSome)
    {executionId : Uuid} {row : SweepExecutionRow}
    (found : db.sweepExecutions.get? executionId = some row)
    (expected : row.expectedTxid = some tx.txid.text)
    (status : row.status = .onchainPending ∨ row.status = .completed) :
    ∃ row', db'.sweepExecutions.get? executionId = some row' ∧ row'.status = .completed := by
  obtain ⟨chainDb, result, direction, postings, runs, processed⟩ :=
    processDecodedTransaction_spec wellFormed tx ctx
  obtain ⟨-, -, few, same⟩ := (handleTxDb_ok_iff_steps runs).mp run
  rw [(Prod.mk.inj same).1]
  rw [← processed.confirmationHeight] at height
  obtain ⟨middle, between, completing⟩ := completing_afterInvoice runs executionId row found
  apply completed_sweepStep ctx.now height (few height) between
  · rw [completing.expected, expected, processed.txid]
  · cases completing.status with
    | inl unchanged =>
        rw [unchanged]
        exact status
    | inr completed => exact .inr completed

end Phase

/-! ### The reconciler -/

/-- The session dispatches the execution. -/
def Reconciliation.Dispatches (reconciliation : Reconciliation) (executionId : Uuid) : Prop :=
  ∃ entryId counterpartyHoldingId,
    reconciliation = .linked entryId executionId counterpartyHoldingId true

section Commit

variable {reconciliation : Reconciliation} {executionId : Uuid}

/-- The executions after one is dispatched. -/
theorem get?_execution_dispatchExecution (db : CustodialDatabase) (dispatched : Uuid) :
    (dispatchExecution db dispatched).sweepExecutions.get? executionId =
      if executionId = dispatched then
        (db.sweepExecutions.get? dispatched).map fun row => { row with status := .dispatched }
      else db.sweepExecutions.get? executionId :=
  Table.get?_update db.sweepExecutions dispatched executionId
    (fun row => { row with status := .dispatched }) fun _ => rfl

/-- A reconciliation that dispatches an execution leaves it dispatched. -/
theorem get?_execution_commit_of_dispatches (dispatches : reconciliation.Dispatches executionId)
    (db : CustodialDatabase) (now : Timestamp) :
    (reconciliation.commit db now).sweepExecutions.get? executionId =
      (db.sweepExecutions.get? executionId).map fun row => { row with status := .dispatched } := by
  obtain ⟨entryId, counterpartyHoldingId, rfl⟩ := dispatches
  rw [Reconciliation.commit, if_pos rfl, get?_execution_dispatchExecution, if_pos rfl]
  rfl

/-- A reconciliation leaves the executions that it does not dispatch. -/
theorem get?_execution_commit_of_not (spared : ¬reconciliation.Dispatches executionId)
    (db : CustodialDatabase) (now : Timestamp) :
    (reconciliation.commit db now).sweepExecutions.get? executionId =
      db.sweepExecutions.get? executionId := by
  cases reconciliation with
  | unmatched entryId => rfl
  | linked entryId matched counterpartyHoldingId dispatch =>
      rw [Reconciliation.commit]
      cases dispatch with
      | false => rfl
      | true =>
          have other : executionId ≠ matched := by
            intro same
            subst same
            exact spared ⟨entryId, counterpartyHoldingId, rfl⟩
          rw [if_pos rfl, get?_execution_dispatchExecution, if_neg other]
          rfl

/-- A session of the reconciler writes the mirror and executions only. -/
theorem Reconciliation.commit_tables (reconciliation : Reconciliation) (db : CustodialDatabase)
    (now : Timestamp) :
    reconciliation.commit db now =
      { db with
        sweepExecutions := (reconciliation.commit db now).sweepExecutions
        custodialLedger := (reconciliation.commit db now).custodialLedger } := by
  cases reconciliation with
  | unmatched entryId => rfl
  | linked entryId executionId counterpartyHoldingId dispatch =>
      rw [Reconciliation.commit]
      cases dispatch <;> rfl

end Commit

/-! ### The check of the withdrawals -/

/-- The transaction id a check records last for the execution. -/
def lastUpdate (updates : List (Uuid × String)) (executionId : Uuid) : Option String :=
  updates.reverse.findSome? fun update =>
    if update.1 = executionId then some update.2 else none

/-- The last update of an execution, when one more is sent. -/
theorem lastUpdate_concat (updates : List (Uuid × String)) (update : Uuid × String)
    (executionId : Uuid) :
    lastUpdate (updates ++ [update]) executionId =
      if update.1 = executionId then some update.2 else lastUpdate updates executionId := by
  rw [lastUpdate, List.reverse_append, List.reverse_singleton, List.singleton_append,
    List.findSome?_cons]
  by_cases same : update.1 = executionId
  · rw [if_pos same, if_pos same]
  · rw [if_neg same, if_neg same]
    rfl

/-- A last update is one of the updates. -/
theorem mem_of_lastUpdate {updates : List (Uuid × String)} {executionId : Uuid} {txid : String}
    (last : lastUpdate updates executionId = some txid) : (executionId, txid) ∈ updates := by
  obtain ⟨update, member, named⟩ := List.exists_of_findSome?_eq_some last
  split at named
  · next same =>
    cases named
    rw [← same]
    exact List.mem_reverse.mp member
  · cases named

/-- The row once a check has recorded the transaction id. -/
def SweepExecutionRow.pendingUnder (row : SweepExecutionRow) (txid : String) : SweepExecutionRow :=
  { row with
    status := .onchainPending
    expectedTxid := some txid }

/-- The executions after a transaction id is recorded. -/
theorem get?_execution_recordTxid (db : CustodialDatabase) (update : Uuid × String)
    (executionId : Uuid) :
    (recordTxid db update).sweepExecutions.get? executionId =
      if executionId = update.1 then
        (db.sweepExecutions.get? update.1).map fun row => row.pendingUnder update.2
      else db.sweepExecutions.get? executionId :=
  Table.get?_update db.sweepExecutions update.1 executionId (fun row => row.pendingUnder update.2)
    fun _ => rfl

/-- Of several updates of one execution the last counts. -/
theorem get?_execution_recordTxids (db : CustodialDatabase) (updates : List (Uuid × String))
    (executionId : Uuid) :
    (recordTxids db updates).sweepExecutions.get? executionId =
      match lastUpdate updates executionId with
      | none => db.sweepExecutions.get? executionId
      | some txid => (db.sweepExecutions.get? executionId).map fun row => row.pendingUnder txid := by
  induction updates using List.reverseRecOn with
  | nil => rfl
  | append_singleton updates update inductionHypothesis =>
      rw [lastUpdate_concat, show recordTxids db (updates ++ [update]) =
        recordTxid (recordTxids db updates) update from List.foldl_append,
        get?_execution_recordTxid]
      by_cases same : executionId = update.1
      · subst same
        rw [if_pos rfl, if_pos rfl, inductionHypothesis]
        cases lastUpdate updates update.1 with
        | none => rfl
        | some txid => exact Option.map_map ..
      · rw [if_neg same, if_neg (Ne.symm same), inductionHypothesis]

/-- What is recorded for an execution was reported on its withdrawal. -/
theorem reported_of_mem_txidUpdates {listing : ExecutionListing} {db : CustodialDatabase}
    {report : List Withdrawal} {executionId : Uuid} {txid : String}
    (recorded : (executionId, txid) ∈ txidUpdates listing db report) {row : SweepExecutionRow}
    (found : db.sweepExecutions.get? executionId = some row) :
    row.providerWithdrawalId.bind (reportedTxid report) = some txid := by
  obtain ⟨execution, listed, same⟩ := List.mem_filterMap.mp recorded
  obtain ⟨reported, named, same⟩ := Option.map_eq_some_iff.mp same
  cases same
  have stored : execution ∈ db.sweepExecutions.rows :=
    (Table.mem_select.mp ((listing.perm _).mem_iff.mp (List.mem_of_mem_take listed))).1
  rw [show db.sweepExecutions.get? execution.id = some execution from Table.get?_of_mem stored,
    Option.some.injEq] at found
  rw [← found]
  exact named

/-! ### Sessions that nothing comes between -/

section Sequential

variable {withdrawalId txid : String} {s : WithdrawalState}

/-- A session of the reconciler that nothing comes between is `_on_entry_added`. -/
theorem withdrawalNext_onEntryAdded (session : Nat) (event : CustodialEvent) (now : Timestamp) :
    ([.readEntry session event, .commitEntry session now].foldl (withdrawalNext withdrawalId txid)
      s).db = onEntryAdded s.db event now := by
  simp only [List.foldl_cons, List.foldl_nil, withdrawalNext, Function.update_self, onEntryAdded]
  cases reconcile s.db event <;> rfl

/-- A cycle that succeeds, with its check, is `poll_cycle` when nothing comes between. -/
theorem withdrawalNext_pollCycle {check : Nat} (free : s.checking check = none) {env : PollEnv}
    {providerId : Uuid} {out : PollCycleOut}
    (polled : (observe env s.db providerId).answer = .ok out) :
    ([.observe env providerId, .beginCheck check env, .commitCheck check].foldl
      (withdrawalNext withdrawalId txid) s).db = (pollCycle env s.db providerId).db := by
  rw [pollCycle_db_of_ok polled, checkWithdrawalTxids]
  simp only [List.foldl_cons, List.foldl_nil, withdrawalNext]
  cases Kraken.getRecentWithdrawals env.exchange (env.checkedAt - week) with
  | error error => simp [free]
  | ok report => simp [Function.update_self]

end Sequential

/-! ### One withdrawal -/

/-- The execution waits on chain for the transaction, or is completed. -/
def ExecutionTracked (db : CustodialDatabase) (executionId : Uuid) (txid : String) : Prop :=
  ∃ row, db.sweepExecutions.get? executionId = some row ∧ row.expectedTxid = some txid ∧
    (row.status = .onchainPending ∨ row.status = .completed)

def ExecutionCompleted (db : CustodialDatabase) (executionId : Uuid) : Prop :=
  ∃ row, db.sweepExecutions.get? executionId = some row ∧ row.status = .completed

/-- Once a check has seen the withdrawal with its transaction id the execution has it, and once the
    listener was told since that the transaction is confirmed the execution is completed. -/
structure WithdrawalTracked (executionId : Uuid) (txid : String) (s : WithdrawalState) : Prop where
  tracked : s.seen = true → ExecutionTracked s.db executionId txid
  completed : s.confirmed = true → ExecutionCompleted s.db executionId

/-- No session of the reconciler dispatches the execution once the withdrawal was seen; a check that
    has seen it has found the execution REQUESTED, which was not completed since and has no other
    transaction id, or finds it tracked; and the listener's lookups by the transaction id are
    unique, unless the execution is completed. -/
def Undisturbed (executionId : Uuid) (withdrawalId txid : String) (s : WithdrawalState) :
    WithdrawalLabel → Prop
  | .commitEntry session _ => ∀ reconciliation, s.reconciling session = some reconciliation →
      reconciliation.Dispatches executionId → s.seen = false
  | .commitCheck check => ∀ current, s.checking check = some current →
      match lastUpdate current.updates executionId with
      | some recorded => s.confirmed = false ∧ (s.seen = true → recorded = txid)
      | none => reportedTxid current.report withdrawalId = some txid →
          ExecutionTracked s.db executionId txid
  | .handleTx tx ctx => s.seen = true → tx.txid.text = txid → ctx.confirmationHeight.isSome = true →
      LookupsUnique s.db.toDatabase tx ctx.confirmationHeight.isSome ∨
        ExecutionCompleted s.db executionId
  | _ => True

/-- The execution keeps its withdrawal, and the checks that are going on say what was reported. -/
structure WithdrawalInvariant (chain : Chain) (executionId : Uuid) (withdrawalId : String)
    (s : WithdrawalState) : Prop where
  sound : Sound chain s.db.toDatabase
  stored : ∃ row, s.db.sweepExecutions.get? executionId = some row ∧
    row.providerWithdrawalId = some withdrawalId
  reports : ∀ check current txid, s.checking check = some current →
    (executionId, txid) ∈ current.updates →
      reportedTxid current.report withdrawalId = some txid
  ordered : s.confirmed = true → s.seen = true

section Steps

variable {chain : Chain} {executionId : Uuid} {withdrawalId txid : String} {s s' : WithdrawalState}

/-- Nothing changes for the execution where its row and the history stay. -/
theorem WithdrawalTracked.of_same (holds : WithdrawalTracked executionId txid s)
    (execution : s'.db.sweepExecutions.get? executionId = s.db.sweepExecutions.get? executionId)
    (seen : s'.seen = s.seen) (confirmed : s'.confirmed = s.confirmed) :
    WithdrawalTracked executionId txid s' := by
  obtain ⟨tracked, completed⟩ := holds
  constructor
  · rw [seen, ExecutionTracked, execution]
    exact tracked
  · rw [confirmed, ExecutionCompleted, execution]
    exact completed

/-- An execution is tracked by what its row says. -/
theorem executionTracked_iff {db : CustodialDatabase} {row : SweepExecutionRow}
    (found : db.sweepExecutions.get? executionId = some row) :
    ExecutionTracked db executionId txid ↔ row.expectedTxid = some txid ∧
      (row.status = .onchainPending ∨ row.status = .completed) := by
  simp [ExecutionTracked, found]

/-- An execution is completed by what its row says. -/
theorem executionCompleted_iff {db : CustodialDatabase} {row : SweepExecutionRow}
    (found : db.sweepExecutions.get? executionId = some row) :
    ExecutionCompleted db executionId ↔ row.status = .completed := by
  simp [ExecutionCompleted, found]

namespace WithdrawalInvariant

variable (holds : WithdrawalInvariant chain executionId withdrawalId s)

include holds

/-- A committed session of the reconciler. -/
theorem commitEntry (reconciliation : Reconciliation) (now : Timestamp) :
    ∃ row, (reconciliation.commit s.db now).sweepExecutions.get? executionId = some row ∧
      row.providerWithdrawalId = some withdrawalId := by
  obtain ⟨row, found, requested⟩ := holds.stored
  by_cases dispatches : reconciliation.Dispatches executionId
  · rw [get?_execution_commit_of_dispatches dispatches, found]
    exact ⟨_, rfl, requested⟩
  · rw [get?_execution_commit_of_not dispatches]
    exact ⟨row, found, requested⟩

/-- A committed check. -/
theorem commitCheck (updates : List (Uuid × String)) :
    ∃ row, (recordTxids s.db updates).sweepExecutions.get? executionId = some row ∧
      row.providerWithdrawalId = some withdrawalId := by
  obtain ⟨row, found, requested⟩ := holds.stored
  rw [get?_execution_recordTxids]
  cases lastUpdate updates executionId with
  | none => exact ⟨row, found, requested⟩
  | some recorded =>
      rw [found]
      exact ⟨_, rfl, requested⟩

/-- The session of the listener completes the execution or leaves its status. -/
theorem listenerStep (tx : DecodedTx) (ctx : TxContext) {row : SweepExecutionRow}
    (found : s.db.sweepExecutions.get? executionId = some row) :
    ∃ row', (listenerStep s.db tx ctx).sweepExecutions.get? executionId = some row' ∧
      row.Completing row' ∧
      (¬LookupsUnique s.db.toDatabase tx ctx.confirmationHeight.isSome → row' = row) ∧
      (LookupsUnique s.db.toDatabase tx ctx.confirmationHeight.isSome →
        ctx.confirmationHeight.isSome → row.expectedTxid = some tx.txid.text →
          row.status = .onchainPending ∨ row.status = .completed → row'.status = .completed) := by
  rw [TallyKeep.listenerStep]
  cases run : handleTxDb s.db.toDatabase tx ctx with
  | error error =>
      refine ⟨row, found, .refl row, fun _ => rfl, fun unique => ?_⟩
      obtain ⟨out, completes⟩ := (handleTxDb_completes_iff holds.sound.wellFormed tx ctx).mpr unique
      rw [run] at completes
      cases completes
  | ok out =>
      obtain ⟨row', after, completing⟩ := handleTxDb_completing run executionId row found
      refine ⟨row', after, completing, fun ambiguous => ?_, fun _ height expected status => ?_⟩
      · exact absurd ((handleTxDb_completes_iff holds.sound.wellFormed tx ctx).mp ⟨out, run⟩)
          ambiguous
      · obtain ⟨row'', after', completed⟩ :=
          completed_of_handleTxDb holds.sound.wellFormed run height found expected status
        rw [after, Option.some.injEq] at after'
        rw [after']
        exact completed

end WithdrawalInvariant

variable {Psbt Tx : Type} {bdk : Bdk Psbt Tx} {label : WithdrawalLabel}

/-- Every step keeps the invariant of the withdrawal. -/
theorem withdrawalInvariant_step (holds : WithdrawalInvariant chain executionId withdrawalId s)
    (step : WithdrawalStep bdk chain executionId withdrawalId txid s label s') :
    WithdrawalInvariant chain executionId withdrawalId s' := by
  obtain ⟨legal, rfl⟩ := step
  cases label with
  | observe env providerId =>
      rw [withdrawalNext, observe_tables]
      exact ⟨holds.sound, holds.stored, holds.reports, holds.ordered⟩
  | beginCheck check env =>
      rw [withdrawalNext]
      split
      · exact holds
      · next report _ =>
        refine ⟨holds.sound, holds.stored, ?_, holds.ordered⟩
        intro other current recorded going member
        by_cases same : other = check
        · subst same
          simp only [Function.update_self, Option.some.injEq] at going
          subst going
          obtain ⟨row, found, requested⟩ := holds.stored
          have reported := reported_of_mem_txidUpdates member found
          rw [requested] at reported
          exact reported
        · simp only [Function.update_of_ne same] at going
          exact holds.reports other current recorded going member
  | commitCheck check =>
      rw [withdrawalNext]
      split
      · exact holds
      · next report updates _ =>
        refine ⟨?_, holds.commitCheck updates, ?_, ?_⟩
        · rw [recordTxids_frame]
          exact holds.sound.of_tables rfl rfl rfl rfl rfl
        · intro other current recorded going member
          by_cases same : other = check
          · subst same
            simp at going
          · simp only [Function.update_of_ne same] at going
            exact holds.reports other current recorded going member
        · intro confirmed
          simp [holds.ordered confirmed]
  | readEntry session event => exact ⟨holds.sound, holds.stored, holds.reports, holds.ordered⟩
  | commitEntry session now =>
      rw [withdrawalNext]
      split
      · exact holds
      · next reconciliation _ =>
        refine ⟨?_, holds.commitEntry reconciliation now, holds.reports, holds.ordered⟩
        rw [Reconciliation.commit_tables]
        exact holds.sound.of_tables rfl rfl rfl rfl rfl
  | handleTx tx ctx =>
      obtain ⟨row, found, requested⟩ := holds.stored
      obtain ⟨row', after, completing, -, -⟩ := holds.listenerStep tx ctx found
      refine ⟨holds.sound.committed legal ctx, ⟨row', after, ?_⟩, holds.reports, ?_⟩
      · rw [completing.withdrawal, requested]
      · intro confirmed
        simp only [withdrawalNext, Bool.or_eq_true, Bool.and_eq_true] at confirmed ⊢
        cases confirmed with
        | inl before => exact holds.ordered before
        | inr now => exact now.1
  | elsewhere after =>
      obtain ⟨reached, same⟩ := legal
      refine ⟨sound_of_reached reached, ?_, holds.reports, holds.ordered⟩
      rw [withdrawalNext, same]
      exact holds.stored

/-- A session of the reconciler disturbs the withdrawal when it dispatches the execution late. -/
theorem commitEntry_tracked_iff (holds : WithdrawalInvariant chain executionId withdrawalId s)
    (always : WithdrawalTracked executionId txid s) (session : Nat) (now : Timestamp) :
    WithdrawalTracked executionId txid
        (withdrawalNext withdrawalId txid s (.commitEntry session now)) ↔
      Undisturbed executionId withdrawalId txid s (.commitEntry session now) := by
  simp only [withdrawalNext, Undisturbed]
  cases going : s.reconciling session with
  | none => exact iff_of_true always fun _ absent => nomatch absent
  | some reconciliation =>
      simp only [Option.some.injEq, forall_eq']
      by_cases dispatches : reconciliation.Dispatches executionId
      · obtain ⟨row, found, -⟩ := holds.stored
        have after : (reconciliation.commit s.db now).sweepExecutions.get? executionId =
            some { row with status := .dispatched } := by
          rw [get?_execution_commit_of_dispatches dispatches, found]
          rfl
        constructor
        · intro tracked _
          by_contra seen
          have status := ((executionTracked_iff after).mp
            (tracked.tracked (Bool.eq_true_of_not_eq_false seen))).2
          simp at status
        · intro early
          have unseen := early dispatches
          constructor
          · intro seen
            exact absurd (seen.symm.trans unseen) (by decide)
          · intro confirmed
            exact absurd ((holds.ordered confirmed).symm.trans unseen) (by decide)
      · refine iff_of_true (always.of_same ?_ rfl rfl) fun late => absurd late dispatches
        exact get?_execution_commit_of_not dispatches s.db now

/-- A check that sees the withdrawal must find its execution, now or when it listed. -/
theorem commitCheck_tracked_iff (holds : WithdrawalInvariant chain executionId withdrawalId s)
    (always : WithdrawalTracked executionId txid s) (check : Nat) :
    WithdrawalTracked executionId txid
        (withdrawalNext withdrawalId txid s (.commitCheck check)) ↔
      Undisturbed executionId withdrawalId txid s (.commitCheck check) := by
  simp only [withdrawalNext, Undisturbed]
  cases going : s.checking check with
  | none =>
      refine iff_of_true always fun _ absent => ?_
      cases absent
  | some current =>
      obtain ⟨report, updates⟩ := current
      simp only [Option.some.injEq, forall_eq']
      have rows := get?_execution_recordTxids s.db updates executionId
      cases last : lastUpdate updates executionId with
      | none =>
          simp only [last] at rows
          constructor
          · intro tracked reported
            have after := tracked.tracked (by simp [reported])
            rw [ExecutionTracked, rows] at after
            exact after
          · intro kept
            constructor
            · intro seen
              rw [ExecutionTracked, rows]
              rw [Bool.or_eq_true, decide_eq_true_iff] at seen
              cases seen with
              | inl before => exact always.tracked before
              | inr reported => exact kept reported
            · rw [ExecutionCompleted, rows]
              exact always.completed
      | some recorded =>
          obtain ⟨row, found, -⟩ := holds.stored
          have reported := holds.reports check _ recorded going (mem_of_lastUpdate last)
          simp only [last, found, Option.map_some] at rows
          constructor
          · intro tracked
            constructor
            · by_contra confirmed
              have status := (executionCompleted_iff rows).mp
                (tracked.completed (Bool.eq_true_of_not_eq_false confirmed))
              cases status
            · intro seen
              have expected := ((executionTracked_iff rows).mp (tracked.tracked (by simp [seen]))).1
              exact Option.some.inj expected
          · rintro ⟨unconfirmed, same⟩
            constructor
            · intro seen
              rw [Bool.or_eq_true, decide_eq_true_iff] at seen
              have named : recorded = txid := by
                cases seen with
                | inl before => exact same before
                | inr now =>
                    rw [reported] at now
                    exact Option.some.inj now
              rw [executionTracked_iff rows, ← named]
              exact ⟨rfl, .inl rfl⟩
            · intro confirmed
              exact absurd (confirmed.symm.trans unconfirmed) (by decide)

/-- A confirmed delivery must get through its lookups, unless the execution is completed. -/
theorem handleTx_tracked_iff (holds : WithdrawalInvariant chain executionId withdrawalId s)
    (always : WithdrawalTracked executionId txid s) (tx : DecodedTx) (ctx : TxContext) :
    WithdrawalTracked executionId txid
        (withdrawalNext withdrawalId txid s (.handleTx tx ctx)) ↔
      Undisturbed executionId withdrawalId txid s (.handleTx tx ctx) := by
  obtain ⟨row, found, -⟩ := holds.stored
  obtain ⟨row', after, completing, unchanged, completes⟩ := holds.listenerStep tx ctx found
  have tracked' : s.seen = true → ExecutionTracked (listenerStep s.db tx ctx) executionId txid := by
    intro seen
    obtain ⟨expected, status⟩ := (executionTracked_iff found).mp (always.tracked seen)
    rw [executionTracked_iff after, completing.expected]
    refine ⟨expected, ?_⟩
    cases completing.status with
    | inl same =>
        rw [same]
        exact status
    | inr completed => exact .inr completed
  have kept : row.status = .completed → row'.status = .completed := by
    intro completed
    cases completing.status with
    | inl same => exact same.trans completed
    | inr completed' => exact completed'
  simp only [withdrawalNext, Undisturbed]
  constructor
  · intro holds' seen named height
    by_cases unique : LookupsUnique s.db.toDatabase tx ctx.confirmationHeight.isSome
    · exact .inl unique
    · right
      have completed := (executionCompleted_iff after).mp
        (holds'.completed (by simp [seen, named, height]))
      rw [unchanged unique] at completed
      exact (executionCompleted_iff found).mpr completed
  · intro free
    refine ⟨tracked', fun confirmed => (executionCompleted_iff after).mpr ?_⟩
    simp only [Bool.or_eq_true, Bool.and_eq_true, decide_eq_true_iff] at confirmed
    cases confirmed with
    | inl before => exact kept ((executionCompleted_iff found).mp (always.completed before))
    | inr now =>
        obtain ⟨seen, named, height⟩ := now
        obtain ⟨expected, status⟩ := (executionTracked_iff found).mp (always.tracked seen)
        rw [← named] at expected
        cases free seen named height with
        | inl unique => exact completes unique height expected status
        | inr completed => exact kept ((executionCompleted_iff found).mp completed)

/-- A step keeps track of the withdrawal exactly when it does not disturb it. -/
theorem withdrawalTracked_iff (holds : WithdrawalInvariant chain executionId withdrawalId s)
    (always : WithdrawalTracked executionId txid s)
    (step : WithdrawalStep bdk chain executionId withdrawalId txid s label s') :
    WithdrawalTracked executionId txid s' ↔ Undisturbed executionId withdrawalId txid s label := by
  obtain ⟨legal, rfl⟩ := step
  cases label with
  | observe env providerId =>
      refine iff_of_true (always.of_same ?_ rfl rfl) trivial
      rw [withdrawalNext, observe_tables]
  | beginCheck check env =>
      refine iff_of_true ?_ trivial
      rw [withdrawalNext]
      split
      · exact always
      · exact always.of_same rfl rfl rfl
  | commitCheck check => exact commitCheck_tracked_iff holds always check
  | readEntry session event => exact iff_of_true (always.of_same rfl rfl rfl) trivial
  | commitEntry session now => exact commitEntry_tracked_iff holds always session now
  | handleTx tx ctx => exact handleTx_tracked_iff holds always tx ctx
  | elsewhere after => exact iff_of_true (always.of_same legal.2 rfl rfl) trivial

end Steps

/-- In every interleaving of cycles, sessions of the reconciler and deliveries to the listener, from
    a reachable state with an execution that has a withdrawal: the withdrawal is kept track of at
    every point exactly when no step disturbs it. -/
theorem withdrawalTracked_throughout_iff {Psbt Tx : Type} {bdk : Bdk Psbt Tx} {chain : Chain}
    {db : CustodialDatabase} {executionId : Uuid} {row : SweepExecutionRow}
    {withdrawalId txid : String} {labels : List WithdrawalLabel} {s : WithdrawalState}
    (reached : Reached bdk chain db.toDatabase)
    (found : db.sweepExecutions.get? executionId = some row)
    (requested : row.providerWithdrawalId = some withdrawalId) :
    Throughout (WithdrawalStep bdk chain executionId withdrawalId txid)
        (WithdrawalTracked executionId txid) (fun _ _ => True) (.initial db) labels s ↔
      Run (guarded (WithdrawalStep bdk chain executionId withdrawalId txid)
        (Undisturbed executionId withdrawalId txid)) (.initial db) labels s := by
  apply Run.throughout_iff (I := WithdrawalInvariant chain executionId withdrawalId)
  · intro _ _ _ holds step
    exact withdrawalInvariant_step holds step
  · intro _ _ _ holds always step
    rw [true_and]
    exact withdrawalTracked_iff holds always step
  · exact ⟨sound_of_reached reached, ⟨row, found, requested⟩, fun _ _ _ going => (nomatch going),
      fun confirmed => (nomatch confirmed)⟩
  · exact ⟨fun seen => (nomatch seen), fun confirmed => (nomatch confirmed)⟩

/-! ### A sample withdrawal -/

/-- A cycle in which the provider reports the transaction of the sample withdrawal. -/
def sampleReport (page : List RawLedgerItem) : PollEnv :=
  samplePollEnv
    { sampleExchange page with
      fetchTransactions := fun _ _ =>
        .ok (some [⟨some "withdrawal 1", some samplePayment.txid.text⟩]) }

/-- The state after steps in the life of the sample withdrawal. -/
def sampleLife (labels : List WithdrawalLabel) : WithdrawalState :=
  labels.foldl (withdrawalNext "withdrawal 1" samplePayment.txid.text)
    (.initial (sampleConnectedTo (sampleSwept 4000)))

theorem reached_sampleSwept :
    Reached sampleBdk sampleChain (sampleConnectedTo (sampleSwept 4000)).toDatabase := by
  have base : Reached sampleBdk sampleChain sampleTreasury.toDatabase := by
    apply reached_of_legal
    simp [setupOperations, Legal]
  have swept : Run (TreasuryStep sampleBdk sampleChain) sampleTreasury
      [.createSweepPolicy sampleMetadata (samplePolicyOrder 30 false), .acknowledgeWarnings 1,
        .enableSweepPolicy 1, .executeSweepNow sampleCustody sampleMetadata 1 (some 4000) hour]
      (sampleSwept 4000) :=
    .cons ⟨trivial, rfl⟩ (.cons ⟨trivial, rfl⟩ (.cons ⟨trivial, rfl⟩ (.single ⟨trivial, rfl⟩)))
  obtain ⟨operations, run⟩ := refined_of_run swept
  exact base.run run

/-- The check records the transaction, and the listener completes the execution. -/
theorem withdrawalTracked_throughout_iff_checked :
    Throughout (WithdrawalStep sampleBdk sampleChain 1 "withdrawal 1" samplePayment.txid.text)
      (WithdrawalTracked 1 samplePayment.txid.text) (fun _ _ => True)
      (.initial (sampleConnectedTo (sampleSwept 4000)))
      [.beginCheck 0 (sampleReport []), .commitCheck 0,
        .handleTx samplePayment (sampleCall (some 100))]
      (sampleLife [.beginCheck 0 (sampleReport []), .commitCheck 0,
        .handleTx samplePayment (sampleCall (some 100))]) := by
  have requested : ((sampleConnectedTo (sampleSwept 4000)).sweepExecutions.get? 1).bind
      SweepExecutionRow.providerWithdrawalId = some "withdrawal 1" := by
    decide
  obtain ⟨row, found, named⟩ := Option.bind_eq_some_iff.mp requested
  apply (withdrawalTracked_throughout_iff reached_sampleSwept found named).mpr
  refine .cons ⟨trivial, trivial, rfl⟩ (.cons ⟨?_, trivial, rfl⟩ (.single ⟨?_, ?_, rfl⟩))
  · intro current going
    have updates : ((sampleLife [.beginCheck 0 (sampleReport [])]).checking 0).map
        (fun current => lastUpdate current.updates 1) = some (some samplePayment.txid.text) := by
      decide
    rw [show (sampleLife [.beginCheck 0 (sampleReport [])]).checking 0 = some current from going,
      Option.map_some, Option.some.injEq] at updates
    rw [updates]
    exact ⟨rfl, fun _ => rfl⟩
  · intro _ _ _
    left
    refine ⟨fun _ _ => ?_, fun _ _ => ?_, fun _ => Or.inl ?_, fun _ => ?_⟩ <;> decide
  · exact sampleChain_payment

/-- The event of the mirrored withdrawal. -/
def sampleLedgerEvent : CustodialEvent :=
  ⟨"treasury.custodial.ledger_entry_added",
    .ledgerEntryAdded 30 1 hour 100000
      ⟨1, "L1", .withdrawal, "BTC", -4000, none, "ok", 3600000000⟩⟩

/-- A cycle whose ledger event is handled before its check. -/
def sampleOvertaken : List WithdrawalLabel :=
  [.observe (sampleReport [sampleItem "L1" 4000 3600000]) 1, .readEntry 0 sampleLedgerEvent,
    .commitEntry 0 hour, .beginCheck 0 (sampleReport [sampleItem "L1" 4000 3600000]),
    .commitCheck 0]

/-- The reconciler dispatches the execution, and the check, which lists REQUESTED ones only, has seen
    the transaction and records it nowhere. -/
theorem not_withdrawalTracked_of_reconciledFirst :
    Reached sampleBdk sampleChain (sampleConnectedTo (sampleSwept 4000)).toDatabase ∧
      sampleLedgerEvent ∈ (observe (sampleReport [sampleItem "L1" 4000 3600000])
        (sampleConnectedTo (sampleSwept 4000)) 1).events ∧
      Run (WithdrawalStep sampleBdk sampleChain 1 "withdrawal 1" samplePayment.txid.text)
        (.initial (sampleConnectedTo (sampleSwept 4000))) sampleOvertaken
        (sampleLife sampleOvertaken) ∧
      (sampleLife sampleOvertaken).seen = true ∧
      ¬WithdrawalTracked 1 samplePayment.txid.text (sampleLife sampleOvertaken) := by
  have seen : (sampleLife sampleOvertaken).seen = true := by decide
  have dispatched : ((sampleLife sampleOvertaken).db.sweepExecutions.get? 1).map
      (fun row => (row.status, row.expectedTxid)) = some (.dispatched, none) := by
    decide +kernel
  refine ⟨reached_sampleSwept, by decide +kernel, ?_, seen, fun tracked => ?_⟩
  · exact .cons ⟨trivial, rfl⟩ (.cons ⟨trivial, rfl⟩ (.cons ⟨trivial, rfl⟩
      (.cons ⟨trivial, rfl⟩ (.single ⟨trivial, rfl⟩))))
  · obtain ⟨row, found, expected, _⟩ := tracked.tracked seen
    rw [found, Option.map_some, Option.some.injEq, Prod.mk.injEq] at dispatched
    rw [dispatched.2] at expected
    cases expected

end TallyKeep
