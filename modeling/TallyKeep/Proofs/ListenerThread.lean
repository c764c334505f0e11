/-
Module: TallyKeep.Proofs.ListenerThread
Layer: Proofs
Purpose: What a step of the listener can do, as the moves it is made of, and what follows for every
  run: its sessions are operations of the program, the connection events it publishes form one
  path, and it asks for a fee rate at most once a minute.
Trusted boundary: none
Main exports: ListenerMove, moves_of_step, operations_of_listener, reached_of_listener, StatusChange,
  connectionEvents_of_reached, estimates_of_reached
-/
import TallyKeep.Library.History
import TallyKeep.Proofs.InvoiceSettlement
import TallyKeep.Workers.ListenerLoop

namespace TallyKeep

open History Relational Transition

variable {Psbt Tx : Type} {bdk : Bdk Psbt Tx} {chain : Chain} {allowed : Operation → Prop}

/-! ### The moves of a step -/

/-- The thread that reports a broken connection has ended, and any other report is made by one that
    is at work. -/
def ListenerState.Places (s : ListenerState) (newStatus : ChainStatus) : Prop :=
  if newStatus = .unreachable then s.running = false ∧ s.tasks = []
  else s.running = true ∨ s.tasks ≠ []

/-- One move of the thread, or an operation of another part of the program. -/
inductive ListenerMove (bdk : Bdk Psbt Tx) (chain : Chain) (allowed : Operation → Prop)
    (s : ListenerState) : Unit → ListenerState → Prop where
  | queued (idle : s.tasks = []) (live : s.running = true) (txs : List (Txid × Option Nat)) :
      ListenerMove bdk chain allowed s ()
        { s with tasks := txs.map fun queued => .tx queued.1 queued.2 }
  | dropped {txid : Txid} {height : Option Nat} {rest : List ListenerTask}
      (first : s.tasks = .tx txid height :: rest) :
      ListenerMove bdk chain allowed s () { s with tasks := rest }
  | changed {newStatus : ChainStatus} (differs : s.chainStatus ≠ newStatus)
      (placed : s.Places newStatus) (taken : Bool) :
      ListenerMove bdk chain allowed s ()
        { s with
          chainStatus := newStatus
          attempts := s.attempts ++ [⟨.connectionStateChanged s.chainStatus newStatus, taken⟩] }
  | tip (height : Nat) (blockHash : String) (taken : Bool) :
      ListenerMove bdk chain allowed s ()
        { s with attempts := s.attempts ++ [⟨.blockNew height blockHash, taken⟩] }
  | estimated {time : ℚ} {answer : Except NodeError (Option ℚ)}
      (stale : ∀ cached, s.feeRateCache = some cached → cached.1 + feeRateTtlSeconds ≤ time) :
      ListenerMove bdk chain allowed s ()
        { s with
          feeRateCache := some (time, estimateFeeRateSatPerVbyte answer)
          estimates := s.estimates ++ [(time, answer)] }
  | committed {txid : Txid} {height : Option Nat} {rest : List ListenerTask}
      (first : s.tasks = .tx txid height :: rest) {tx : DecodedTx} {ctx : TxContext}
      {db : Database} {events : TxEvents} (asked : tx.txid = txid)
      (decoded : tx = chain.txOf tx.txid)
      (priced : s.feeRateCache.map Prod.snd = ctx.feeRateSatPerVbyte)
      (run : handleTxDb s.db tx ctx = .ok (db, events)) :
      ListenerMove bdk chain allowed s () { s with db := db, tasks := .emit events :: rest }
  | announced {events : TxEvents} {rest : List ListenerTask}
      (first : s.tasks = .emit events :: rest) (env : ListenerEnv) :
      ListenerMove bdk chain allowed s ()
        (publishAll env { s with tasks := rest } (txEvents s.db events))
  | halted : ListenerMove bdk chain allowed s () { s with running := false }
  | other {operation : Operation} (legal : Legal chain operation)
      (elsewhere : ¬operation.Handles) (permitted : allowed operation) :
      ListenerMove bdk chain allowed s () { s with db := step bdk s.db operation }

/-- A sequence of moves. -/
def ListenerMoves (bdk : Bdk Psbt Tx) (chain : Chain) (allowed : Operation → Prop)
    (s t : ListenerState) : Prop :=
  ∃ moves, Run (ListenerMove bdk chain allowed) s moves t

namespace ListenerMoves

variable {s t u : ListenerState}

theorem refl (s : ListenerState) : ListenerMoves bdk chain allowed s s := ⟨[], .stop s⟩

theorem trans (first : ListenerMoves bdk chain allowed s t)
    (second : ListenerMoves bdk chain allowed t u) : ListenerMoves bdk chain allowed s u := by
  obtain ⟨moves, run⟩ := first
  obtain ⟨later, laterRun⟩ := second
  exact ⟨moves ++ later, run.append laterRun⟩

theorem single (move : ListenerMove bdk chain allowed s () t) :
    ListenerMoves bdk chain allowed s t := ⟨[()], .single move⟩

end ListenerMoves

section Parts

variable (env : ListenerEnv) (s : ListenerState)

variable {s} in

/-- A change of status is a move of the listener. -/
theorem transitionChainStatus_moves {newStatus : ChainStatus} (placed : s.Places newStatus) :
    ListenerMoves bdk chain allowed s (transitionChainStatus env s newStatus).1 := by
  rw [transitionChainStatus]
  split
  · exact .refl s
  · rename_i differs
    exact .single (.changed differs placed _)

/-- An estimate of the fee rate is a move of the listener. -/
theorem cachedFeeRate_moves :
    ListenerMoves bdk chain allowed s (cachedFeeRate env s).1 := by
  unfold cachedFeeRate
  split
  · rename_i asked rate cached
    split
    · exact .refl s
    · rename_i stale
      refine .single (.estimated fun known same => ?_)
      rw [cached] at same
      cases same
      linarith
  · rename_i fresh
    refine .single (.estimated fun known same => ?_)
    rw [fresh] at same
    cases same

/-- The rate that is handed on is the one in the cache. -/
theorem cachedFeeRate_cached :
    (cachedFeeRate env s).1.feeRateCache.map Prod.snd = some (cachedFeeRate env s).2 := by
  unfold cachedFeeRate
  split
  · rename_i asked rate cached
    split
    · rw [cached]
      rfl
    · rfl
  · rfl

/-- A change of status schedules nothing. -/
@[simp] theorem transitionChainStatus_tasks (newStatus : ChainStatus) :
    (transitionChainStatus env s newStatus).1.tasks = s.tasks := by
  rw [transitionChainStatus]
  split <;> rfl

/-- A change of status leaves what runs. -/
@[simp] theorem transitionChainStatus_running (newStatus : ChainStatus) :
    (transitionChainStatus env s newStatus).1.running = s.running := by
  rw [transitionChainStatus]
  split <;> rfl

/-- A change of status writes nothing. -/
@[simp] theorem transitionChainStatus_db (newStatus : ChainStatus) :
    (transitionChainStatus env s newStatus).1.db = s.db := by
  rw [transitionChainStatus]
  split <;> rfl

/-- An estimate schedules nothing. -/
@[simp] theorem cachedFeeRate_tasks : (cachedFeeRate env s).1.tasks = s.tasks := by
  unfold cachedFeeRate
  split
  · split <;> rfl
  · rfl

/-- An estimate writes nothing. -/
@[simp] theorem cachedFeeRate_db : (cachedFeeRate env s).1.db = s.db := by
  unfold cachedFeeRate
  split
  · split <;> rfl
  · rfl

theorem transitionChainStatus_withTasks (tasks : List ListenerTask) (newStatus : ChainStatus) :
    transitionChainStatus env { s with tasks := tasks } newStatus =
      ({ (transitionChainStatus env s newStatus).1 with tasks := tasks },
        (transitionChainStatus env s newStatus).2) := by
  simp only [transitionChainStatus]
  split <;> rfl

theorem cachedFeeRate_withTasks (tasks : List ListenerTask) :
    cachedFeeRate env { s with tasks := tasks } =
      ({ (cachedFeeRate env s).1 with tasks := tasks }, (cachedFeeRate env s).2) := by
  obtain ⟨db, running, earlier, chainStatus, cache, attempts, estimates⟩ := s
  cases cache with
  | none => rfl
  | some cached =>
      simp only [cachedFeeRate]
      split <;> rfl

end Parts

/-- The task of a transaction: the status, the fee rate, and then its session or nothing. -/
theorem handleTxTask_moves {env : ListenerEnv} (decodes : env.node.Decodes chain)
    {s : ListenerState} {txid : Txid} {height : Option Nat} {rest : List ListenerTask}
    (first : s.tasks = .tx txid height :: rest) :
    ListenerMoves bdk chain allowed s
      (handleTxTask env { s with tasks := rest } txid height) := by
  have drops : ∀ t : ListenerState, t.tasks = .tx txid height :: rest →
      ListenerMoves bdk chain allowed s t →
        ListenerMoves bdk chain allowed s { t with tasks := rest } :=
    fun t pending moves => moves.trans (.single (.dropped pending))
  have busy : s.tasks ≠ [] := by
    rw [first]
    exact List.cons_ne_nil _ _
  have shifted : ∀ newStatus, s.Places newStatus → ListenerMoves bdk chain allowed s
      (transitionChainStatus env { s with tasks := rest } newStatus).1 := by
    intro newStatus placed
    rw [transitionChainStatus_withTasks]
    exact drops _ ((transitionChainStatus_tasks env s newStatus).trans first)
      (transitionChainStatus_moves env placed)
  unfold handleTxTask
  split
  · split
    · exact drops s first (.refl s)
    · exact shifted .degraded (.inr busy)
  · exact drops s first (.refl s)
  · rename_i raw answered
    obtain ⟨named, decoded⟩ := decodes txid raw answered
    simp only
    split
    · split
      · exact shifted .healthy (.inr busy)
      · rename_i shown _ _
        rw [transitionChainStatus_withTasks, cachedFeeRate_withTasks]
        have placed : s.Places .healthy := .inr busy
        have healthy : ListenerMoves bdk chain allowed s
            (transitionChainStatus env s .healthy).1 := transitionChainStatus_moves env placed
        have priced := healthy.trans
          (cachedFeeRate_moves env (transitionChainStatus env s .healthy).1)
        have pending := ((cachedFeeRate_tasks env (transitionChainStatus env s .healthy).1).trans
          (transitionChainStatus_tasks env s .healthy)).trans first
        split
        · exact drops _ pending priced
        · rename_i db events run
          refine priced.trans (.single ?_)
          exact .committed pending named (named ▸ decoded) (cachedFeeRate_cached env _) run
    · exact shifted .healthy (.inr busy)

/-- A block: the status, the tip, and the known transactions that are left to do. -/
theorem receiveBlock_moves (env : ListenerEnv) {s : ListenerState} (idle : s.tasks = [])
    (live : s.running = true) (blockHash : String) :
    ListenerMoves bdk chain allowed s (receiveBlock env s blockHash) := by
  unfold receiveBlock
  split
  · have placed : s.Places .degraded := .inl live
    exact transitionChainStatus_moves env placed
  · exact .refl s
  · rename_i block answered
    have placed : s.Places .healthy := .inl live
    have healthy : ListenerMoves bdk chain allowed s (transitionChainStatus env s .healthy).1 :=
      transitionChainStatus_moves env placed
    have pending := (transitionChainStatus_tasks env s .healthy).trans idle
    have stillLive := (transitionChainStatus_running env s .healthy).trans live
    generalize transitionChainStatus env s .healthy = shown at healthy pending stillLive ⊢
    obtain ⟨t, taken⟩ := shown
    cases taken with
    | false => exact healthy
    | true =>
        have tip := healthy.trans (.single (.tip block.height blockHash
          (env.takes t.attempts.length)))
        simp only [if_true]
        by_cases answer : (publish env t (.blockNew block.height blockHash)).2 = true
        · rw [if_pos answer]
          refine tip.trans (.single ?_)
          let announced : ListenerState := { t with
            attempts := t.attempts ++
              [⟨.blockNew block.height blockHash, env.takes t.attempts.length⟩] }
          have queued := @ListenerMove.queued Psbt Tx bdk chain allowed announced pending stillLive
            ((env.node.arrangeTxids (knownIn t.db block.tx)).map fun txid =>
              (txid, some block.height))
          rw [List.map_map] at queued
          exact queued
        · rw [if_neg answer]
          exact tip

variable (bdk allowed) in
/-- A step of the listener is a sequence of moves. -/
theorem moves_of_step {s : ListenerState} {label : ListenerLabel}
    (guard : ListenerAllowed chain s label)
    (permitted : ∀ operation, label = .other operation → allowed operation) :
    ListenerMoves bdk chain allowed s (threadStep bdk s label) := by
  cases label with
  | receive notification env =>
      obtain ⟨live, idle⟩ := guard
      simp only [threadStep, receive]
      split
      · split
        · exact .refl s
        · rename_i hash _
          exact .single (.queued idle live [(hash, none)])
      · split
        · split
          · exact .refl s
          · exact receiveBlock_moves env idle live _
        · exact .refl s
  | task env =>
      simp only [threadStep, nextTask]
      split
      · exact .refl s
      · rename_i first
        exact handleTxTask_moves guard first
      · rename_i first
        exact .single (.announced first env)
  | readFails env =>
      have placed : ({ s with running := false } : ListenerState).Places .unreachable :=
        ⟨rfl, guard.2⟩
      exact ListenerMoves.trans (.single .halted) (transitionChainStatus_moves env placed)
  | stop => exact .single .halted
  | other operation =>
      exact .single (.other guard.1 guard.2 (permitted operation rfl))

/-- What every move preserves, a run of the listener preserves. -/
theorem invariant_of_listener {I : ListenerState → Prop} {s t : ListenerState}
    {labels : List ListenerLabel}
    (preserved : ∀ s t, I s → ListenerMove bdk chain allowed s () t → I t)
    (permitted : ∀ operation, .other operation ∈ labels → allowed operation)
    (run : ListenerRun bdk chain s labels t) (holds : I s) : I t := by
  induction run with
  | stop s => exact holds
  | @cons s middle u label later taken _ inductionHypothesis =>
      obtain ⟨guard, rfl⟩ := taken
      apply inductionHypothesis fun operation member =>
        permitted operation (List.mem_cons_of_mem label member)
      obtain ⟨moves, run⟩ := moves_of_step bdk allowed guard
        fun operation same => permitted operation (same ▸ List.mem_cons_self)
      exact run.invariant (fun s _ t => preserved s t) holds

/-- The same for the states that are reached from a start. -/
theorem ListenerReached.invariant_moves {I : ListenerState → Prop} {s : ListenerState}
    (reached : ListenerReached bdk chain s)
    (started : ∀ db, Reached bdk chain db → I (.started db))
    (preserved : ∀ s t, I s → ListenerMove bdk chain (fun _ => True) s () t → I t) : I s := by
  obtain ⟨_, labels, ⟨db, reachedDb, rfl⟩, run⟩ := reached
  exact invariant_of_listener preserved (fun _ _ => trivial) run (started db reachedDb)

/-! ### Publications leave the rest alone -/

section Publications

variable (env : ListenerEnv) (events : List ListenerEvent)

/-- Publishing changes what was attempted, and nothing else. -/
theorem publishAll_fields (s : ListenerState) :
    publishAll env s events =
      { s with attempts := (publishAll env s events).attempts } := by
  induction events generalizing s with
  | nil => rfl
  | cons event rest inductionHypothesis =>
      simp only [publishAll]
      split
      · rw [inductionHypothesis]
        rfl
      · rfl

/-- What is asked of the bus is a beginning of the list, and all of it when the bus takes it. -/
theorem publishAll_asks (s : ListenerState) :
    ∃ asked, (publishAll env s events).attempts = s.attempts ++ asked ∧
      asked.map Attempt.event <+: events ∧
      ((∀ attempt ∈ asked, attempt.taken = true) → asked.map Attempt.event = events) := by
  induction events generalizing s with
  | nil => exact ⟨[], (List.append_nil _).symm, List.prefix_refl _, fun _ => rfl⟩
  | cons event rest inductionHypothesis =>
      simp only [publishAll]
      by_cases taken : (publish env s event).2 = true
      · rw [if_pos taken]
        obtain ⟨asked, same, begins, whole⟩ := inductionHypothesis (publish env s event).1
        refine ⟨⟨event, env.takes s.attempts.length⟩ :: asked, ?_, ?_, ?_⟩
        · rw [same]
          exact List.append_assoc s.attempts _ asked
        · exact (List.prefix_cons_inj event).mpr begins
        · intro all
          rw [List.map_cons,
            whole fun attempt member => all attempt (List.mem_cons_of_mem _ member)]
      · rw [if_neg taken]
        refine ⟨[⟨event, env.takes s.attempts.length⟩], rfl, ?_, ?_⟩
        · exact (List.prefix_cons_inj event).mpr List.nil_prefix
        · intro all
          exact absurd (all _ (List.mem_singleton_self _)) taken

end Publications

/-! ### The sessions -/

/-- The operation of another part of the program. -/
def ListenerLabel.operation? : ListenerLabel → Option Operation
  | .other operation => some operation
  | _ => none

variable (bdk) in
/-- A session that is committed is a step of the program. -/
theorem systemStep_of_handled {db db' : Database} {tx : DecodedTx} {ctx : TxContext}
    {events : TxEvents} (decoded : tx = chain.txOf tx.txid)
    (run : handleTxDb db tx ctx = .ok (db', events)) :
    SystemStep bdk chain db (.handleTx tx ctx) db' := by
  refine ⟨decoded, ?_⟩
  change db' = step bdk db (.handleTx tx ctx)
  rw [step]
  simp only [perform, run]
  rfl

/-- The operations of a list that handle no transaction. -/
def elsewhereOf (operations : List Operation) : List Operation :=
  operations.filter fun operation => decide ¬operation.Handles

/-- The operations of others, of one stretch of a run after another. -/
@[simp] theorem elsewhereOf_append (operations later : List Operation) :
    elsewhereOf (operations ++ later) = elsewhereOf operations ++ elsewhereOf later :=
  List.filter_append ..

variable (bdk) in
/-- One step of the listener is a session of its own on the database, or none, or the operation of
    another part. -/
theorem operations_of_step {s : ListenerState} {label : ListenerLabel}
    (guard : ListenerAllowed chain s label) :
    ∃ operations, Run (SystemStep bdk chain) s.db operations (threadStep bdk s label).db ∧
      elsewhereOf operations = label.operation?.toList := by
  cases other : label.operation? with
  | some operation =>
      cases label with
      | other performed =>
          cases other
          refine ⟨[operation], .single ⟨guard.1, rfl⟩, ?_⟩
          exact List.filter_cons_of_pos (decide_eq_true guard.2)
      | _ => cases other
  | none =>
      obtain ⟨moves, run⟩ := moves_of_step bdk (fun _ => False) guard (by
        intro operation same
        rw [same] at other
        cases other)
      apply run.invariant (I := fun t => ∃ operations, Run (SystemStep bdk chain) s.db operations
        t.db ∧ elsewhereOf operations = []) _ ⟨[], .stop _, rfl⟩
      intro t _ u soFar move
      obtain ⟨operations, performed, handles⟩ := soFar
      cases move with
      | committed first asked decoded priced handled =>
          rename_i tx ctx db events
          refine ⟨operations ++ [.handleTx tx ctx],
            performed.append (.single (systemStep_of_handled bdk decoded handled)), ?_⟩
          rw [elsewhereOf_append, handles]
          rfl
      | announced first env =>
          rw [publishAll_fields]
          exact ⟨operations, performed, handles⟩
      | other _ _ impossible => exact impossible.elim
      | _ => exact ⟨operations, performed, handles⟩

/-- The listener is part of the program: a run of it performs on the database the operations of the
    other parts, in their order, and between them nothing but sessions that handle one transaction
    each. -/
theorem operations_of_listener {s t : ListenerState} {labels : List ListenerLabel}
    (run : ListenerRun bdk chain s labels t) :
    ∃ operations, Run (SystemStep bdk chain) s.db operations t.db ∧
      operations.filter (fun operation => decide ¬operation.Handles) =
        labels.filterMap ListenerLabel.operation? := by
  induction run with
  | stop s => exact ⟨[], .stop s.db, rfl⟩
  | @cons s middle u label later taken _ inductionHypothesis =>
      obtain ⟨guard, rfl⟩ := taken
      obtain ⟨first, firstRun, firstKept⟩ := operations_of_step bdk guard
      obtain ⟨rest, restRun, restKept⟩ := inductionHypothesis
      refine ⟨first ++ rest, firstRun.append restRun, ?_⟩
      rw [List.filter_append, restKept]
      change elsewhereOf first ++ _ = _
      rw [firstKept]
      cases performed : label.operation? <;> simp [performed]

/-- bitcoind with the sample chain, and a bus that takes every event. -/
def sampleEnv : ListenerEnv where
  node :=
    { getRawTransaction := fun txid => .ok ⟨sampleChain.txOf txid, none, none⟩
      getBlockHeader := fun _ => .ok 0
      getBlock := fun _ => .ok ⟨101, [samplePayment.txid]⟩
      feeRate := 0
      now := 3
      rowOrder := .stored
      setOrder := .increasing
      arrangeTxids := id
      arrangePerm := List.Perm.refl }
  estimateSmartFee := .ok none
  time := 0
  takes := fun _ => true

theorem sampleEnv_decodes : sampleEnv.node.Decodes sampleChain := by
  intro txid raw answered
  cases answered
  exact ⟨sampleChain.txid_txOf txid, rfl⟩

/-- The sample payment is seen in the mempool. -/
def sampleLabels : List ListenerLabel :=
  [.receive ⟨"hashtx", List.replicate 32 170⟩ sampleEnv, .task sampleEnv, .task sampleEnv]

def sampleListening : ListenerState :=
  sampleLabels.foldl (threadStep sampleBdk) (.started (invoiceWaiting 100000))

/-- The labels of the sample are a run of the listener. -/
theorem sampleListening_run : ListenerRun sampleBdk sampleChain (.started (invoiceWaiting 100000))
    sampleLabels sampleListening :=
  .cons ⟨⟨rfl, rfl⟩, rfl⟩ (.cons ⟨sampleEnv_decodes, rfl⟩ (.single ⟨sampleEnv_decodes, rfl⟩))

/-- The payment is handled in one session. -/
theorem operations_of_sampleListening :
    (∃ operations, Run (SystemStep sampleBdk sampleChain) (invoiceWaiting 100000) operations
      sampleListening.db ∧ ∀ operation ∈ operations, operation.Handles) ∧
      sampleListening.attempts.map (fun attempt => attempt.event.topic) =
        ["chain.tx.mempool", "holding.utxo.received", "ledger_entry.requires_categorization",
          "banking.invoice.paid"] := by
  refine ⟨?_, by decide +kernel⟩
  obtain ⟨operations, run, elsewhere⟩ := operations_of_listener sampleListening_run
  refine ⟨operations, run, ?_⟩
  intro operation listed
  have none : operations.filter (fun operation => decide ¬operation.Handles) = [] := elsewhere
  simpa using List.filter_eq_nil_iff.mp none operation listed

/-- The database beside a listener is one that the program reaches. -/
theorem reached_of_listener {s : ListenerState} (reached : ListenerReached bdk chain s) :
    Reached bdk chain s.db := by
  apply reached.invariant_moves
  · exact fun db reachedDb => reachedDb
  · intro s t held move
    cases move with
    | committed first asked decoded priced run =>
        exact Reachable.run held (.single (systemStep_of_handled bdk decoded run))
    | announced first env =>
        rw [publishAll_fields]
        exact held
    | other legal elsewhere permitted => exact Reachable.run held (.single ⟨legal, rfl⟩)
    | _ => exact held

/-! ### Connection events -/

/-- One change of the status, as its event states it. -/
def StatusChange (s : ChainStatus) (change : ChainStatus × ChainStatus) (t : ChainStatus) : Prop :=
  change = (s, t) ∧ s ≠ t

def ListenerEvent.statusChange? : ListenerEvent → Option (ChainStatus × ChainStatus)
  | .connectionStateChanged oldStatus newStatus => some (oldStatus, newStatus)
  | _ => none

/-- The changes of the status that the bus was asked to publish. -/
def statusChanges (attempts : List Attempt) : List (ChainStatus × ChainStatus) :=
  attempts.filterMap fun attempt => attempt.event.statusChange?

/-- The changes of status among two stretches of attempts. -/
theorem statusChanges_append (attempts later : List Attempt) :
    statusChanges (attempts ++ later) = statusChanges attempts ++ statusChanges later :=
  List.filterMap_append

/-- Announcements of a transaction say nothing about the connection. -/
theorem statusChange?_of_mem_txEvents {db : Database} {events : TxEvents} {event : ListenerEvent}
    (listed : event ∈ txEvents db events) : event.statusChange? = none := by
  simp only [txEvents, List.mem_append, Option.mem_toList, Option.map_eq_some_iff] at listed
  rcases listed with ((result | ⟨payload, -, rfl⟩) | ⟨payload, -, rfl⟩) | ⟨payload, -, rfl⟩
  · rw [resultEvents] at result
    split at result
    · cases result
    · simp only [List.mem_cons, List.mem_append, List.mem_filterMap, utxoReceivedEvent,
        utxoSpentEvent, Option.map_eq_some_iff, List.mem_map] at result
      rcases result with rfl | (⟨_, -, _, -, rfl⟩ | ⟨_, -, _, -, rfl⟩) | ⟨_, -, rfl⟩
      · rw [txEvent]
        split <;> rfl
      · rfl
      · rfl
      · rfl
  · rfl
  · rfl
  · rfl

/-- Announcements of a transaction are no changes of status. -/
theorem statusChanges_announced {db : Database} {events : TxEvents} {asked : List Attempt}
    (begins : asked.map Attempt.event <+: txEvents db events) : statusChanges asked = [] := by
  apply List.filterMap_eq_nil_iff.mpr
  intro attempt member
  exact statusChange?_of_mem_txEvents (begins.subset (List.mem_map_of_mem member))

/-- What the connection events and the status have to do with each other. -/
structure ConnectionReported (s : ListenerState) : Prop where
  path : Run StatusChange .healthy (statusChanges s.attempts) s.chainStatus
  ended : s.chainStatus = .unreachable → s.running = false ∧ s.tasks = []

/-- A move keeps that the connection was reported as it is. -/
theorem ConnectionReported.moved {s t : ListenerState} (reported : ConnectionReported s)
    (move : ListenerMove bdk chain allowed s () t) : ConnectionReported t := by
  obtain ⟨path, ended⟩ := reported
  cases move with
  | queued idle live txs =>
      refine ⟨path, fun broken => ?_⟩
      exact absurd live (by rw [(ended broken).1]; exact Bool.false_ne_true)
  | dropped first => exact ⟨path, fun broken => by cases (ended broken).2.symm.trans first⟩
  | changed differs placed taken =>
      refine ⟨?_, ?_⟩
      · rw [statusChanges_append]
        exact path.append (.single ⟨rfl, differs⟩)
      · intro broken
        rw [ListenerState.Places, if_pos broken] at placed
        exact placed
  | tip height blockHash taken =>
      refine ⟨?_, ended⟩
      rw [statusChanges_append]
      exact (List.append_nil (statusChanges s.attempts)).symm ▸ path
  | estimated stale => exact ⟨path, ended⟩
  | committed first asked decoded priced run =>
      exact ⟨path, fun broken => by cases (ended broken).2.symm.trans first⟩
  | @announced events rest first env =>
      obtain ⟨asked, same, begins, -⟩ :=
        publishAll_asks env (txEvents s.db events) { s with tasks := rest }
      rw [publishAll_fields]
      refine ⟨?_, fun broken => by cases (ended broken).2.symm.trans first⟩
      simp only
      rw [same, statusChanges_append, statusChanges_announced begins, List.append_nil]
      exact path
  | halted => exact ⟨path, fun broken => ⟨rfl, (ended broken).2⟩⟩
  | other legal elsewhere permitted => exact ⟨path, ended⟩

/-- The connection events form one path from `healthy` to the status the listener has, each event
    from where the last one ended to another status; `unreachable` is the end of the thread. -/
theorem connectionEvents_of_reached {s : ListenerState} (reached : ListenerReached bdk chain s) :
    Run StatusChange .healthy (statusChanges s.attempts) s.chainStatus ∧
      (s.chainStatus = .unreachable → s.running = false ∧ s.tasks = []) := by
  obtain ⟨path, ended⟩ := reached.invariant_moves (I := ConnectionReported)
    (fun db _ => ⟨.stop _, fun broken => by cases broken⟩) fun _ _ => .moved
  exact ⟨path, ended⟩

/-- bitcoind does not know its mempool for a while. -/
def sampleOutage : ListenerEnv :=
  { sampleEnv with
    node := { sampleEnv.node with getRawTransaction := fun _ => .error (.rpc (-28) "Loading") } }

theorem sampleOutage_decodes : sampleOutage.node.Decodes sampleChain := by
  intro txid raw answered
  cases answered

/-- The sample environment some seconds later, with an estimate. -/
def sampleLater (time feerate : ℚ) : ListenerEnv :=
  { sampleEnv with estimateSmartFee := .ok (some feerate), time := time }

/-- The outage meets one announcement of the payment; the two after it are handled, a hundred seconds
    apart. -/
def recoveryLabels : List ListenerLabel :=
  [.receive ⟨"hashtx", List.replicate 32 170⟩ sampleOutage, .task sampleOutage,
    .receive ⟨"hashtx", List.replicate 32 170⟩ sampleEnv, .task sampleEnv, .task sampleEnv,
    .receive ⟨"hashtx", List.replicate 32 170⟩ sampleEnv, .task (sampleLater 100 (1 / 5000)),
    .task sampleEnv]

def sampleRecovered : ListenerState :=
  recoveryLabels.foldl (threadStep sampleBdk) (.started (invoiceWaiting 100000))

/-- The run with the outage and the recovery is reached. -/
theorem sampleRecovered_reached : ListenerReached sampleBdk sampleChain sampleRecovered :=
  ⟨_, recoveryLabels, ⟨_, invoiceWaiting_reached 100000, rfl⟩,
    .cons ⟨⟨rfl, rfl⟩, rfl⟩ (.cons ⟨sampleOutage_decodes, rfl⟩
      (.cons ⟨⟨rfl, rfl⟩, rfl⟩ (.cons ⟨sampleEnv_decodes, rfl⟩ (.cons ⟨sampleEnv_decodes, rfl⟩
        (.cons ⟨⟨by decide +kernel, by decide +kernel⟩, rfl⟩ (.cons ⟨sampleEnv_decodes, rfl⟩
          (.single ⟨sampleEnv_decodes, rfl⟩)))))))⟩

/-- The listener reports the outage and the recovery. -/
theorem connectionEvents_of_sampleRecovered :
    statusChanges sampleRecovered.attempts = [(.healthy, .degraded), (.degraded, .healthy)] ∧
      Run StatusChange .healthy (statusChanges sampleRecovered.attempts)
        sampleRecovered.chainStatus :=
  ⟨by decide +kernel, (connectionEvents_of_reached sampleRecovered_reached).1⟩

/-! ### Fee rates -/

/-- The calls of `estimatesmartfee` and the cache. -/
structure EstimatesSpaced (s : ListenerState) : Prop where
  spaced : Spaced feeRateTtlSeconds (s.estimates.map Prod.fst)
  latest : s.feeRateCache =
    s.estimates.getLast?.map fun call => (call.1, estimateFeeRateSatPerVbyte call.2)

/-- Calls that are a minute apart come no later than the last one. -/
theorem EstimatesSpaced.le_last {s : ListenerState} (held : EstimatesSpaced s)
    {asked rate : ℚ} (cached : s.feeRateCache = some (asked, rate)) :
    ∀ time ∈ s.estimates.map Prod.fst, time ≤ asked := by
  rw [held.latest, Option.map_eq_some_iff] at cached
  obtain ⟨last, found, same⟩ := cached
  obtain ⟨earlier, split⟩ := List.getLast?_eq_some_iff.mp found
  have spaced := held.spaced
  rw [split, List.map_append, Spaced, List.pairwise_append] at spaced
  have dated : last.1 = asked := congrArg Prod.fst same
  rw [← dated]
  intro time member
  rw [split, List.map_append, List.mem_append] at member
  rcases member with old | only
  · have positive : (0 : ℚ) ≤ feeRateTtlSeconds := by
      rw [feeRateTtlSeconds]
      norm_num
    have apart := spaced.2.2 time old last.1 (List.mem_singleton_self _)
    linarith
  · exact (List.mem_singleton.mp only).le

/-- A move keeps that the estimates are apart. -/
theorem EstimatesSpaced.moved {s t : ListenerState} (held : EstimatesSpaced s)
    (move : ListenerMove bdk chain allowed s () t) : EstimatesSpaced t := by
  cases move with
  | @estimated time answer stale =>
      have before : ∀ earlier ∈ s.estimates.map Prod.fst, earlier + feeRateTtlSeconds ≤ time := by
        intro earlier member
        cases cached : s.feeRateCache with
        | none =>
            rw [held.latest, Option.map_eq_none_iff, List.getLast?_eq_none_iff] at cached
            rw [cached] at member
            cases member
        | some known =>
            have bound := held.le_last cached earlier member
            exact (add_le_add_left bound feeRateTtlSeconds).trans (stale known cached)
      refine ⟨?_, ?_⟩
      · rw [List.map_append]
        exact held.spaced.append_singleton before
      · simp
  | announced first env =>
      rw [publishAll_fields]
      exact ⟨held.spaced, held.latest⟩
  | _ => exact ⟨held.spaced, held.latest⟩

/-- The estimates of every state reached are apart. -/
theorem estimatesSpaced_of_reached {s : ListenerState} (reached : ListenerReached bdk chain s) :
    EstimatesSpaced s := by
  apply reached.invariant_moves
  · exact fun db _ => ⟨List.Pairwise.nil, rfl⟩
  · exact fun s t held move => held.moved move

/-- However many transactions are handled and whatever the clock does, bitcoind is asked for a fee
    rate at most once in each minute of any stretch of the listener's clock, and what the cache
    holds is the time of the latest call and the rate it answered, or the fallback. -/
theorem estimates_of_reached {s : ListenerState} (reached : ListenerReached bdk chain s) :
    (∀ start (minutes : Nat),
      (s.estimates.filter fun call =>
        decide (start ≤ call.1 ∧ call.1 < start + minutes • feeRateTtlSeconds)).length ≤ minutes) ∧
      (s.feeRateCache =
        s.estimates.getLast?.map fun call => (call.1, estimateFeeRateSatPerVbyte call.2)) ∧
      ∀ asked rate, s.feeRateCache = some (asked, rate) → ∀ call ∈ s.estimates, call.1 ≤ asked := by
  have held := estimatesSpaced_of_reached reached
  refine ⟨?_, held.latest, ?_⟩
  · intro start minutes
    have spaced : Spaced feeRateTtlSeconds ((s.estimates.filter fun call =>
        decide (start ≤ call.1 ∧ call.1 < start + minutes • feeRateTtlSeconds)).map Prod.fst) :=
      held.spaced.sublist (List.filter_sublist.map Prod.fst)
    rw [← List.length_map]
    refine spaced.length_le start minutes fun time member => ?_
    obtain ⟨call, listed, rfl⟩ := List.mem_map.mp member
    exact of_decide_eq_true (List.mem_filter.mp listed).2
  · intro asked rate cached call member
    exact held.le_last cached call.1 (List.mem_map_of_mem member)

/-- The announcement after the outage finds no estimate, and the one a hundred seconds later takes
    the new one. -/
theorem estimates_of_sampleRecovered :
    sampleRecovered.estimates.map Prod.fst = [0, 100] ∧
      (sampleRecovered.estimates.filter fun call =>
        decide (50 ≤ call.1 ∧ call.1 < 50 + 1 • feeRateTtlSeconds)).length ≤ 1 ∧
      sampleRecovered.feeRateCache = some (100, 20) := by
  obtain ⟨windows, latest, -⟩ := estimates_of_reached sampleRecovered_reached
  have calls : sampleRecovered.estimates = [(0, .ok none), (100, .ok (some (1 / 5000)))] := by
    decide +kernel
  refine ⟨by rw [calls]; rfl, windows 50 1, ?_⟩
  rw [latest, calls]
  decide +kernel

end TallyKeep
