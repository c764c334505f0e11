/-
Module: TallyKeep.Proofs.ListenerBlocks
Layer: Proofs
Purpose: A block that the listener handles without interference: task after task, it does to the
  database what handling the whole block at once does.
Trusted boundary: none
Main exports: pricedNode, handleTxTask_committed, drained_txs, drained_block
-/
import TallyKeep.Proofs.ListenerThread

namespace TallyKeep

open Relational Transition

variable {env : ListenerEnv} {s t : ListenerState}

/-! ### The fee rate of a block -/

/-- After a rate is asked for, it is in the cache, and not old. -/
theorem cachedFeeRate_fresh (env : ListenerEnv) (s : ListenerState) :
    ∃ asked, (cachedFeeRate env s).1.feeRateCache = some (asked, (cachedFeeRate env s).2) ∧
      env.time - asked < feeRateTtlSeconds := by
  have ttl : (0 : ℚ) < feeRateTtlSeconds := by
    rw [feeRateTtlSeconds]
    norm_num
  unfold cachedFeeRate
  split
  · rename_i asked rate cached
    split
    · rename_i fresh
      exact ⟨asked, cached, fresh⟩
    · exact ⟨env.time, rfl, by rw [sub_self]; exact ttl⟩
  · exact ⟨env.time, rfl, by rw [sub_self]; exact ttl⟩

theorem cachedFeeRate_of_fresh {asked rate : ℚ} (cached : s.feeRateCache = some (asked, rate))
    (fresh : env.time - asked < feeRateTtlSeconds) : (cachedFeeRate env s).2 = rate := by
  simp only [cachedFeeRate, cached]
  rw [if_pos fresh]

theorem cachedFeeRate_congr (same : t.feeRateCache = s.feeRateCache) :
    (cachedFeeRate env t).2 = (cachedFeeRate env s).2 := by
  simp only [cachedFeeRate, same]
  split
  · split <;> rfl
  · rfl

/-- The rate asked for is the one found a moment later. -/
theorem cachedFeeRate_again (same : t.feeRateCache = (cachedFeeRate env s).1.feeRateCache) :
    (cachedFeeRate env t).2 = (cachedFeeRate env s).2 := by
  obtain ⟨asked, cached, fresh⟩ := cachedFeeRate_fresh env s
  exact cachedFeeRate_of_fresh (same.trans cached) fresh

/-! ### One transaction -/

/-- bitcoind, with the rate that the listener has or asks for next. -/
def pricedNode (env : ListenerEnv) (s : ListenerState) : ListenerNode :=
  { env.node with feeRate := (cachedFeeRate env s).2 }

theorem actualHeight_pricedNode (env : ListenerEnv) (s : ListenerState) (height : Option Nat)
    (raw : RawTransaction) :
    actualHeight (pricedNode env s) height raw = actualHeight env.node height raw := rfl

@[simp] theorem transitionChainStatus_feeRateCache (env : ListenerEnv) (s : ListenerState)
    (newStatus : ChainStatus) :
    (transitionChainStatus env s newStatus).1.feeRateCache = s.feeRateCache := by
  rw [transitionChainStatus]
  split <;> rfl

theorem transitionChainStatus_taken (takes : ∀ n, env.takes n = true) (s : ListenerState)
    (newStatus : ChainStatus) : (transitionChainStatus env s newStatus).2 = true := by
  rw [transitionChainStatus]
  split
  · rfl
  · exact takes _

/-- The task of a transaction commits what the whole handler commits, and leaves at most its
    announcements to do. -/
theorem handleTxTask_committed (takes : ∀ n, env.takes n = true) (s : ListenerState) (txid : Txid)
    (height : Option Nat) :
    (handleTxTask env s txid height).db =
        committed s.db (handleTx (pricedNode env s) s.db txid height) ∧
      ((handleTxTask env s txid height).tasks = s.tasks ∨
        ∃ events, (handleTxTask env s txid height).tasks = .emit events :: s.tasks) ∧
      (cachedFeeRate env (handleTxTask env s txid height)).2 = (cachedFeeRate env s).2 := by
  have shifted : ∀ newStatus,
      (transitionChainStatus env s newStatus).1.db = s.db ∧
        ((transitionChainStatus env s newStatus).1.tasks = s.tasks ∨
          ∃ events, (transitionChainStatus env s newStatus).1.tasks = .emit events :: s.tasks) ∧
        (cachedFeeRate env (transitionChainStatus env s newStatus).1).2 =
          (cachedFeeRate env s).2 := fun newStatus =>
    ⟨transitionChainStatus_db env s newStatus, .inl (transitionChainStatus_tasks env s newStatus),
      cachedFeeRate_congr (transitionChainStatus_feeRateCache env s newStatus)⟩
  rw [handleTxTask, handleTx, fetchTx]
  simp only [actualHeight_pricedNode]
  simp only [pricedNode]
  cases env.node.getRawTransaction txid with
  | error error =>
      cases error with
      | rpc code message =>
          simp only
          split
          · exact ⟨rfl, .inl rfl, rfl⟩
          · exact shifted .degraded
      | unavailable message => exact ⟨rfl, .inl rfl, rfl⟩
  | ok raw =>
      simp only [transitionChainStatus_taken takes s .healthy, if_true]
      cases actualHeight env.node height raw with
      | error error => exact shifted .healthy
      | ok actual =>
          have rate : (cachedFeeRate env (transitionChainStatus env s .healthy).1).2 =
              (cachedFeeRate env s).2 :=
            cachedFeeRate_congr (transitionChainStatus_feeRateCache env s .healthy)
          simp only [rate, cachedFeeRate_db, transitionChainStatus_db]
          cases run : handleTxDb s.db raw.decoded ⟨actual, raw.blocktime,
              some (cachedFeeRate env s).2, env.node.now, env.node.rowOrder, env.node.setOrder⟩ with
          | error error =>
              refine ⟨?_, .inl ?_, ?_⟩
              · simp [bind, Except.bind, pure, Except.pure, run, committed]
              · simp
              · exact (cachedFeeRate_again rfl).trans rate
          | ok out =>
              obtain ⟨db, events⟩ := out
              refine ⟨?_, .inr ⟨events, ?_⟩, ?_⟩
              · simp [bind, Except.bind, pure, Except.pure, run, committed]
              · simp
              · exact Eq.trans (cachedFeeRate_again
                  (s := (transitionChainStatus env s .healthy).1) rfl) rate

/-- One transaction after the other: when no task is left, the database is what handling them in
    that order makes of it. -/
theorem drained_txs (takes : ∀ n, env.takes n = true) (height : Option Nat) (txids : List Txid)
    (s : ListenerState) (tasks : s.tasks = txids.map fun txid => .tx txid height) :
    ∃ n, ((nextTask env)^[n] s).tasks = [] ∧ ((nextTask env)^[n] s).db =
      txids.foldl (fun db txid => committed db (handleTx (pricedNode env s) db txid height))
        s.db := by
  induction txids generalizing s with
  | nil => exact ⟨0, tasks, rfl⟩
  | cons txid rest inductionHypothesis =>
      rw [List.map_cons] at tasks
      have first : nextTask env s = handleTxTask env { s with
          tasks := rest.map fun txid => .tx txid height } txid height := by
        rw [nextTask, tasks]
      obtain ⟨db, left, rate⟩ := handleTxTask_committed takes
        { s with tasks := rest.map fun txid => .tx txid height } txid height
      have sameStart : (cachedFeeRate env { s with
          tasks := rest.map fun txid => .tx txid height }).2 = (cachedFeeRate env s).2 :=
        cachedFeeRate_congr rfl
      have sameNode : pricedNode env { s with tasks := rest.map fun txid => .tx txid height } =
          pricedNode env s := by
        simp only [pricedNode, sameStart]
      rw [← first, sameNode] at db
      rw [← first] at left rate
      rw [sameStart] at rate
      -- The announcements, if there are any, touch neither the database nor the rate.
      have past : ∃ k, ((nextTask env)^[k] s).tasks = rest.map (fun txid => .tx txid height) ∧
          ((nextTask env)^[k] s).db = (nextTask env s).db ∧
          (cachedFeeRate env ((nextTask env)^[k] s)).2 = (cachedFeeRate env s).2 := by
        rcases left with idle | ⟨events, announces⟩
        · exact ⟨1, idle, rfl, rate⟩
        · have second : nextTask env (nextTask env s) = publishAll env { nextTask env s with
              tasks := rest.map fun txid => .tx txid height }
                (txEvents (nextTask env s).db events) := by
            rw [nextTask, announces]
          refine ⟨2, ?_, ?_, ?_⟩
          · change (nextTask env (nextTask env s)).tasks = _
            rw [second, publishAll_fields]
          · change (nextTask env (nextTask env s)).db = _
            rw [second, publishAll_fields]
          · change (cachedFeeRate env (nextTask env (nextTask env s))).2 = _
            rw [second, publishAll_fields]
            exact Eq.trans (cachedFeeRate_congr (s := nextTask env s) rfl) rate
      obtain ⟨k, pending, sameDb, sameRate⟩ := past
      obtain ⟨n, idle, drained⟩ := inductionHypothesis ((nextTask env)^[k] s) pending
      refine ⟨n + k, ?_, ?_⟩
      · rw [Function.iterate_add_apply]
        exact idle
      · rw [Function.iterate_add_apply, drained, sameDb, db, List.foldl_cons]
        simp only [pricedNode, sameRate]

/-- The same, where the transactions have been queued since. -/
theorem drained_queue (takes : ∀ n, env.takes n = true) (height : Option Nat) (txids : List Txid)
    (tasks : t.tasks = txids.map fun txid => .tx txid height) (db : t.db = s.db)
    (cache : t.feeRateCache = s.feeRateCache) :
    ∃ n, ((nextTask env)^[n] t).tasks = [] ∧ ((nextTask env)^[n] t).db =
      txids.foldl (fun db txid => committed db (handleTx (pricedNode env s) db txid height))
        s.db := by
  obtain ⟨n, idle, drained⟩ := drained_txs takes height txids t tasks
  have sameNode : pricedNode env t = pricedNode env s := by
    simp only [pricedNode, cachedFeeRate_congr cache]
  rw [sameNode, db] at drained
  exact ⟨n, idle, drained⟩

/-- A block that is handled without interference, and whose announcements the bus takes: once the
    listener has nothing left to do, the database is what handling the block at once makes of it. -/
theorem drained_block (takes : ∀ n, env.takes n = true) (idle : s.tasks = []) (blockHash : String) :
    ∃ n, ((nextTask env)^[n] (receiveBlock env s blockHash)).tasks = [] ∧
      ((nextTask env)^[n] (receiveBlock env s blockHash)).db =
        (handleBlock (pricedNode env s) s.db blockHash).toOption.getD s.db := by
  have shown : ∀ newStatus, (transitionChainStatus env s newStatus).1.tasks = [] ∧
      (transitionChainStatus env s newStatus).1.db = s.db := fun newStatus =>
    ⟨(transitionChainStatus_tasks env s newStatus).trans idle,
      transitionChainStatus_db env s newStatus⟩
  have sameBlock : (pricedNode env s).getBlock blockHash = env.node.getBlock blockHash := rfl
  rw [receiveBlock, handleBlock, sameBlock]
  cases env.node.getBlock blockHash with
  | error error =>
      cases error with
      | rpc code message => exact ⟨0, (shown .degraded).1, (shown .degraded).2⟩
      | unavailable message => exact ⟨0, idle, rfl⟩
  | ok block =>
      have published : (publish env (transitionChainStatus env s .healthy).1
          (.blockNew block.height blockHash)).2 = true := takes _
      simp only [transitionChainStatus_taken takes s .healthy, if_true, published]
      have sameDb : (publish env (transitionChainStatus env s .healthy).1
          (.blockNew block.height blockHash)).1.db = s.db := (shown .healthy).2
      rw [sameDb]
      exact drained_queue takes (some block.height) _ rfl rfl
        (transitionChainStatus_feeRateCache env s .healthy)

/-- The sample payment is confirmed by a block. -/
theorem drained_sampleBlock :
    ∃ n, ((nextTask sampleEnv)^[n] (receiveBlock sampleEnv sampleListening "00")).tasks = [] ∧
      ((nextTask sampleEnv)^[n] (receiveBlock sampleEnv sampleListening "00")).db =
        (handleBlock (pricedNode sampleEnv sampleListening) sampleListening.db "00").toOption.getD
          sampleListening.db := by
  have idle : sampleListening.tasks = [] := by decide +kernel
  exact drained_block (fun _ => rfl) idle "00"

end TallyKeep
