/-
Module: TallyKeep.Workers.ListenerLoop
Layer: Workers
Purpose: The thread of `ChainListener`: from the notifications it reads to its sessions and to what
  it publishes, with the connection status and the fee rate it keeps, beside the other operations
  of the program.
Trusted boundary: translation of `workers/listeners/chain_listener.py` and
  `adapters/chain_event_adapter.py`.  What bitcoind, the clock and the bus answer is a parameter of
  each step; a publication that fails raises.  Each session is one step, the one that reads the
  coins for the announcements too; other operations come between any two of them.  Log lines are
  left out
Main exports: ChainNotification, ListenerEvent, ListenerState, transitionChainStatus, cachedFeeRate,
  handleTxTask, receiveBlock, txEvents, threadStep, ListenerAllowed, ListenerRun
-/
import TallyKeep.Workers.ChainListener
import TallyKeep.System

namespace TallyKeep

open Relational Transition

/-! ### Notifications -/

/-- One message from bitcoind's publisher. -/
structure ChainNotification where
  kind : String
  payload : List UInt8
deriving DecidableEq

/-- The two digits of a byte. -/
def hexByte (byte : UInt8) : List Char :=
  [Nat.digitChar (byte.toNat / 16), Nat.digitChar (byte.toNat % 16)]

/-- `bytes.hex()`. -/
def hexText (payload : List UInt8) : String := String.ofList (payload.flatMap hexByte)

theorem length_hexText (payload : List UInt8) : (hexText payload).length = 2 * payload.length := by
  rw [hexText, String.length_ofList]
  induction payload with
  | nil => rfl
  | cons byte rest inductionHypothesis =>
      rw [List.flatMap_cons, List.length_append, inductionHypothesis, List.length_cons]
      simp only [hexByte, List.length_cons, List.length_nil]
      omega

/-- `hash_hex`: a payload that is no hash is refused. -/
def ChainNotification.hashHex (notification : ChainNotification) : Except PyError Txid :=
  if whole : notification.payload.length = 32 then
    .ok ⟨hexText notification.payload, by rw [length_hexText, whole]⟩
  else
    .error ⟨.valueError, "hash_hex requires a 32-byte payload, got " ++
      toString notification.payload.length⟩

/-! ### Events -/

/-- The connection to bitcoind as the listener sees it. -/
inductive ChainStatus where
  | healthy
  | degraded
  | unreachable
deriving Repr, DecidableEq

/-- What the listener asks the bus to publish. -/
inductive ListenerEvent where
  | connectionStateChanged (oldStatus newStatus : ChainStatus)
  | blockNew (height : Nat) (blockHash : String)
  | txMempool (txid : Txid) (affectedDescriptorIds affectedHoldingIds : List Uuid)
  | txConfirmed (txid : Txid) (height : Nat) (affectedDescriptorIds affectedHoldingIds : List Uuid)
  | utxoReceived (holdingId : Option Uuid) (descriptorId utxoId : Uuid) (valueSats : Nat)
  | utxoSpent (holdingId : Option Uuid) (descriptorId utxoId : Uuid)
  | requiresCategorization (ledgerEntryId : Uuid)
  | paymentRequestConfirmed (payload : PaymentConfirmed)
  | invoicePaid (payload : InvoicePaid)
  | sweepExecutionCompleted (payload : SweepCompleted)
deriving DecidableEq

def ListenerEvent.topic : ListenerEvent → String
  | .connectionStateChanged _ _ => "system.chain.connection_state_changed"
  | .blockNew _ _ => "chain.block.new"
  | .txMempool _ _ _ => "chain.tx.mempool"
  | .txConfirmed _ _ _ _ => "chain.tx.confirmed"
  | .utxoReceived _ _ _ _ => "holding.utxo.received"
  | .utxoSpent _ _ _ => "holding.utxo.spent"
  | .requiresCategorization _ => "ledger_entry.requires_categorization"
  | .paymentRequestConfirmed _ => "banking.payment_request.confirmed"
  | .invoicePaid _ => "banking.invoice.paid"
  | .sweepExecutionCompleted _ => "treasury.sweep_execution.completed"

/-- One call of `publish`, and whether the bus took the event. -/
structure Attempt where
  event : ListenerEvent
  taken : Bool
deriving DecidableEq

/-! ### The state of the thread -/

/-- What is left to do for the notification that is handled: a transaction to process, or the
    announcements of one whose session is committed. -/
inductive ListenerTask where
  | tx (txid : Txid) (confirmationHeight : Option Nat)
  | emit (events : TxEvents)
deriving DecidableEq

/-- The committed database and what the listener keeps.  Two fields are history that none of them
    reads: the calls of `publish`, and those of `estimatesmartfee` with their times and answers. -/
structure ListenerState where
  db : Database
  running : Bool
  tasks : List ListenerTask
  chainStatus : ChainStatus
  feeRateCache : Option (ℚ × ℚ)
  attempts : List Attempt
  estimates : List (ℚ × Except NodeError (Option ℚ))

/-- A listener that has just been started. -/
def ListenerState.started (db : Database) : ListenerState := ⟨db, true, [], .healthy, none, [], []⟩

/-- What bitcoind answers during a step, with the clock in seconds and the bus: whether it takes the
    event that comes after so many others. -/
structure ListenerEnv where
  node : ListenerNode
  estimateSmartFee : Except NodeError (Option ℚ)
  time : ℚ
  takes : Nat → Bool

/-- `publish`: true unless it raises. -/
def publish (env : ListenerEnv) (s : ListenerState) (event : ListenerEvent) :
    ListenerState × Bool :=
  let taken := env.takes s.attempts.length
  ({ s with attempts := s.attempts ++ [⟨event, taken⟩] }, taken)

/-- One event after the other, up to the first that raises. -/
def publishAll (env : ListenerEnv) (s : ListenerState) : List ListenerEvent → ListenerState
  | [] => s
  | event :: rest =>
      let (s, taken) := publish env s event
      if taken then publishAll env s rest else s

/-- `_transition_chain_status`: the status is stored before the bus is asked. -/
def transitionChainStatus (env : ListenerEnv) (s : ListenerState) (newStatus : ChainStatus) :
    ListenerState × Bool :=
  if s.chainStatus = newStatus then (s, true)
  else
    publish env { s with chainStatus := newStatus }
      (.connectionStateChanged s.chainStatus newStatus)

/-- `_fee_rate_ttl_seconds`. -/
def feeRateTtlSeconds : ℚ := 60

/-- `_cached_fee_rate`. -/
def cachedFeeRate (env : ListenerEnv) (s : ListenerState) : ListenerState × ℚ :=
  let refreshed : ListenerState × ℚ :=
    let rate := estimateFeeRateSatPerVbyte env.estimateSmartFee
    ({ s with
        feeRateCache := some (env.time, rate)
        estimates := s.estimates ++ [(env.time, env.estimateSmartFee)] }, rate)
  match s.feeRateCache with
  | some (asked, rate) => if env.time - asked < feeRateTtlSeconds then (s, rate) else refreshed
  | none => refreshed

/-! ### `_handle_tx` -/

/-- From the answer of bitcoind to the commit.  A transaction that bitcoind no longer has leaves the
    connection status as it is, and so does a call that reaches no bitcoind. -/
def handleTxTask (env : ListenerEnv) (s : ListenerState) (txid : Txid)
    (confirmationHeight : Option Nat) : ListenerState :=
  match env.node.getRawTransaction txid with
  | .error (.rpc code _) => if code = -5 then s else (transitionChainStatus env s .degraded).1
  | .error _ => s
  | .ok raw =>
      let (s, taken) := transitionChainStatus env s .healthy
      if taken then
        match actualHeight env.node confirmationHeight raw with
        | .error _ => s
        | .ok height =>
            let (s, rate) := cachedFeeRate env s
            match handleTxDb s.db raw.decoded ⟨height, raw.blocktime, some rate, env.node.now,
                env.node.rowOrder, env.node.setOrder⟩ with
            | .error _ => s
            | .ok (db, events) => { s with db := db, tasks := .emit events :: s.tasks }
      else s

/-! ### `_handle_block` -/

/-- The new tip is announced, and the transactions of the block that are known are left to do. -/
def receiveBlock (env : ListenerEnv) (s : ListenerState) (blockHash : String) : ListenerState :=
  match env.node.getBlock blockHash with
  | .error (.rpc _ _) => (transitionChainStatus env s .degraded).1
  | .error _ => s
  | .ok block =>
      let (s, taken) := transitionChainStatus env s .healthy
      if taken then
        let (s, taken) := publish env s (.blockNew block.height blockHash)
        if taken then
          { s with
            tasks := (env.node.arrangeTxids (knownIn s.db block.tx)).map fun txid =>
              .tx txid (some block.height) }
        else s
      else s

/-! ### `_emit_tx_events` -/

/-- `session.get(UTXORow, utxo_id)`. -/
def coinById (db : Database) (utxoId : Uuid) : Option UtxoRow :=
  db.utxos.rows.find? fun row => decide (row.id = utxoId)

def utxoReceivedEvent (db : Database) (utxoId : Uuid) : Option ListenerEvent :=
  (coinById db utxoId).map fun row =>
    .utxoReceived (db.holdingOf row.descriptorId) row.descriptorId row.id row.valueSats

def utxoSpentEvent (db : Database) (utxoId : Uuid) : Option ListenerEvent :=
  (coinById db utxoId).map fun row =>
    .utxoSpent (db.holdingOf row.descriptorId) row.descriptorId row.id

/-- The event about the transaction itself. -/
def txEvent (result : TxProcessingResult) : ListenerEvent :=
  match result.confirmationHeight with
  | none => .txMempool result.txid result.affectedDescriptorIds result.affectedHoldingIds
  | some height =>
      .txConfirmed result.txid height result.affectedDescriptorIds result.affectedHoldingIds

/-- Nothing was written for the transaction but heights. -/
def TxProcessingResult.Unchanged (result : TxProcessingResult) : Prop :=
  result.discoveredUtxoIds = [] ∧ result.spentUtxoIds = [] ∧ result.newLedgerEntryIds = [] ∧
    result.isNew = false

instance (result : TxProcessingResult) : Decidable result.Unchanged :=
  inferInstanceAs (Decidable (_ ∧ _ ∧ _ ∧ _))

/-- `_emit_tx_events`. -/
def resultEvents (db : Database) (result : TxProcessingResult) : List ListenerEvent :=
  if result.Unchanged then []
  else
    txEvent result :: (result.discoveredUtxoIds.filterMap (utxoReceivedEvent db) ++
      result.spentUtxoIds.filterMap (utxoSpentEvent db) ++
      result.newLedgerEntryIds.map .requiresCategorization)

/-- All that `_handle_tx` publishes after its commit. -/
def txEvents (db : Database) (events : TxEvents) : List ListenerEvent :=
  resultEvents db events.result ++
    (events.paymentConfirmation.map .paymentRequestConfirmed).toList ++
    (events.invoicePaid.map .invoicePaid).toList ++
    (events.sweepConfirmed.map .sweepExecutionCompleted).toList

/-! ### The loop -/

/-- `_handle`. -/
def receive (env : ListenerEnv) (s : ListenerState) (notification : ChainNotification) :
    ListenerState :=
  if notification.kind = "hashtx" then
    match notification.hashHex with
    | .error _ => s
    | .ok hash => { s with tasks := [.tx hash none] }
  else if notification.kind = "hashblock" then
    match notification.hashHex with
    | .error _ => s
    | .ok hash => receiveBlock env s hash.text
  else s

/-- The first task that is left. -/
def nextTask (env : ListenerEnv) (s : ListenerState) : ListenerState :=
  match s.tasks with
  | [] => s
  | .tx txid confirmationHeight :: rest =>
      handleTxTask env { s with tasks := rest } txid confirmationHeight
  | .emit events :: rest => publishAll env { s with tasks := rest } (txEvents s.db events)

/-- What happens next: a notification is read, a task is done, reading fails for good, the listener
    is stopped, or another part of the program performs an operation. -/
inductive ListenerLabel where
  | receive (notification : ChainNotification) (env : ListenerEnv)
  | task (env : ListenerEnv)
  | readFails (env : ListenerEnv)
  | stop
  | other (operation : Operation)

variable {Psbt Tx : Type}

def threadStep (bdk : Bdk Psbt Tx) (s : ListenerState) : ListenerLabel → ListenerState
  | .receive notification env => receive env s notification
  | .task env => nextTask env s
  | .readFails env => (transitionChainStatus env { s with running := false } .unreachable).1
  | .stop => { s with running := false }
  | .other operation => { s with db := step bdk s.db operation }

/-- Only the listener handles transactions. -/
def Operation.Handles : Operation → Prop
  | .handleTx _ _ => True
  | _ => False

instance : DecidablePred Operation.Handles := by
  intro operation
  cases operation <;> first | exact .isTrue trivial | exact .isFalse id

/-- bitcoind decodes the transaction of the chain that it was asked for. -/
def ListenerNode.Decodes (node : ListenerNode) (chain : Chain) : Prop :=
  ∀ txid raw, node.getRawTransaction txid = .ok raw →
    raw.decoded.txid = txid ∧ raw.decoded = chain.txOf txid

/-- The thread reads its next notification when it has nothing left to do. -/
def ListenerAllowed (chain : Chain) (s : ListenerState) : ListenerLabel → Prop
  | .receive _ _ => s.running = true ∧ s.tasks = []
  | .task env => env.node.Decodes chain
  | .readFails _ => s.running = true ∧ s.tasks = []
  | .stop => True
  | .other operation => Legal chain operation ∧ ¬operation.Handles

/-- The runs of the listener beside the other operations of the program. -/
abbrev ListenerRun (bdk : Bdk Psbt Tx) (chain : Chain) :
    ListenerState → List ListenerLabel → ListenerState → Prop :=
  Run (guarded (stepOf (threadStep bdk)) (ListenerAllowed chain))

/-- The states a listener can be in that was started on a reached database. -/
def ListenerReached (bdk : Bdk Psbt Tx) (chain : Chain) : ListenerState → Prop :=
  Reachable (fun s => ∃ db, Reached bdk chain db ∧ s = .started db)
    (guarded (stepOf (threadStep bdk)) (ListenerAllowed chain))

end TallyKeep
