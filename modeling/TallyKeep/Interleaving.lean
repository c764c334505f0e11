/-
Module: TallyKeep.Interleaving
Layer: System
Purpose: Calls that run at the same time, cut at the points where they read and commit: several
  calls of `build_payment_request`, and one `broadcast_payment_request` beside the chain listener.
Trusted boundary: translation.  A statement reads what is committed when it starts
  (READ COMMITTED); what a session has written is seen by others from its commit on.  No call takes
  a lock, and no constraint of the schema speaks of requests in flight.  The listener's session
  reads and writes the requests in one place, so its database phase is one step
Main exports: BuildPhase, BuildState, BuildLabel, interleave, BuildStep, RaceState, RaceLabel, race,
  RaceLegal, RaceStep
-/
import TallyKeep.System
import Mathlib.Logic.Function.Basic

namespace TallyKeep

open Relational Transition

variable {Psbt Tx : Type}

/-! ### Concurrent calls of `build_payment_request` -/

/-- Where one call stands. -/
inductive BuildPhase where
  | idle
  | checked (order : PaymentOrder)
  | built (request : PaymentRequestRow)
  | inserted (request : PaymentRequestRow)

/-- The holding a call wants to spend from. -/
def BuildPhase.holdingId : BuildPhase → Option Uuid
  | .idle => none
  | .checked order => some order.holdingId
  | .built request => some request.holdingId
  | .inserted request => some request.holdingId

/-- The committed database and the calls, of API requests and of the poller.  The last field is
    history that no call reads: for every call the requests that were committed since its check. -/
structure BuildState where
  db : Database
  calls : Nat → BuildPhase
  overtaking : Nat → List Uuid

/-- Nothing is stored and no call is going on. -/
def BuildState.initial : BuildState := ⟨.empty, fun _ => .idle, fun _ => []⟩

inductive BuildLabel where
  | check (call : Nat) (order : PaymentOrder)
  | build (call : Nat) (node : PaymentNode) (requestId : Uuid) (now : Timestamp)
  | insert (call : Nat)
  | commit (call : Nat)
  | other (operation : Operation)

/-- Move one call to its next phase. -/
def BuildState.advance (s : BuildState) (call : Nat) (phase : BuildPhase) : BuildState :=
  { s with calls := Function.update s.calls call phase }

/-- The checks up to and with the one for a request in flight. -/
def checkInFlight (s : BuildState) (call : Nat) (order : PaymentOrder) : BuildState :=
  match admitPayment s.db order with
  | .ok .admitted =>
      { s.advance call (.checked order) with overtaking := Function.update s.overtaking call [] }
  | _ => s

/-- The composition of the request; one that raises ends the call. -/
def buildRequest (bdk : Bdk Psbt Tx) (s : BuildState) (call : Nat) (node : PaymentNode)
    (order : PaymentOrder) (requestId : Uuid) (now : Timestamp) : BuildState :=
  match composePayment bdk node s.db order requestId now with
  | .error _ => s.advance call .idle
  | .ok request => s.advance call (.built request)

/-- The commit.  The primary key and the foreign key to the holding are all the schema demands; a
    violation rolls the session back. -/
def commitRequest (s : BuildState) (call : Nat) (request : PaymentRequestRow) : BuildState :=
  if (s.db.holdings.get? request.holdingId).isSome ∧
      s.db.paymentRequests.get? request.id = none then
    { db := PaymentRequestRepo.insert s.db request
      calls := Function.update s.calls call .idle
      overtaking := fun other => request.id :: s.overtaking other }
  else s.advance call .idle

/-- One step of one call, or another operation of the program; a step that is not due does
    nothing. -/
def interleave (bdk : Bdk Psbt Tx) (s : BuildState) : BuildLabel → BuildState
  | .check call order =>
      match s.calls call with
      | .idle => checkInFlight s call order
      | _ => s
  | .build call node requestId now =>
      match s.calls call with
      | .checked order => buildRequest bdk s call node order requestId now
      | _ => s
  | .insert call =>
      match s.calls call with
      | .built request => s.advance call (.inserted request)
      | _ => s
  | .commit call =>
      match s.calls call with
      | .inserted request => commitRequest s call request
      | _ => s
  | .other operation => { s with db := step bdk s.db operation }

/-- The other operations build no request, and a holding that is registered has an id that is new,
    also to the calls that are going on. -/
def BuildLegal (chain : Chain) (s : BuildState) : BuildLabel → Prop
  | .other operation =>
      Legal chain operation ∧
        match operation with
        | .buildPaymentRequest _ _ _ => False
        | .registerHolding row => ∀ call, (s.calls call).holdingId ≠ some row.id
        | _ => True
  | _ => True

/-- One step of the interleaved calls. -/
def BuildStep (bdk : Bdk Psbt Tx) (chain : Chain) : BuildState → BuildLabel → BuildState → Prop :=
  guarded (stepOf (interleave bdk)) (BuildLegal chain)

/-! ### `broadcast_payment_request` beside the chain listener -/

/-- Where the broadcast stands.  What bitcoind has accepted is not committed yet. -/
inductive BroadcastPhase where
  | waiting
  | refused
  | accepted (transactionHex txid broadcastTxid : String)
  | committed
deriving DecidableEq

/-- bitcoind has taken the transaction. -/
def BroadcastPhase.Accepted : BroadcastPhase → Prop
  | .accepted _ _ _ => True
  | .committed => True
  | _ => False

/-- Where the handling of one notification stands. -/
inductive HandlingPhase where
  | due
  | known (height : Nat)
  | fetched (tx : DecodedTx) (ctx : TxContext)
  | finished

/-- The committed database, the broadcast, the height at which the transaction was mined, and the
    two notifications. -/
structure RaceState where
  db : Database
  broadcast : BroadcastPhase
  mined : Option Nat
  mempool : HandlingPhase
  block : HandlingPhase

/-- Nothing has begun. -/
def RaceState.ready (db : Database) : RaceState := ⟨db, .waiting, none, .due, .due⟩

inductive RaceLabel where
  | send (node : PaymentNode) (now : Timestamp)
  | commit (now : Timestamp)
  | mine (height : Nat)
  | fetchMempool (node : ListenerNode)
  | storeMempool
  | queryBlock (node : ListenerNode) (blockHash : String)
  | fetchBlock (node : ListenerNode)
  | storeBlock

/-- The broadcast up to the answer of bitcoind; one that is not accepted ends here. -/
def sendTransaction (bdk : Bdk Psbt Tx) (requestId : Uuid) (s : RaceState) (node : PaymentNode)
    (now : Timestamp) : RaceState :=
  match broadcastable bdk s.db requestId with
  | .error _ => { s with broadcast := .refused }
  | .ok (transactionHex, txid) =>
      match node.sendRawTransaction transactionHex with
      | .error _ =>
          { s with db := step bdk s.db (.broadcast node requestId now), broadcast := .refused }
      | .ok broadcastTxid => { s with broadcast := .accepted transactionHex txid broadcastTxid }

/-- What the handler goes on with; one that raises or finds nothing is over. -/
def HandlingPhase.ofFetch :
    Except PyError (Option (DecodedTx × TxContext)) → HandlingPhase
  | .ok (some (tx, ctx)) => .fetched tx ctx
  | _ => .finished

/-- The query of `_handle_block` for the transactions it knows. -/
def queryKnown (db : Database) (txid : Txid) (node : ListenerNode) (blockHash : String) :
    HandlingPhase :=
  match node.getBlock blockHash with
  | .error _ => .finished
  | .ok block => if txid ∈ knownIn db block.tx then .known block.height else .finished

/-- One step of the broadcast, of the chain or of the listener; a step that is not due does
    nothing. -/
def race (bdk : Bdk Psbt Tx) (requestId : Uuid) (txid : Txid) (s : RaceState) :
    RaceLabel → RaceState
  | .send node now =>
      match s.broadcast with
      | .waiting => sendTransaction bdk requestId s node now
      | _ => s
  | .commit now =>
      match s.broadcast with
      | .accepted transactionHex computed broadcastTxid =>
          { s with
            db := acceptedBroadcast s.db requestId transactionHex computed broadcastTxid now
            broadcast := .committed }
      | _ => s
  | .mine height =>
      match s.mined with
      | none => { s with mined := some height }
      | some _ => s
  | .fetchMempool node =>
      match s.mempool with
      | .due => { s with mempool := .ofFetch (fetchTx node txid none) }
      | _ => s
  | .storeMempool =>
      match s.mempool with
      | .fetched tx ctx =>
          { s with db := committed s.db (handleTxDb s.db tx ctx), mempool := .finished }
      | _ => s
  | .queryBlock node blockHash =>
      match s.block with
      | .due => { s with block := queryKnown s.db txid node blockHash }
      | _ => s
  | .fetchBlock node =>
      match s.block with
      | .known height => { s with block := .ofFetch (fetchTx node txid (some height)) }
      | _ => s
  | .storeBlock =>
      match s.block with
      | .fetched tx ctx =>
          { s with db := committed s.db (handleTxDb s.db tx ctx), block := .finished }
      | _ => s

/-- What `getrawtransaction` says of the transaction: its decoded form, and a block only once there
    is one, of the height at which the transaction was mined. -/
def Truthful (tx : DecodedTx) (mined : Option Nat) (node : ListenerNode) : Prop :=
  ∀ raw, node.getRawTransaction tx.txid = .ok raw → raw.decoded = tx ∧
    ∀ blockhash ∈ raw.blockhash, ∃ height, mined = some height ∧
      ∀ reported, node.getBlockHeader blockhash = .ok reported → reported = height

/-- bitcoind names an accepted transaction by its id, mines only what it has accepted, notifies of
    what has happened, and answers truthfully. -/
def RaceLegal (tx : DecodedTx) (s : RaceState) : RaceLabel → Prop
  | .send node _ => ∀ transactionHex broadcastTxid,
      node.sendRawTransaction transactionHex = .ok broadcastTxid → broadcastTxid = tx.txid.text
  | .mine _ => s.broadcast.Accepted
  | .fetchMempool node => s.broadcast.Accepted ∧ Truthful tx s.mined node
  | .queryBlock node blockHash => ∃ height, s.mined = some height ∧
      ∀ block, node.getBlock blockHash = .ok block → block.height = height ∧ tx.txid ∈ block.tx
  | .fetchBlock node => Truthful tx s.mined node
  | _ => True

/-- One step of the broadcast of a request beside the handling of its transaction. -/
def RaceStep (bdk : Bdk Psbt Tx) (requestId : Uuid) (tx : DecodedTx) :
    RaceState → RaceLabel → RaceState → Prop :=
  guarded (stepOf (race bdk requestId tx.txid)) (RaceLegal tx)

end TallyKeep
