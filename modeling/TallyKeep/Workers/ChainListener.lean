/-
Module: TallyKeep.Workers.ChainListener
Layer: Workers
Purpose: `ChainListener`: from a notification to the committed effects of one transaction or one
  block.
Trusted boundary: translation of `workers/listeners/chain_listener.py`.  bitcoind's
  answers are parameters; a phase that raises commits nothing; bus messages carry no state and are
  returned, not sent
Main exports: linkPaymentRequestIfAny, linkInvoiceIfAny, linkSweepExecutionIfAny, handleTxDb,
  ListenerNode, handleTx, handleBlock
-/
import TallyKeep.Services.ChainProcessing

namespace TallyKeep

open Relational

/-! ### `_link_payment_request_if_any` -/

/-- The payload of `banking.payment_request.confirmed`. -/
structure PaymentConfirmed where
  id : Uuid
  txid : Txid
  height : Nat
  ledgerEntryId : Uuid
deriving DecidableEq

/-- The entry a confirmed request is linked to: the first of the new ones, or the one found by
    transaction id when this delivery made none. -/
def confirmedEntryId (db : Database) (result : TxProcessingResult) :
    Except PyError (Option Uuid) :=
  match result.newLedgerEntryIds with
  | [] => (LedgerEntryRepo.getBySource db result.txid).map fun existing =>
      existing.map LedgerEntryRow.id
  | entryId :: _ => .ok (some entryId)

/-- A sweep execution that is over stays as it is. -/
def SweepExecutionStatus.Over (status : SweepExecutionStatus) : Prop :=
  status = .completed ∨ status = .failed ∨ status = .cancelled

instance (status : SweepExecutionStatus) : Decidable status.Over :=
  inferInstanceAs (Decidable (_ ∨ _))

/-- Complete the execution a confirmed request was made for. -/
def completeOriginatingSweep (db : Database) (request : PaymentRequestRow) (txid : Txid)
    (now : Timestamp) : Database :=
  match request.sweepExecutionId.bind db.sweepExecutions.get? with
  | none => db
  | some execution =>
      if execution.status.Over then db
      else SweepExecutionRepo.complete db execution.id txid now

/-- What follows once the entry and the request are known: only BROADCAST becomes CONFIRMED. -/
def confirmRequest (db : Database) (request : PaymentRequestRow) (txid : Txid) (height : Nat)
    (ledgerEntryId : Uuid) (now : Timestamp) : Database × Option PaymentConfirmed :=
  if request.status ≠ .broadcast then (db, none)
  else
    (completeOriginatingSweep
        (PaymentRequestRepo.markConfirmed db request.id ledgerEntryId now) request txid now,
      some ⟨request.id, txid, height, ledgerEntryId⟩)

def linkPaymentRequestIfAny (db : Database) (result : TxProcessingResult) (now : Timestamp) :
    Except PyError (Database × Option PaymentConfirmed) :=
  match result.confirmationHeight with
  | none => .ok (db, none)
  | some height => do
      match ← confirmedEntryId db result with
      | none => return (db, none)
      | some ledgerEntryId =>
          match ← PaymentRequestRepo.getByBroadcastTxid db result.txid with
          | none => return (db, none)
          | some request => return confirmRequest db request result.txid height ledgerEntryId now

/-! ### `_link_invoice_if_any` -/

/-- The payload of `banking.invoice.paid`. -/
structure InvoicePaid where
  id : Uuid
  txid : Txid
  ledgerEntryId : Uuid
  amountSats : Nat
  overpaid : Bool
deriving DecidableEq

/-- The invoice that waits on the address of an output, when the output has one. -/
def invoiceAwaiting (db : Database) (output : DecodedOutput) : Option InvoiceRow :=
  match output.address with
  | none => none
  | some address => if address = "" then none else InvoiceRepo.getOpenByAddress db address

/-- The invoice has an amount and this single output is larger. -/
def InvoiceRow.overpaidBy (invoice : InvoiceRow) (valueSats : Nat) : Bool :=
  invoice.amountSats.any fun amount => decide (amount < (valueSats : Int))

/-- One round of the loop over `vout`; nothing is returned where the source continues. -/
def settleOutput (db : Database) (txid : Txid) (output : DecodedOutput) :
    Except PyError (Option (Database × InvoicePaid)) :=
  match invoiceAwaiting db output with
  | none => .ok none
  | some invoice => do
      match ← LedgerEntryRepo.getBySource db txid with
      | none => return none
      | some entry =>
          match output.value with
          | none => return none
          | some value =>
              let valueSats := btcToSats value
              let overpaid := invoice.overpaidBy valueSats
              return some (InvoiceRepo.markPaid db invoice.id entry.id overpaid,
                ⟨invoice.id, txid, entry.id, valueSats, overpaid⟩)

/-- The loop over `vout`; the first invoice that is settled ends it. -/
def settleFirst (db : Database) (txid : Txid) :
    List DecodedOutput → Except PyError (Database × Option InvoicePaid)
  | [] => .ok (db, none)
  | output :: rest => do
      match ← settleOutput db txid output with
      | none => settleFirst db txid rest
      | some (db, paid) => return (db, some paid)

def linkInvoiceIfAny (db : Database) (result : TxProcessingResult) (tx : DecodedTx) :
    Except PyError (Database × Option InvoicePaid) :=
  if result.discoveredUtxoIds = [] ∧ result.newLedgerEntryIds = [] then .ok (db, none)
  else settleFirst db result.txid tx.vout

/-! ### `_link_sweep_execution_if_any` -/

/-- The payload of `treasury.sweep_execution.completed`. -/
structure SweepCompleted where
  executionId : Uuid
  txid : Txid
  height : Nat
deriving DecidableEq

def linkSweepExecutionIfAny (db : Database) (result : TxProcessingResult) (now : Timestamp) :
    Except PyError (Database × Option SweepCompleted) :=
  match result.confirmationHeight with
  | none => .ok (db, none)
  | some height => do
      match ← SweepExecutionRepo.getByExpectedTxid db result.txid with
      | none => return (db, none)
      | some execution =>
          if execution.status ≠ .onchainPending then return (db, none)
          return (SweepExecutionRepo.complete db execution.id result.txid now,
            some ⟨execution.id, result.txid, height⟩)

/-! ### The database phase of `_handle_tx` -/

/-- What the listener announces after the commit. -/
structure TxEvents where
  result : TxProcessingResult
  paymentConfirmation : Option PaymentConfirmed
  invoicePaid : Option InvoicePaid
  sweepConfirmed : Option SweepCompleted
deriving DecidableEq

/-- The session of `_handle_tx`, from `process_decoded_transaction` to the commit. -/
def handleTxDb (db : Database) (tx : DecodedTx) (ctx : TxContext) :
    Except PyError (Database × TxEvents) := do
  let (db, result) ← processDecodedTransaction db tx ctx
  let (db, paymentConfirmation) ← linkPaymentRequestIfAny db result ctx.now
  let (db, invoicePaid) ← linkInvoiceIfAny db result tx
  let (db, sweepConfirmed) ← linkSweepExecutionIfAny db result ctx.now
  return (db, ⟨result, paymentConfirmation, invoicePaid, sweepConfirmed⟩)

/-- The committed database after the phase: one that raises is rolled back. -/
def committed (before : Database) {ε α : Type} : Except ε (Database × α) → Database
  | .ok (db, _) => db
  | .error _ => before

/-! ### `_handle_tx` -/

/-- What `getrawtransaction` returns in verbose form. -/
structure RawTransaction where
  decoded : DecodedTx
  blockhash : Option String
  blocktime : Option Timestamp

/-- What `getblock` returns in its short form. -/
structure Block where
  height : Nat
  tx : List Txid

/-- bitcoind as the listener sees it, with the listener's clock and caches and the orders in which
    queries and sets are read. -/
structure ListenerNode where
  getRawTransaction : Txid → Except NodeError RawTransaction
  getBlockHeader : String → Except NodeError Nat
  getBlock : String → Except NodeError Block
  feeRate : ℚ
  now : Timestamp
  rowOrder : RowOrder
  setOrder : SetOrder
  arrangeTxids : List Txid → List Txid
  arrangePerm : ∀ txids, (arrangeTxids txids).Perm txids

/-- A failed call as the exception that leaves the handler. -/
def NodeError.raised (error : NodeError) : PyError :=
  match error with
  | .rpc _ _ => ⟨.nodeRpcError, error.str⟩
  | .unavailable _ => ⟨.nodeUnavailable, error.str⟩

/-- The height given by the caller, else the one of the block that bitcoind names. -/
def actualHeight (node : ListenerNode) (confirmationHeight : Option Nat) (raw : RawTransaction) :
    Except PyError (Option Nat) :=
  match confirmationHeight, raw.blockhash with
  | some height, _ => .ok (some height)
  | none, none => .ok none
  | none, some blockhash =>
      match node.getBlockHeader blockhash with
      | .ok height => .ok (some height)
      | .error (.rpc _ _) => .ok none
      | .error error => .error error.raised

/-- What the database phase is called with, once bitcoind has answered; nothing for a transaction
    that bitcoind no longer has. -/
def fetchTx (node : ListenerNode) (txid : Txid) (confirmationHeight : Option Nat) :
    Except PyError (Option (DecodedTx × TxContext)) :=
  match node.getRawTransaction txid with
  | .error (.rpc code message) =>
      if code = -5 then .ok none else .error (NodeError.rpc code message).raised
  | .error error => .error error.raised
  | .ok raw => do
      let height ← actualHeight node confirmationHeight raw
      return some (raw.decoded,
        ⟨height, raw.blocktime, some node.feeRate, node.now, node.rowOrder, node.setOrder⟩)

/-- `_handle_tx` up to its commit. -/
def handleTx (node : ListenerNode) (db : Database) (txid : Txid)
    (confirmationHeight : Option Nat) : Except PyError (Database × Option TxEvents) := do
  match ← fetchTx node txid confirmationHeight with
  | none => return (db, none)
  | some (tx, ctx) =>
      let (db, events) ← handleTxDb db tx ctx
      return (db, some events)

/-! ### `_handle_block` -/

/-- The transactions of a block that are known already. -/
def knownIn (db : Database) (txids : List Txid) : List Txid :=
  (db.onchainTransactions.select fun row => decide (row.txid ∈ txids)).map
    OnChainTransactionRow.txid

/-- `_handle_block`: the known transactions are handled one by one, and an exception is logged and
    passed over. -/
def handleBlock (node : ListenerNode) (db : Database) (blockHash : String) :
    Except PyError Database :=
  match node.getBlock blockHash with
  | .error (.rpc _ _) => .ok db
  | .error error => .error error.raised
  | .ok block => .ok <|
      (node.arrangeTxids (knownIn db block.tx)).foldl
        (fun db txid => committed db (handleTx node db txid (some block.height))) db

end TallyKeep
