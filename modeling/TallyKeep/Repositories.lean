/-
Module: TallyKeep.Repositories
Layer: Repositories
Purpose: The queries and writes of `tallykeep/repositories` that the modelled services use.
Trusted boundary: translation; a session is read through, so a query sees the writes
  made before it in its own session (where the code relies on an unflushed write, the caller says
  so)
Main exports: LedgerEntryRepo, OnchainRepo, UtxoRepo, DescriptorRepo, PaymentRequestRepo,
  InvoiceRepo, SweepExecutionRepo
-/
import TallyKeep.Models

namespace TallyKeep

open Relational

/-! ### Ledger entries -/

namespace LedgerEntryRow

/-- The entry records the on-chain transaction. -/
def RecordsTx (entry : LedgerEntryRow) (txid : Txid) : Prop :=
  entry.source = .onchainTransaction ∧ entry.sourceReference = txid.text

instance (entry : LedgerEntryRow) (txid : Txid) : Decidable (entry.RecordsTx txid) :=
  inferInstanceAs (Decidable (_ ∧ _))

/-- `LedgerEntry.__post_init__` on the fields an on-chain entry sets. -/
def postInit (entry : LedgerEntryRow) : Except PyError LedgerEntryRow :=
  if entry.sourceReference = "" then
    .error ⟨.valueError, "LedgerEntry.source_reference is required"⟩
  else if entry.direction = .incoming ∧ entry.netAmountSats < 0 then
    .error ⟨.valueError, "Incoming LedgerEntry must have net_amount_sats >= 0"⟩
  else if entry.direction = .outgoing ∧ 0 < entry.netAmountSats then
    .error ⟨.valueError, "Outgoing LedgerEntry must have net_amount_sats <= 0"⟩
  else .ok entry

end LedgerEntryRow

namespace LedgerEntryRepo

/-- The rows behind `get_by_source` for an on-chain transaction. -/
def entriesFor (db : Database) (txid : Txid) : List LedgerEntryRow :=
  db.ledgerEntries.select fun entry => decide (entry.RecordsTx txid)

/-- `get_by_source(session, ONCHAIN_TRANSACTION, txid)`. -/
def getBySource (db : Database) (txid : Txid) : Except PyError (Option LedgerEntryRow) :=
  scalarOneOrNone (entriesFor db txid)

/-- `insert` of an entry with one holding link. -/
def insert (db : Database) (entry : LedgerEntryRow) (link : LedgerEntryHoldingLinkRow) :
    Database :=
  { db with
    ledgerEntries := db.ledgerEntries.insert entry
    ledgerLinks := db.ledgerLinks.insert link }

end LedgerEntryRepo

/-! ### On-chain transactions -/

namespace OnchainRepo

/-- `upsert`: only fields that are given overwrite. -/
def upsert (db : Database) (txid : Txid) (rawHex : Option String)
    (confirmationHeight : Option Nat) (blockTime : Option Timestamp) : Database :=
  match db.onchainTransactions.get? txid with
  | none =>
      { db with
        onchainTransactions :=
          db.onchainTransactions.insert ⟨txid, rawHex, confirmationHeight, blockTime⟩ }
  | some _ =>
      { db with
        onchainTransactions := db.onchainTransactions.update txid fun row =>
          { row with
            rawHex := rawHex.or row.rawHex
            confirmationHeight := confirmationHeight.or row.confirmationHeight
            blockTime := blockTime.or row.blockTime } }

end OnchainRepo

/-! ### Coins -/

namespace UtxoRow

/-- Refresh the confirmation height of a coin that has none yet. -/
def refreshHeight (row : UtxoRow) (confirmationHeight : Option Nat) : UtxoRow :=
  if confirmationHeight.isSome ∧ row.confirmationHeight = none then
    { row with confirmationHeight := confirmationHeight }
  else row

@[simp] theorem refreshHeight_outpoint (row : UtxoRow) (confirmationHeight : Option Nat) :
    (row.refreshHeight confirmationHeight).outpoint = row.outpoint := by
  rw [refreshHeight]
  split <;> rfl

/-- A coin as it is first recorded. -/
def discovered (id descriptorId addressId : Uuid) (outpoint : Outpoint) (valueSats : Nat)
    (confirmationHeight : Option Nat) : UtxoRow where
  id := id
  descriptorId := descriptorId
  addressId := addressId
  outpoint := outpoint
  valueSats := valueSats
  confirmationHeight := confirmationHeight
  isFrozen := false
  isSpent := false
  spentInTxid := none
  hygieneFlags := []
  spentConsistent := rfl

end UtxoRow

namespace UtxoRepo

/-- A coin id no row uses. -/
def freshId (db : Database) : Uuid := (db.utxos.rows.map UtxoRow.id).foldr max 0 + 1

/-- `upsert_unspent`. -/
def upsertUnspent (db : Database) (row : UtxoRow) : Database :=
  match db.utxos.get? row.outpoint with
  | none => { db with utxos := db.utxos.insert row }
  | some _ =>
      { db with
        utxos := db.utxos.update row.outpoint
          (fun existing => existing.refreshHeight row.confirmationHeight)
          (fun existing => existing.refreshHeight_outpoint row.confirmationHeight) }

/-- `freeze`. -/
def freeze (db : Database) (outpoint : Outpoint) (frozen : Bool) : Database :=
  { db with utxos := db.utxos.update outpoint fun row => { row with isFrozen := frozen } }

/-- `list_for_descriptor(only_unspent=True)`; the order of the rows matters to no caller here. -/
def listUnspentForDescriptor (db : Database) (descriptorId : Uuid) : List UtxoRow :=
  db.utxos.select fun row => decide (row.descriptorId = descriptorId) && !row.isSpent

end UtxoRepo

/-! ### Descriptors and addresses -/

namespace DescriptorRepo

/-- `list_descriptors_for_holding`, oldest first. -/
def listDescriptorsForHolding (db : Database) (holdingId : Uuid) : List DescriptorRow :=
  db.descriptors.select fun row => decide (row.holdingId = holdingId)

/-- `list_addresses_for_descriptor` on one branch. -/
def listAddressesForDescriptor (db : Database) (descriptorId : Uuid) (isChange : Bool) :
    List AddressRow :=
  db.addresses.select fun row =>
    decide (row.descriptorId = descriptorId) && decide (row.isChange = isChange)

/-- An OPEN invoice holds the address. -/
def isReserved (db : Database) (addressId : Uuid) : Bool :=
  db.invoices.rows.any fun invoice =>
    decide (invoice.receivingAddressId = some addressId ∧ invoice.status = .open)

/-- `next_unused_address`: the lowest index neither seen on chain nor reserved. -/
def nextUnusedAddress (db : Database) (descriptorId : Uuid) (isChange : Bool) :
    Option AddressRow :=
  let candidates := (listAddressesForDescriptor db descriptorId isChange).filter fun row =>
    row.firstSeenHeight.isNone && !isReserved db row.id
  candidates.find? fun row =>
    candidates.all fun other => decide (row.derivationIndex ≤ other.derivationIndex)

/-- `update_address_label`. -/
def updateAddressLabel (db : Database) (addressId : Uuid) (label : Option String) : Database :=
  { db with addresses := db.addresses.update addressId fun row => { row with label := label } }

end DescriptorRepo

/-! ### Payment requests -/

/-- The statuses `has_in_flight_for_holding` counts. -/
def PaymentStatus.InFlight (status : PaymentStatus) : Prop :=
  status = .draft ∨ status = .awaitingSignature ∨ status = .awaitingBroadcast ∨
    status = .broadcast

instance (status : PaymentStatus) : Decidable status.InFlight :=
  inferInstanceAs (Decidable (_ ∨ _))

/-- The statuses in which `cancel` is allowed. -/
def PaymentStatus.Cancellable (status : PaymentStatus) : Prop :=
  status = .draft ∨ status = .awaitingSignature ∨ status = .awaitingBroadcast

instance (status : PaymentStatus) : Decidable status.Cancellable :=
  inferInstanceAs (Decidable (_ ∨ _))

namespace PaymentRequestRow

/-- The row after `mark_signed`. -/
def signed (row : PaymentRequestRow) (signedTransactionHex : String) (psbtBase64 : Option String)
    (now : Timestamp) : PaymentRequestRow :=
  { row with
    signedTransactionHex := some signedTransactionHex
    psbtBase64 := psbtBase64.or row.psbtBase64
    status := .awaitingBroadcast
    updatedAt := now }

/-- The row after `mark_broadcast`. -/
def sent (row : PaymentRequestRow) (broadcastTxid : String) (now : Timestamp) :
    PaymentRequestRow :=
  { row with broadcastTxid := some broadcastTxid, status := .broadcast, updatedAt := now }

/-- The row after `mark_confirmed`. -/
def confirmed (row : PaymentRequestRow) (resultingLedgerEntryId : Uuid) (now : Timestamp) :
    PaymentRequestRow :=
  { row with
    resultingLedgerEntryId := some resultingLedgerEntryId
    status := .confirmed
    updatedAt := now }

/-- The row after `cancel`. -/
def cancelled (row : PaymentRequestRow) (now : Timestamp) : PaymentRequestRow :=
  { row with status := .cancelled, updatedAt := now }

@[simp] theorem signed_id (row : PaymentRequestRow) (signedTransactionHex : String)
    (psbtBase64 : Option String) (now : Timestamp) :
    (row.signed signedTransactionHex psbtBase64 now).id = row.id := rfl

@[simp] theorem sent_id (row : PaymentRequestRow) (broadcastTxid : String) (now : Timestamp) :
    (row.sent broadcastTxid now).id = row.id := rfl

@[simp] theorem confirmed_id (row : PaymentRequestRow) (resultingLedgerEntryId : Uuid)
    (now : Timestamp) : (row.confirmed resultingLedgerEntryId now).id = row.id := rfl

@[simp] theorem cancelled_id (row : PaymentRequestRow) (now : Timestamp) :
    (row.cancelled now).id = row.id := rfl

end PaymentRequestRow

theorem PaymentRequestRow.ofSweep_id (executionId : Uuid) (row : PaymentRequestRow) :
    ({ row with sweepExecutionId := some executionId } : PaymentRequestRow).id = row.id := rfl

namespace PaymentRequestRepo

/-- Write through one request row. -/
def modify (db : Database) (requestId : Uuid) (f : PaymentRequestRow → PaymentRequestRow)
    (keeps : ∀ row, (f row).id = row.id) : Database :=
  { db with paymentRequests := db.paymentRequests.update requestId f keeps }

/-- The rows behind `get_by_broadcast_txid`. -/
def requestsFor (db : Database) (txid : Txid) : List PaymentRequestRow :=
  db.paymentRequests.select fun row => decide (row.broadcastTxid = some txid.text)

/-- `get_by_broadcast_txid`. -/
def getByBroadcastTxid (db : Database) (txid : Txid) :
    Except PyError (Option PaymentRequestRow) :=
  scalarOneOrNone (requestsFor db txid)

/-- `has_in_flight_for_holding`. -/
def hasInFlightForHolding (db : Database) (holdingId : Uuid) : Bool :=
  db.paymentRequests.rows.any fun row =>
    decide (row.holdingId = holdingId) && decide row.status.InFlight

/-- `insert`. -/
def insert (db : Database) (request : PaymentRequestRow) : Database :=
  { db with paymentRequests := db.paymentRequests.insert request }

/-- `mark_signed`. -/
def markSigned (db : Database) (requestId : Uuid) (signedTransactionHex : String)
    (psbtBase64 : Option String) (now : Timestamp) : Database :=
  modify db requestId (fun row => row.signed signedTransactionHex psbtBase64 now)
    (fun row => row.signed_id signedTransactionHex psbtBase64 now)

/-- `mark_broadcast`. -/
def markBroadcast (db : Database) (requestId : Uuid) (broadcastTxid : String) (now : Timestamp) :
    Database :=
  modify db requestId (fun row => row.sent broadcastTxid now)
    (fun row => row.sent_id broadcastTxid now)

/-- `mark_confirmed`. -/
def markConfirmed (db : Database) (requestId resultingLedgerEntryId : Uuid) (now : Timestamp) :
    Database :=
  modify db requestId (fun row => row.confirmed resultingLedgerEntryId now)
    (fun row => row.confirmed_id resultingLedgerEntryId now)

/-- `cancel` on a row that exists. -/
def cancel (db : Database) (row : PaymentRequestRow) (now : Timestamp) :
    Except PyError Database :=
  if row.status.Cancellable then
    .ok (modify db row.id (fun row => row.cancelled now) (fun row => row.cancelled_id now))
  else
    .error ⟨.valueError,
      "Cannot cancel a PaymentRequest with status='" ++ row.status.value ++ "'"⟩

/-- `insert_broadcast_attempt`. -/
def insertBroadcastAttempt (db : Database) (attemptId paymentRequestId : Uuid)
    (transactionHex txid : String) : Database :=
  { db with
    broadcastAttempts := db.broadcastAttempts.insert
      ⟨attemptId, paymentRequestId, transactionHex, txid, .submitted, none, none⟩ }

/-- `update_broadcast_attempt`. -/
def updateBroadcastAttempt (db : Database) (attemptId : Uuid) (status : BroadcastAttemptStatus)
    (rejectionReason : Option String) (now : Timestamp) : Database :=
  { db with
    broadcastAttempts := db.broadcastAttempts.update attemptId fun row =>
      { row with
        status := status
        rejectionReason := rejectionReason.or row.rejectionReason
        completedAt := some now } }

end PaymentRequestRepo

/-! ### Invoices -/

/-- The row after `mark_paid`. -/
def InvoiceRow.settled (row : InvoiceRow) (resultingLedgerEntryId : Uuid) (overpaid : Bool) :
    InvoiceRow :=
  { row with
    resultingLedgerEntryId := some resultingLedgerEntryId
    status := if overpaid then .overpaid else .paid }

@[simp] theorem InvoiceRow.settled_id (row : InvoiceRow) (resultingLedgerEntryId : Uuid)
    (overpaid : Bool) : (row.settled resultingLedgerEntryId overpaid).id = row.id := rfl

namespace InvoiceRepo

/-- The OPEN invoices that wait on an address. -/
def openAt (db : Database) (address : String) : List InvoiceRow :=
  db.invoices.select fun row =>
    decide (row.receivingAddress = some address ∧ row.status = .open)

/-- `get_open_by_address`: the youngest of them. -/
def getOpenByAddress (db : Database) (address : String) : Option InvoiceRow :=
  (openAt db address).getLast?

/-- `insert`. -/
def insert (db : Database) (invoice : InvoiceRow) : Database :=
  { db with invoices := db.invoices.insert invoice }

/-- `mark_paid`. -/
def markPaid (db : Database) (invoiceId resultingLedgerEntryId : Uuid) (overpaid : Bool) :
    Database :=
  { db with
    invoices := db.invoices.update invoiceId
      (fun row => row.settled resultingLedgerEntryId overpaid)
      (fun row => row.settled_id resultingLedgerEntryId overpaid) }

/-- `cancel` on a row that exists. -/
def cancel (db : Database) (row : InvoiceRow) : Except PyError Database :=
  if row.status ≠ .open then
    .error ⟨.valueError, "Cannot cancel an Invoice with status='" ++ row.status.value ++ "'"⟩
  else
    .ok { db with
      invoices := db.invoices.update row.id fun row => { row with status := .cancelled } }

end InvoiceRepo

/-! ### Sweep executions -/

namespace SweepExecutionRepo

/-- The rows behind `get_by_expected_txid`. -/
def executionsFor (db : Database) (txid : Txid) : List SweepExecutionRow :=
  db.sweepExecutions.select fun row => decide (row.expectedTxid = some txid.text)

/-- `get_by_expected_txid`. -/
def getByExpectedTxid (db : Database) (txid : Txid) :
    Except PyError (Option SweepExecutionRow) :=
  scalarOneOrNone (executionsFor db txid)

/-- `create`. -/
def create (db : Database) (execution : SweepExecutionRow) : Database :=
  { db with sweepExecutions := db.sweepExecutions.insert execution }

/-- `update_status`: only fields that are given overwrite. -/
def updateStatus (db : Database) (executionId : Uuid) (status : SweepExecutionStatus)
    (providerWithdrawalId expectedTxid confirmedTxid errorMessage : Option String)
    (completedAt : Option Timestamp) : Database :=
  { db with
    sweepExecutions := db.sweepExecutions.update executionId fun row =>
      { row with
        status := status
        providerWithdrawalId := providerWithdrawalId.or row.providerWithdrawalId
        expectedTxid := expectedTxid.or row.expectedTxid
        confirmedTxid := confirmedTxid.or row.confirmedTxid
        errorMessage := errorMessage.or row.errorMessage
        completedAt := completedAt.or row.completedAt } }

/-- `update_status` to COMPLETED, as the chain listener calls it. -/
def complete (db : Database) (executionId : Uuid) (confirmedTxid : Txid) (now : Timestamp) :
    Database :=
  updateStatus db executionId .completed none none (some confirmedTxid.text) none (some now)

end SweepExecutionRepo

end TallyKeep
