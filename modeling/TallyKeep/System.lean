/-
Module: TallyKeep.System
Layer: System
Purpose: The program as a transition system: every operation that writes the modelled tables, each
  run in a session of its own that its caller commits or rolls back, and the states they reach.
Trusted boundary: translation of `api/v1`, `holding_service`,
  `repositories/holding.py` and `self_custody_poller.py` as far as they write these tables.
  Custodial tables and sweep policies are those of the treasury: here the policies of a deleted
  holding and the fields of an execution come with the operation
Main exports: registerDescriptor, deleteHolding, Operation, perform, step, broadcastEnded, Chain,
  Legal, SystemStep, Reached
-/
import TallyKeep.Library.Transition
import TallyKeep.Services.Banking
import TallyKeep.Services.ChainScan
import TallyKeep.Workers.ChainListener

namespace TallyKeep

open Relational Transition

/-! ### Holdings and descriptors -/

/-- A descriptor to register, with the addresses the descriptor adapter derives from it. -/
structure DescriptorSpec where
  expression : String
  changeExpression : Option String
  network : Network
  addressType : AddressType
  gapLimit : Nat
  derived : List String
  derivedChange : List String

/-- The rows of one branch, in the order of their indices. -/
def registerAddresses (addresses : Table AddressRow) (descriptorId : Uuid) (isChange : Bool)
    (derived : List String) : Table AddressRow :=
  derived.zipIdx.foldl
    (fun addresses (address, index) =>
      addresses.insert
        ⟨addresses.freshKey, descriptorId, address, isChange, index, none, none, false⟩)
    addresses

/-- `_register_descriptor`, and the endpoint that adds a descriptor to a holding. -/
def registerDescriptor (db : Database) (holdingId : Uuid) (spec : DescriptorSpec) :
    Except PyError Database :=
  if db.holdings.get? holdingId = none then
    .error ⟨.httpException, "Holding not found"⟩
  else if db.descriptors.rows.any fun row => decide (row.expression = spec.expression) then
    .error ⟨.httpException, "descriptor expression is already registered"⟩
  else
    let descriptorId := db.descriptors.freshKey
    let external := registerAddresses db.addresses descriptorId false spec.derived
    .ok
      { db with
        descriptors := db.descriptors.insert
          ⟨descriptorId, holdingId, spec.expression, spec.changeExpression, spec.network,
            spec.addressType, spec.gapLimit, 0⟩
        addresses :=
          if spec.changeExpression.isSome then
            registerAddresses external descriptorId true spec.derivedChange
          else external }

/-- The descriptor is one of the holding's. -/
def Database.heldBy (db : Database) (holdingId descriptorId : Uuid) : Bool :=
  decide (db.holdingOf descriptorId = some holdingId)

/-- An invoice reserves an address of the holding: deleting the address violates its foreign key. -/
def invoiceBlocksDeletion (db : Database) (holdingId : Uuid) : Bool :=
  db.invoices.rows.any fun invoice =>
    (invoice.receivingAddressId.bind db.addresses.get?).any fun address =>
      db.heldBy holdingId address.descriptorId

/-- The entries linked to the holding: `candidate_ids`. -/
def candidateIds (db : Database) (holdingId : Uuid) : List Uuid :=
  (db.ledgerLinks.select fun link => decide (link.holdingId = holdingId)).map
    LedgerEntryHoldingLinkRow.ledgerEntryId

/-- A candidate entry without a link to another holding. -/
def orphaned (db : Database) (holdingId entryId : Uuid) : Bool :=
  decide (entryId ∈ candidateIds db holdingId) &&
    !db.ledgerLinks.rows.any fun link =>
      decide (link.ledgerEntryId = entryId ∧ link.holdingId ≠ holdingId)

/-- An invoice of another holding refers to an entry that is to be deleted. -/
def entryStillReferenced (db : Database) (holdingId : Uuid) : Bool :=
  db.invoices.rows.any fun invoice =>
    decide (invoice.holdingId ≠ holdingId) &&
      invoice.resultingLedgerEntryId.any fun entryId => orphaned db holdingId entryId

/-- What the deletion does to a request of another holding: its execution and its entry are
    forgotten when they go. -/
def PaymentRequestRow.forget (row : PaymentRequestRow) (executionIds entryIds : List Uuid) :
    PaymentRequestRow :=
  { row with
    sweepExecutionId := row.sweepExecutionId.filter fun id => decide (id ∉ executionIds)
    resultingLedgerEntryId := row.resultingLedgerEntryId.filter fun id => decide (id ∉ entryIds) }

@[simp] theorem PaymentRequestRow.forget_id (row : PaymentRequestRow)
    (executionIds entryIds : List Uuid) : (row.forget executionIds entryIds).id = row.id := rfl

/-- The rows `delete_cascade` leaves. -/
def deletionResult (db : Database) (holdingId : Uuid) (policyIds : List Uuid) : Database :=
  let executionIds :=
    (db.sweepExecutions.select fun row => decide (row.sweepPolicyId ∈ policyIds)).map
      SweepExecutionRow.id
  let requestIds :=
    (db.paymentRequests.select fun row => decide (row.holdingId = holdingId)).map
      PaymentRequestRow.id
  { holdings := db.holdings.delete fun row => decide (row.id = holdingId)
    descriptors := db.descriptors.delete fun row => decide (row.holdingId = holdingId)
    addresses := db.addresses.delete fun row => db.heldBy holdingId row.descriptorId
    utxos := db.utxos.delete fun row => db.heldBy holdingId row.descriptorId
    onchainTransactions := db.onchainTransactions
    ledgerEntries := db.ledgerEntries.delete fun row => orphaned db holdingId row.id
    ledgerLinks := db.ledgerLinks.delete fun row => decide (row.holdingId = holdingId)
    paymentRequests :=
      (db.paymentRequests.delete fun row => decide (row.holdingId = holdingId)).updateAll
        (fun row => row.forget executionIds (candidateIds db holdingId))
        (fun row => row.forget_id executionIds (candidateIds db holdingId))
    broadcastAttempts := db.broadcastAttempts.delete fun row =>
      decide (row.paymentRequestId ∈ requestIds)
    invoices := db.invoices.delete fun row => decide (row.holdingId = holdingId)
    sweepExecutions := db.sweepExecutions.delete fun row =>
      decide (row.sweepPolicyId ∈ policyIds) }

/-- `delete_cascade`, with the sweep policies from or to the holding. -/
def deleteHolding (db : Database) (holdingId : Uuid) (policyIds : List Uuid) :
    Except PyError Database :=
  if db.holdings.get? holdingId = none then .error ⟨.httpException, "Holding not found"⟩
  else if invoiceBlocksDeletion db holdingId then
    .error ⟨.integrityError, "invoice_receiving_address_id_fkey"⟩
  else if entryStillReferenced db holdingId then
    .error ⟨.integrityError, "invoice_resulting_ledger_entry_id_fkey"⟩
  else .ok (deletionResult db holdingId policyIds)

/-! ### Smaller endpoints -/

/-- The scan of one descriptor, as its endpoint asks for it. -/
def scanDescriptor (node : ScanNode) (db : Database) (descriptorId : Uuid) :
    Except PyError Database :=
  match db.descriptors.get? descriptorId with
  | none => .error ⟨.httpException, "Descriptor not found"⟩
  | some descriptor => (initialScan node db descriptor).map Prod.fst

/-- The cancellation of an invoice. -/
def cancelInvoice (db : Database) (invoiceId : Uuid) : Except PyError Database :=
  match db.invoices.get? invoiceId with
  | none => .error ⟨.httpException, "Invoice not found"⟩
  | some invoice => InvoiceRepo.cancel db invoice

/-- A change of a holding's type or declarations. -/
def changeHolding (db : Database) (holdingId : Uuid) (holdingType : HoldingType)
    (purpose : Purpose) (declaredSigningModel : SigningModel) : Database :=
  { db with
    holdings := db.holdings.update holdingId fun row =>
      { row with
        holdingType := holdingType
        purpose := purpose
        declaredSigningModel := declaredSigningModel } }

/-- The poller's link from a request it made to its execution. -/
def linkSweepExecution (db : Database) (requestId executionId : Uuid) : Database :=
  PaymentRequestRepo.modify db requestId
    (fun row => { row with sweepExecutionId := some executionId })
    (PaymentRequestRow.ofSweep_id executionId)

/-! ### Operations -/

/-- One call into the program, with what its environment answers. -/
inductive Operation where
  | registerHolding (row : HoldingRow)
  | changeHolding (holdingId : Uuid) (holdingType : HoldingType) (purpose : Purpose)
      (declaredSigningModel : SigningModel)
  | registerDescriptor (holdingId : Uuid) (spec : DescriptorSpec)
  | deleteHolding (holdingId : Uuid) (policyIds : List Uuid)
  | scanDescriptor (node : ScanNode) (descriptorId : Uuid)
  | freezeUtxo (outpoint : Outpoint) (frozen : Bool)
  | createSweepExecution (row : SweepExecutionRow)
  | updateSweepExecution (executionId : Uuid) (status : SweepExecutionStatus)
      (providerWithdrawalId expectedTxid confirmedTxid errorMessage : Option String)
      (completedAt : Option Timestamp)
  | linkSweepExecution (requestId executionId : Uuid)
  | buildPaymentRequest (node : PaymentNode) (order : PaymentOrder) (now : Timestamp)
  | submitSigned (requestId : Uuid) (psbtBase64 signedTransactionHex : Option String)
      (now : Timestamp)
  | broadcast (node : PaymentNode) (requestId : Uuid) (now : Timestamp)
  | cancelPaymentRequest (requestId : Uuid) (now : Timestamp)
  | createInvoice (order : InvoiceOrder)
  | cancelInvoice (invoiceId : Uuid)
  | handleTx (tx : DecodedTx) (ctx : TxContext)

/-- Commit what a session leaves, or roll it back when it raises. -/
def commitOrRollback (before : Database) : Except PyError Database → Database × Option PyError
  | .ok db => (db, none)
  | .error error => (before, some error)

/-- The endpoint of a broadcast commits the rejected attempt before it answers with an error. -/
def commitBroadcast (before : Database) :
    Database × Except PyError Unit → Database × Option PyError
  | (db, .ok _) => (db, none)
  | (db, .error error) =>
      if error.cls = .broadcastRejected then (db, some error) else (before, some error)

variable {Psbt Tx : Type}

/-- The committed database after an operation, and the exception it raised. -/
def perform (bdk : Bdk Psbt Tx) (db : Database) : Operation → Database × Option PyError
  | .registerHolding row => ({ db with holdings := db.holdings.insert row }, none)
  | .changeHolding holdingId holdingType purpose declaredSigningModel =>
      (changeHolding db holdingId holdingType purpose declaredSigningModel, none)
  | .registerDescriptor holdingId spec =>
      commitOrRollback db (registerDescriptor db holdingId spec)
  | .deleteHolding holdingId policyIds =>
      commitOrRollback db (deleteHolding db holdingId policyIds)
  | .scanDescriptor node descriptorId =>
      commitOrRollback db (scanDescriptor node db descriptorId)
  | .freezeUtxo outpoint frozen => (UtxoRepo.freeze db outpoint frozen, none)
  | .createSweepExecution row => (SweepExecutionRepo.create db row, none)
  | .updateSweepExecution executionId status providerWithdrawalId expectedTxid confirmedTxid
      errorMessage completedAt =>
      (SweepExecutionRepo.updateStatus db executionId status providerWithdrawalId expectedTxid
        confirmedTxid errorMessage completedAt, none)
  | .linkSweepExecution requestId executionId =>
      (linkSweepExecution db requestId executionId, none)
  | .buildPaymentRequest node order now =>
      commitOrRollback db ((buildPaymentRequest bdk node db order now).map Prod.fst)
  | .submitSigned requestId psbtBase64 signedTransactionHex now =>
      commitOrRollback db
        (submitSignedPaymentRequest bdk db requestId psbtBase64 signedTransactionHex now)
  | .broadcast node requestId now =>
      commitBroadcast db (broadcastPaymentRequest bdk node db requestId now)
  | .cancelPaymentRequest requestId now =>
      commitOrRollback db (cancelPaymentRequest db requestId now)
  | .createInvoice order => commitOrRollback db (createInvoice db order)
  | .cancelInvoice invoiceId => commitOrRollback db (cancelInvoice db invoiceId)
  | .handleTx tx ctx => commitOrRollback db ((handleTxDb db tx ctx).map Prod.fst)

/-- The committed database after an operation. -/
def step (bdk : Bdk Psbt Tx) (db : Database) (operation : Operation) : Database :=
  (perform bdk db operation).1

/-- How a call ends: its endpoint answers, or the process dies once bitcoind was asked. -/
inductive CallEnd where
  | answered
  | crashed
deriving Repr, DecidableEq

/-- The committed database when a broadcast has ended.  The session's flushed rows die with the
    process. -/
def broadcastEnded (bdk : Bdk Psbt Tx) (node : PaymentNode) (db : Database) (requestId : Uuid)
    (now : Timestamp) : CallEnd → Database
  | .answered => step bdk db (.broadcast node requestId now)
  | .crashed => db

/-! ### Reachable states -/

/-- The transactions of the block chain and the mempool: one for every id. -/
structure Chain where
  txOf : Txid → DecodedTx
  txid_txOf : ∀ txid, (txOf txid).txid = txid

/-- bitcoind tells the truth: a delivered transaction is the one with its id, and `scantxoutset`
    reports coins of blocks, whose heights are positive. -/
def Legal (chain : Chain) : Operation → Prop
  | .handleTx tx _ => tx = chain.txOf tx.txid
  | .scanDescriptor node _ =>
      ∀ expression result, node.scanDescriptors expression = .ok result →
        ∀ unspent ∈ result.utxos, 0 < unspent.height
  | _ => True

/-- One operation of the program. -/
def SystemStep (bdk : Bdk Psbt Tx) (chain : Chain) : Database → Operation → Database → Prop :=
  guarded (stepOf (step bdk)) fun _ operation => Legal chain operation

/-- The committed states of the program, from an empty database on. -/
def Reached (bdk : Bdk Psbt Tx) (chain : Chain) : Database → Prop :=
  Reachable (· = Database.empty) (SystemStep bdk chain)

end TallyKeep
