/-
Module: TallyKeep.Services.Banking
Layer: Services
Purpose: `banking_service`: building, signing, broadcasting and cancelling payment requests, and
  creating invoices.
Trusted boundary: translation of `services/banking_service.py`.  The PSBT library
  (`bdkpython`) and bitcoind are parameters; each function returns the session's database, which its
  endpoint commits
Main exports: Bdk, PaymentNode, PaymentOrder, admitPayment, composePayment, buildPaymentRequest,
  submitSignedPaymentRequest, broadcastPaymentRequest, cancelPaymentRequest, createInvoice
-/
import TallyKeep.Repositories
import Mathlib.Data.Rat.Defs
import Mathlib.Algebra.Order.Ring.Rat
import TallyKeep.Library.Binary64

namespace TallyKeep

open Relational

/-! ### The PSBT library -/

/-- One input of a PSBT: whether its final witness and its final script are filled in. -/
structure PsbtInput where
  finalScriptWitness : Bool
  finalScriptSig : Bool
deriving DecidableEq

/-- What `Psbt.finalize` returns. -/
structure FinalizeResult (Psbt : Type) where
  psbt : Psbt
  couldFinalize : Bool
  errors : String

/-- A coin offered to the transaction builder. -/
structure UtxoForBuild where
  txid : Txid
  vout : Nat
  valueSats : Nat
  parentRawHex : String
deriving DecidableEq

/-- The arguments of `DescriptorAdapter.build_psbt`. -/
structure PsbtOrder where
  externalDescriptor : String
  changeDescriptor : Option String
  network : Network
  utxos : List UtxoForBuild
  recipientAddress : String
  amountSats : Option Int
  feeRateSatPerVbyte : ℚ
  maxExternalIndex : Nat
  maxChangeIndex : Nat

/-- The operations of `bdkpython` that the service calls; an error carries the exception's text. -/
structure Bdk (Psbt Tx : Type) where
  parseAddress : Network → String → Except String Unit
  buildPsbt : PsbtOrder → Except String String
  parsePsbt : String → Except String Psbt
  serializePsbt : Psbt → String
  inputs : Psbt → List PsbtInput
  combine : Psbt → Psbt → Except String Psbt
  finalize : Psbt → Except String (FinalizeResult Psbt)
  extractTx : Psbt → Except String Tx
  serializeTx : Tx → String
  parseTx : String → Except String Tx
  computeTxid : Tx → String

/-- bitcoind as the banking service uses it. -/
structure PaymentNode where
  estimateSmartFee : Nat → Except NodeError (Option ℚ)
  getRawTransaction : Txid → Except NodeError (Option String)
  sendRawTransaction : String → Except NodeError String

/-! ### Fees, amounts and URIs -/

/-- `_NAMED_TIERS_TARGETS`. -/
def namedTiersTargets : String → Option Nat
  | "economy" => some 24
  | "normal" => some 6
  | "priority" => some 2
  | _ => none

/-- The strategy used when none, or an empty one, is given. -/
def strategyOrNormal : Option String → String
  | some strategy => if strategy = "" then "normal" else strategy
  | none => "normal"

/-- `_resolve_fee_rate`. -/
def resolveFeeRate (node : PaymentNode) (strategy : Option String) (satPerVbyte : Option ℚ) :
    Except PyError ℚ :=
  match satPerVbyte with
  | some rate =>
      if rate ≤ 0 then .error ⟨.valueError, "sat_per_vbyte must be > 0"⟩ else .ok rate
  | none =>
      match namedTiersTargets (strategyOrNormal strategy) with
      | none =>
          .error ⟨.valueError, "Unknown fee strategy '" ++ strategyOrNormal strategy ++ "'"⟩
      | some target =>
          match node.estimateSmartFee target with
          | .error _ => .ok 10
          | .ok none => .ok 10
          | .ok (some feerate) =>
              if feerate ≤ 0 then .ok 10 else .ok (Binary64.toDouble (feerate * 100000))

/-- `f"{amount / 100_000_000:.8f}"` on a positive amount. -/
def formatBtc (amountSats : Int) : String :=
  let quotient := Binary64.toDouble ((amountSats : ℚ) / 100000000)
  let sats := (Binary64.roundHalfEven (quotient * 100000000)).toNat
  let fraction := toString (sats % 100000000)
  toString (sats / 100000000) ++ "." ++
    String.ofList (List.replicate (8 - fraction.length) '0') ++ fraction

/-- Characters that `urllib.parse.quote` leaves alone. -/
def isUnreserved (c : Char) : Bool :=
  c.isAlphanum || c = '_' || c = '.' || c = '-' || c = '~' || c = '/'

/-- One byte as a percent escape. -/
def percentEscape (byte : UInt8) : String :=
  let digit (n : Nat) : Char := "0123456789ABCDEF".toList.getD n '0'
  String.ofList ['%', digit (byte.toNat / 16), digit (byte.toNat % 16)]

/-- `urllib.parse.quote`. -/
def quote (text : String) : String :=
  String.join (text.toList.map fun c =>
    if isUnreserved c then c.toString
    else String.join (c.toString.toUTF8.toList.map percentEscape))

/-- The URI of a payment: an amount of zero counts as none. -/
def paymentUri (address : String) (amountSats : Option Int) : String :=
  "bitcoin:" ++ address ++
    match amountSats with
    | none => ""
    | some amount => if amount = 0 then "" else "?amount=" ++ formatBtc amount

/-- The `label` part of an invoice URI, when there is a description. -/
def labelPart (separator : String) : Option String → String
  | none => ""
  | some description =>
      if description = "" then "" else separator ++ "label=" ++ quote description

/-- The URI of an invoice. -/
def invoiceUri (address : String) (amountSats : Option Int) (description : Option String) :
    String :=
  "bitcoin:" ++ address ++
    match amountSats with
    | some amount => "?amount=" ++ formatBtc amount ++ labelPart "&" description
    | none => labelPart "?" description

/-! ### `build_payment_request` -/

/-- The arguments of `build_payment_request`. -/
structure PaymentOrder where
  holdingId : Uuid
  destinationAddress : String
  amountSats : Option Int
  feeStrategy : Option String
  feeSatPerVbyte : Option ℚ
  description : Option String
  confirmedLongTerm : Bool

/-- How the checks before the coin selection end, when they do not raise. -/
inductive Admission where
  | admitted
  | requiresConfirmation (message : String)
deriving DecidableEq

/-- `build_payment_request` up to and with the check for a request in flight. -/
def admitPayment (db : Database) (order : PaymentOrder) : Except PyError Admission :=
  match db.holdings.get? order.holdingId with
  | none =>
      .error ⟨.holdingNotFound, "Holding " ++ toString order.holdingId ++ " not found"⟩
  | some holding =>
      if holding.holdingType = .account ∨ holding.declaredSigningModel = .notApplicable then
        .error ⟨.holdingCannotSend,
          "Account holdings cannot create on-chain PaymentRequests; " ++
            "use the sweep / withdrawal flow."⟩
      else if holding.holdingType = .vault ∧ holding.purpose = .longTerm ∧
          order.confirmedLongTerm = false then
        .ok (.requiresConfirmation
          ("You are composing an outgoing payment from a Vault " ++
            "declared as long-term. This is unusual; confirm you " ++
            "intend this by resubmitting with confirmed=true."))
      else if PaymentRequestRepo.hasInFlightForHolding db order.holdingId then
        .error ⟨.inFlightPaymentExists,
          "Another PaymentRequest for this Holding is already in flight. " ++
            "Cancel or broadcast it before composing a new one."⟩
      else .ok .admitted

/-- `_gather_spendable_utxos`: unspent, not frozen, confirmed. -/
def gatherSpendableUtxos (db : Database) (descriptorId : Uuid) : List UtxoRow :=
  (UtxoRepo.listUnspentForDescriptor db descriptorId).filter fun row =>
    !row.isFrozen && row.confirmationHeight.isSome

/-- `_high_water_index`. -/
def highWaterIndex (db : Database) (descriptorId : Uuid) (isChange : Bool) : Nat :=
  ((DescriptorRepo.listAddressesForDescriptor db descriptorId isChange).map
    AddressRow.derivationIndex).foldr max 0

/-- The one descriptor a payment may spend from. -/
def spendingDescriptor (db : Database) (holdingId : Uuid) : Except PyError DescriptorRow :=
  match DescriptorRepo.listDescriptorsForHolding db holdingId with
  | [] => .error ⟨.insufficientBalance, "Holding has no descriptors"⟩
  | [descriptor] => .ok descriptor
  | _ :: _ :: _ =>
      .error ⟨.bankingError,
        "Multi-descriptor spending is not supported in v1; " ++
          "the holding's first descriptor is used for the payment."⟩

/-- The parent transaction of one coin, from bitcoind. -/
def parentRawHex (node : PaymentNode) (row : UtxoRow) : Except PyError UtxoForBuild :=
  let txid := row.outpoint.txid
  match node.getRawTransaction txid with
  | .error (.rpc code message) =>
      .error ⟨.bankingError,
        "bitcoind cannot return raw tx " ++ txid.text ++ ": " ++
          (NodeError.rpc code message).str ++ ". Is txindex=1 enabled?"⟩
  | .error (.unavailable message) => .error ⟨.nodeUnavailable, message⟩
  | .ok none =>
      .error ⟨.bankingError, "unexpected getrawtransaction return type for " ++ txid.text⟩
  | .ok (some rawHex) => .ok ⟨txid, row.outpoint.vout, row.valueSats, rawHex⟩

/-- `PaymentRequest.__post_init__` on the fields an on-chain request sets. -/
def PaymentRequestRow.postInit (row : PaymentRequestRow) : Except PyError PaymentRequestRow :=
  if row.amountSats.any fun amount => decide (amount ≤ 0) then
    .error ⟨.valueError, "PaymentRequest.amount_sats must be > 0 when provided"⟩
  else .ok row

/-- A request as it is first stored. -/
def PaymentOrder.request (order : PaymentOrder) (requestId : Uuid) (psbtBase64 : String)
    (now : Timestamp) : PaymentRequestRow where
  id := requestId
  holdingId := order.holdingId
  paymentType := .onchain
  amountSats := order.amountSats
  description := order.description
  status := .awaitingSignature
  updatedAt := now
  destinationAddress := some order.destinationAddress
  bip21Uri := some (paymentUri order.destinationAddress order.amountSats)
  psbtBase64 := some psbtBase64
  signedTransactionHex := none
  broadcastTxid := none
  resultingLedgerEntryId := none
  sweepExecutionId := none

variable {Psbt Tx : Type}

/-- `build_payment_request` from the coin selection to the request object. -/
def composePayment (bdk : Bdk Psbt Tx) (node : PaymentNode) (db : Database) (order : PaymentOrder)
    (requestId : Uuid) (now : Timestamp) : Except PyError PaymentRequestRow := do
  let descriptor ← spendingDescriptor db order.holdingId
  let utxos := gatherSpendableUtxos db descriptor.id
  if utxos = [] then
    throw ⟨.insufficientBalance, "No spendable UTXOs (all are spent or frozen)."⟩
  let availableSats := (utxos.map UtxoRow.valueSats).sum
  if order.amountSats.any fun amount => decide ((availableSats : Int) < amount) then
    throw ⟨.insufficientBalance,
      "Requested " ++ toString (order.amountSats.getD 0) ++ " sats, available " ++
        toString availableSats ++ " sats."⟩
  match bdk.parseAddress descriptor.network order.destinationAddress with
  | .error text => throw ⟨.invalidDestination, "Destination is not a valid address: " ++ text⟩
  | .ok _ => pure ()
  let feeRate ← resolveFeeRate node order.feeStrategy order.feeSatPerVbyte
  let utxosForBuild ← utxos.mapM (parentRawHex node)
  match bdk.buildPsbt
      ⟨descriptor.expression, descriptor.changeExpression, descriptor.network, utxosForBuild,
        order.destinationAddress, order.amountSats, feeRate,
        highWaterIndex db descriptor.id false, highWaterIndex db descriptor.id true⟩ with
  | .error text => throw ⟨.bankingError, "PSBT build failed: " ++ text⟩
  | .ok psbtBase64 => (order.request requestId psbtBase64 now).postInit

/-- `build_payment_request`: the new request, unless the user has to confirm first. -/
def buildPaymentRequest (bdk : Bdk Psbt Tx) (node : PaymentNode) (db : Database)
    (order : PaymentOrder) (now : Timestamp) : Except PyError (Database × Option PaymentRequestRow) :=
  do
    match ← admitPayment db order with
    | .requiresConfirmation _ => return (db, none)
    | .admitted =>
        let request ← composePayment bdk node db order db.paymentRequests.freshKey now
        return (PaymentRequestRepo.insert db request, some request)

/-! ### `submit_signed_payment_request` -/

/-- `_is_psbt_finalized`. -/
def isPsbtFinalized (bdk : Bdk Psbt Tx) (psbt : Psbt) : Bool :=
  match bdk.inputs psbt with
  | [] => false
  | inputs => inputs.all fun input => input.finalScriptWitness || input.finalScriptSig

/-- The route of a PSBT that is finalised already: its transaction is extracted as it is. -/
def acceptFinalized (bdk : Bdk Psbt Tx) (submitted : String) (userPsbt : Psbt) :
    Except PyError (String × String) :=
  match bdk.extractTx userPsbt with
  | .error text =>
      .error ⟨.signedTransactionInvalid, "PSBT is finalised but cannot be extracted: " ++ text⟩
  | .ok tx => .ok (bdk.serializeTx tx, submitted)

/-- The route of a PSBT with signatures only: combine with the original and finalise. -/
def acceptCombined (bdk : Bdk Psbt Tx) (originalPsbt userPsbt : Psbt) :
    Except PyError (String × String) :=
  match bdk.combine originalPsbt userPsbt with
  | .error text =>
      .error ⟨.psbtMismatch,
        "Submitted PSBT does not match the original request (combine failed): " ++ text⟩
  | .ok merged =>
      match bdk.finalize merged with
      | .error text =>
          .error ⟨.signedTransactionInvalid, "PSBT could not be finalised: " ++ text⟩
      | .ok result =>
          if result.couldFinalize = false then
            .error ⟨.signedTransactionInvalid,
              "PSBT could not be finalised (missing or invalid signatures): " ++ result.errors⟩
          else
            match bdk.extractTx result.psbt with
            | .error text =>
                .error ⟨.signedTransactionInvalid,
                  "Cannot extract finalised transaction: " ++ text⟩
            | .ok tx => .ok (bdk.serializeTx tx, bdk.serializePsbt result.psbt)

/-- The signed transaction and the PSBT to store for a submitted PSBT. -/
def acceptPsbt (bdk : Bdk Psbt Tx) (original submitted : String) :
    Except PyError (String × String) :=
  match bdk.parsePsbt submitted with
  | .error text => .error ⟨.bankingError, "psbt_base64 is not a valid PSBT: " ++ text⟩
  | .ok userPsbt =>
      if isPsbtFinalized bdk userPsbt then acceptFinalized bdk submitted userPsbt
      else
        match bdk.parsePsbt original with
        | .error text => .error ⟨.libraryError, text⟩
        | .ok originalPsbt => acceptCombined bdk originalPsbt userPsbt

/-- The signed transaction to store for a submitted transaction. -/
def acceptTransaction (bdk : Bdk Psbt Tx) (signedTransactionHex : String) :
    Except PyError String :=
  match bdk.parseTx signedTransactionHex with
  | .error text =>
      .error ⟨.bankingError, "signed_transaction_hex is not a valid serialized tx: " ++ text⟩
  | .ok _ => .ok signedTransactionHex

/-- The request an operation is about. -/
def requestOf (db : Database) (requestId : Uuid) : Except PyError PaymentRequestRow :=
  match db.paymentRequests.get? requestId with
  | none =>
      .error ⟨.paymentRequestNotFound,
        "PaymentRequest " ++ toString requestId ++ " not found"⟩
  | some request => .ok request

def submitSignedPaymentRequest (bdk : Bdk Psbt Tx) (db : Database) (requestId : Uuid)
    (psbtBase64 signedTransactionHex : Option String) (now : Timestamp) :
    Except PyError Database := do
  let request ← requestOf db requestId
  if request.status ≠ .awaitingSignature then
    throw ⟨.wrongStatusForOperation,
      "submit-signed requires AWAITING_SIGNATURE; got " ++ request.status.value⟩
  match request.psbtBase64 with
  | none =>
      throw ⟨.bankingError,
        "Cannot submit-signed against a PaymentRequest with no original PSBT"⟩
  | some original =>
      match psbtBase64, signedTransactionHex with
      | none, none =>
          throw ⟨.bankingError, "Must provide either psbt_base64 or signed_transaction_hex"⟩
      | some submitted, _ =>
          let (signedHex, storedPsbt) ← acceptPsbt bdk original submitted
          return PaymentRequestRepo.markSigned db requestId signedHex (some storedPsbt) now
      | none, some submitted =>
          let signedHex ← acceptTransaction bdk submitted
          return PaymentRequestRepo.markSigned db requestId signedHex none now

/-! ### `broadcast_payment_request` -/

/-- A request that may be broadcast, with the transaction to send and its id. -/
def broadcastable (bdk : Bdk Psbt Tx) (db : Database) (requestId : Uuid) :
    Except PyError (String × String) := do
  let request ← requestOf db requestId
  if request.status ≠ .awaitingBroadcast then
    throw ⟨.wrongStatusForOperation,
      "broadcast requires AWAITING_BROADCAST; got " ++ request.status.value⟩
  match request.signedTransactionHex with
  | none =>
      throw ⟨.bankingError,
        "Cannot broadcast a PaymentRequest with no signed_transaction_hex"⟩
  | some transactionHex =>
      match bdk.parseTx transactionHex with
      | .error text => throw ⟨.libraryError, text⟩
      | .ok tx => return (transactionHex, bdk.computeTxid tx)

/-- The writes of a broadcast that bitcoind accepts. -/
def acceptedBroadcast (db : Database) (requestId : Uuid) (transactionHex txid broadcastTxid : String)
    (now : Timestamp) : Database :=
  let attemptId := db.broadcastAttempts.freshKey
  let attempted :=
    PaymentRequestRepo.insertBroadcastAttempt db attemptId requestId transactionHex txid
  PaymentRequestRepo.markBroadcast
    (PaymentRequestRepo.updateBroadcastAttempt attempted attemptId .accepted none now)
    requestId broadcastTxid now

/-- The session's database after the call, and how the call ends.  The attempt is written before
    bitcoind is asked. -/
def broadcastPaymentRequest (bdk : Bdk Psbt Tx) (node : PaymentNode) (db : Database)
    (requestId : Uuid) (now : Timestamp) : Database × Except PyError Unit :=
  match broadcastable bdk db requestId with
  | .error error => (db, .error error)
  | .ok (transactionHex, txid) =>
      let attemptId := db.broadcastAttempts.freshKey
      let attempted :=
        PaymentRequestRepo.insertBroadcastAttempt db attemptId requestId transactionHex txid
      match node.sendRawTransaction transactionHex with
      | .error (.rpc code message) =>
          (PaymentRequestRepo.updateBroadcastAttempt attempted attemptId .rejected
              (some (toString code ++ ": " ++ message)) now,
            .error ⟨.broadcastRejected,
              "bitcoind rejected the transaction: " ++ (NodeError.rpc code message).str⟩)
      | .error (.unavailable message) =>
          (attempted, .error ⟨.bankingError, "bitcoind unreachable: " ++ message⟩)
      | .ok broadcastTxid =>
          (acceptedBroadcast db requestId transactionHex txid broadcastTxid now, .ok ())

/-! ### `cancel_payment_request` -/

def cancelPaymentRequest (db : Database) (requestId : Uuid) (now : Timestamp) :
    Except PyError Database := do
  let request ← requestOf db requestId
  match PaymentRequestRepo.cancel db request now with
  | .error error => throw ⟨.wrongStatusForOperation, error.message⟩
  | .ok db => return db

/-! ### `create_invoice` -/

/-- The arguments of `create_invoice`, with the day of the clock as ISO text. -/
structure InvoiceOrder where
  holdingId : Uuid
  amountSats : Option Int
  description : Option String
  today : String

/-- The address a new invoice reserves. -/
def addressToReserve (db : Database) (holdingId : Uuid) : Except PyError AddressRow :=
  match db.holdings.get? holdingId with
  | none => .error ⟨.holdingNotFound, "Holding " ++ toString holdingId ++ " not found"⟩
  | some holding =>
      if holding.holdingType = .account then
        .error ⟨.holdingCannotReceive,
          "Account holdings cannot have on-chain Invoices; their incoming " ++
            "payments come through the custodial provider, not this app."⟩
      else
        match DescriptorRepo.listDescriptorsForHolding db holdingId with
        | [] =>
            .error ⟨.invoiceError,
              "Holding has no descriptors; cannot derive a receiving address"⟩
        | primary :: _ =>
            match DescriptorRepo.nextUnusedAddress db primary.id false with
            | none =>
                .error ⟨.noUnusedAddress,
                  "All addresses up to gap_limit have been used or reserved. " ++
                    "Increase gap_limit on the descriptor and rescan to mint more."⟩
            | some address => .ok address

/-- `Invoice.__post_init__` on the fields an on-chain invoice sets. -/
def InvoiceRow.postInit (row : InvoiceRow) : Except PyError InvoiceRow :=
  if row.amountSats.any fun amount => decide (amount ≤ 0) then
    .error ⟨.valueError, "Invoice.amount_sats must be > 0 when provided"⟩
  else .ok row

/-- An invoice as it is first stored. -/
def InvoiceOrder.invoice (order : InvoiceOrder) (invoiceId : Uuid) (address : AddressRow) :
    InvoiceRow where
  id := invoiceId
  holdingId := order.holdingId
  invoiceType := .onchain
  amountSats := order.amountSats
  description := order.description
  status := .open
  receivingAddress := some address.address
  receivingAddressId := some address.id
  bip21Uri := some (invoiceUri address.address order.amountSats order.description)
  resultingLedgerEntryId := none

def createInvoice (db : Database) (order : InvoiceOrder) : Except PyError Database := do
  let address ← addressToReserve db order.holdingId
  let labelled := DescriptorRepo.updateAddressLabel db address.id
    (some ("Invoice (reserved " ++ order.today ++ ")"))
  let invoice ← (order.invoice db.invoices.freshKey address).postInit
  return InvoiceRepo.insert labelled invoice

end TallyKeep
