/-
Module: TallyKeep.Models
Layer: Models
Purpose: The rows of the PostgreSQL tables the modelled code reads and writes, and the database.
Trusted boundary: translation of `tallykeep/models`
Main exports: HoldingRow, DescriptorRow, AddressRow, UtxoRow, OnChainTransactionRow, LedgerEntryRow,
  LedgerEntryHoldingLinkRow, PaymentRequestRow, BroadcastAttemptRow, InvoiceRow, SweepExecutionRow,
  SweepPolicyRow, CustodialProviderRow, Database, TreasuryDatabase
-/
import TallyKeep.Domain
import TallyKeep.Library.Table

namespace TallyKeep

open Relational

structure HoldingRow where
  id : Uuid
  holdingType : HoldingType
  purpose : Purpose
  declaredSigningModel : SigningModel
deriving DecidableEq

structure DescriptorRow where
  id : Uuid
  holdingId : Uuid
  expression : String
  changeExpression : Option String
  network : Network
  addressType : AddressType
  gapLimit : Nat
  lastScannedHeight : Nat
deriving DecidableEq

structure AddressRow where
  id : Uuid
  descriptorId : Uuid
  address : String
  isChange : Bool
  derivationIndex : Nat
  label : Option String
  firstSeenHeight : Option Nat
  isReused : Bool
deriving DecidableEq

/-- A coin.  `UTXO.__post_init__` demands that a spending transaction is recorded exactly for spent
    coins; the column pair is never written apart. -/
structure UtxoRow where
  id : Uuid
  descriptorId : Uuid
  addressId : Uuid
  outpoint : Outpoint
  valueSats : Nat
  confirmationHeight : Option Nat
  isFrozen : Bool
  isSpent : Bool
  spentInTxid : Option Txid
  hygieneFlags : List HygieneFlag
  spentConsistent : isSpent = spentInTxid.isSome
deriving DecidableEq

structure OnChainTransactionRow where
  txid : Txid
  rawHex : Option String
  confirmationHeight : Option Nat
  blockTime : Option Timestamp
deriving DecidableEq

structure LedgerEntryRow where
  id : Uuid
  direction : Direction
  netAmountSats : Int
  timestamp : Timestamp
  source : LedgerEntrySource
  sourceReference : String
deriving DecidableEq

structure LedgerEntryHoldingLinkRow where
  ledgerEntryId : Uuid
  holdingId : Uuid
  holdingAmountSats : Int
deriving DecidableEq

structure PaymentRequestRow where
  id : Uuid
  holdingId : Uuid
  paymentType : PaymentType
  amountSats : Option Int
  description : Option String
  status : PaymentStatus
  updatedAt : Timestamp
  destinationAddress : Option String
  bip21Uri : Option String
  psbtBase64 : Option String
  signedTransactionHex : Option String
  broadcastTxid : Option String
  resultingLedgerEntryId : Option Uuid
  sweepExecutionId : Option Uuid
deriving DecidableEq

inductive BroadcastAttemptStatus where
  | submitted
  | accepted
  | rejected
deriving Repr, DecidableEq

structure BroadcastAttemptRow where
  id : Uuid
  paymentRequestId : Uuid
  transactionHex : String
  txid : String
  status : BroadcastAttemptStatus
  rejectionReason : Option String
  completedAt : Option Timestamp
deriving DecidableEq

structure InvoiceRow where
  id : Uuid
  holdingId : Uuid
  invoiceType : PaymentType
  amountSats : Option Int
  description : Option String
  status : InvoiceStatus
  receivingAddress : Option String
  receivingAddressId : Option Uuid
  bip21Uri : Option String
  resultingLedgerEntryId : Option Uuid
deriving DecidableEq

/-- An execution.  Every row comes from a `SweepExecution`, whose `__post_init__` refuses negative
    amounts. -/
structure SweepExecutionRow where
  id : Uuid
  sweepPolicyId : Uuid
  triggeredAt : Timestamp
  triggerSource : SweepTriggerType
  preBalanceSats : Nat
  intendedAmountSats : Nat
  status : SweepExecutionStatus
  providerWithdrawalId : Option String
  expectedTxid : Option String
  confirmedTxid : Option String
  errorMessage : Option String
  completedAt : Option Timestamp
deriving DecidableEq

/-- A sweep policy as its columns hold it, checked by `SweepPolicy.__post_init__` on every load. -/
structure SweepPolicyRow where
  id : Uuid
  name : String
  sourceHoldingId : Uuid
  destinationHoldingId : Uuid
  isEnabled : Bool
  triggerType : SweepTriggerType
  triggerConfiguration : TriggerConfiguration
  minimumBalanceSats : Int
  maximumPerPeriodSats : Option Int
  requiresUserConfirmation : Bool
  isDryRun : Bool
  safetyWarnings : List SafetyWarning
deriving DecidableEq

structure CustodialProviderRow where
  id : Uuid
  holdingId : Uuid
  displayName : String
  adapterId : String
  apiCredentialReference : String
  apiSecretReference : String
  apiPassphraseReference : Option String
  whitelistVerified : Bool
  lastKnownBalanceSats : Option Int
deriving DecidableEq

instance : Keyed HoldingRow Uuid := ⟨HoldingRow.id⟩

instance : Keyed DescriptorRow Uuid := ⟨DescriptorRow.id⟩

instance : Keyed AddressRow Uuid := ⟨AddressRow.id⟩

/-- The constraint `uq_utxo_outpoint` is the key the code reads coins by. -/
instance : Keyed UtxoRow Outpoint := ⟨UtxoRow.outpoint⟩

instance : Keyed OnChainTransactionRow Txid := ⟨OnChainTransactionRow.txid⟩

instance : Keyed LedgerEntryRow Uuid := ⟨LedgerEntryRow.id⟩

instance : Keyed LedgerEntryHoldingLinkRow (Uuid × Uuid) :=
  ⟨fun link => (link.ledgerEntryId, link.holdingId)⟩

instance : Keyed PaymentRequestRow Uuid := ⟨PaymentRequestRow.id⟩

instance : Keyed BroadcastAttemptRow Uuid := ⟨BroadcastAttemptRow.id⟩

instance : Keyed InvoiceRow Uuid := ⟨InvoiceRow.id⟩

instance : Keyed SweepExecutionRow Uuid := ⟨SweepExecutionRow.id⟩

instance : Keyed SweepPolicyRow Uuid := ⟨SweepPolicyRow.id⟩

instance : Keyed CustodialProviderRow Uuid := ⟨CustodialProviderRow.id⟩

/-- The committed database.  Rows keep their insertion order, which is the order of `created_at`. -/
structure Database where
  holdings : Table HoldingRow
  descriptors : Table DescriptorRow
  addresses : Table AddressRow
  utxos : Table UtxoRow
  onchainTransactions : Table OnChainTransactionRow
  ledgerEntries : Table LedgerEntryRow
  ledgerLinks : Table LedgerEntryHoldingLinkRow
  paymentRequests : Table PaymentRequestRow
  broadcastAttempts : Table BroadcastAttemptRow
  invoices : Table InvoiceRow
  sweepExecutions : Table SweepExecutionRow

namespace Database

/-- A database in which nothing was ever stored. -/
def empty : Database :=
  ⟨.empty, .empty, .empty, .empty, .empty, .empty, .empty, .empty, .empty, .empty, .empty⟩

/-- The holding a descriptor belongs to, when the descriptor row exists. -/
def holdingOf (db : Database) (descriptorId : Uuid) : Option Uuid :=
  (db.descriptors.get? descriptorId).map DescriptorRow.holdingId

/-- The sum of `holding_amount_sats` over a holding's links to on-chain ledger entries. -/
def onchainLinkTotal (db : Database) (holdingId : Uuid) : Int :=
  db.ledgerLinks.total fun link =>
    if link.holdingId = holdingId ∧
        (db.ledgerEntries.get? link.ledgerEntryId).any fun entry =>
          decide (entry.source = .onchainTransaction)
    then link.holdingAmountSats
    else 0

/-- The sum of `value_sats` over a holding's coins with `is_spent = false`. -/
def unspentTotal (db : Database) (holdingId : Uuid) : Int :=
  db.utxos.total fun row =>
    if db.holdingOf row.descriptorId = some holdingId ∧ row.isSpent = false
    then (row.valueSats : Int)
    else 0

end Database

/-- The committed database with the tables of the treasury. -/
structure TreasuryDatabase extends Database where
  sweepPolicies : Table SweepPolicyRow
  custodialProviders : Table CustodialProviderRow

end TallyKeep
