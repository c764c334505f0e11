/-
Module: TallyKeep.Domain
Layer: Domain
Purpose: Enumerations, identifiers, exceptions and decoded transactions shared by every layer.
Trusted boundary: translation of `tallykeep/domain` and of the decoded-transaction
  shape
Main exports: Uuid, Txid, Outpoint, PyError, NodeError, SafetyWarning, TriggerConfiguration,
  DecodedTx, btcToSats, scalarOneOrNone
-/
import Mathlib.Data.List.Nodup
import Mathlib.Data.Rat.Defs

namespace TallyKeep

/-! ### Enumerations -/

inductive Purpose where
  | spending
  | reserve
  | longTerm
  | transit
  | undeclared
deriving Repr, DecidableEq

inductive SigningModel where
  | notApplicable
  | softwareHot
  | hardwareOffline
  | airgapped
  | ceremonial
  | unknown
deriving Repr, DecidableEq

/-- The wire value of a signing model. -/
def SigningModel.value : SigningModel → String
  | .notApplicable => "not_applicable"
  | .softwareHot => "software_hot"
  | .hardwareOffline => "hardware_offline"
  | .airgapped => "airgapped"
  | .ceremonial => "ceremonial"
  | .unknown => "unknown"

inductive HoldingType where
  | account
  | purse
  | strongbox
  | vault
deriving Repr, DecidableEq

/-- The wire value of a holding type. -/
def HoldingType.value : HoldingType → String
  | .account => "account"
  | .purse => "purse"
  | .strongbox => "strongbox"
  | .vault => "vault"

inductive Network where
  | mainnet
  | testnet
  | signet
  | regtest
deriving Repr, DecidableEq

inductive AddressType where
  | legacy
  | nestedSegwit
  | nativeSegwit
  | taproot
  | p2shMultisig
  | p2wsh
  | p2shP2wsh
deriving Repr, DecidableEq

inductive HygieneFlag where
  | addressReused
  | dust
  | suspectedConsolidation
  | roundNumber
deriving Repr, DecidableEq

inductive Direction where
  | incoming
  | outgoing
  | internal
deriving Repr, DecidableEq

inductive LedgerEntrySource where
  | onchainTransaction
  | lightningPayment
  | custodialEvent
deriving Repr, DecidableEq

inductive PaymentType where
  | onchain
  | lightning
deriving Repr, DecidableEq

inductive PaymentStatus where
  | draft
  | awaitingSignature
  | awaitingBroadcast
  | broadcast
  | confirmed
  | failed
  | expired
  | cancelled
deriving Repr, DecidableEq

/-- The wire value of a status, as error messages quote it. -/
def PaymentStatus.value : PaymentStatus → String
  | .draft => "draft"
  | .awaitingSignature => "awaiting_signature"
  | .awaitingBroadcast => "awaiting_broadcast"
  | .broadcast => "broadcast"
  | .confirmed => "confirmed"
  | .failed => "failed"
  | .expired => "expired"
  | .cancelled => "cancelled"

inductive InvoiceStatus where
  | «open»
  | paid
  | overpaid
  | expired
  | cancelled
deriving Repr, DecidableEq

/-- The wire value of an invoice status. -/
def InvoiceStatus.value : InvoiceStatus → String
  | .open => "open"
  | .paid => "paid"
  | .overpaid => "overpaid"
  | .expired => "expired"
  | .cancelled => "cancelled"

inductive SweepExecutionStatus where
  | requested
  | awaitingUserConfirmation
  | dispatched
  | onchainPending
  | completed
  | failed
  | cancelled
deriving Repr, DecidableEq

/-- The wire value of an execution status. -/
def SweepExecutionStatus.value : SweepExecutionStatus → String
  | .requested => "requested"
  | .awaitingUserConfirmation => "awaiting_user_confirmation"
  | .dispatched => "dispatched"
  | .onchainPending => "onchain_pending"
  | .completed => "completed"
  | .failed => "failed"
  | .cancelled => "cancelled"

inductive SweepTriggerType where
  | scheduled
  | threshold
  | manual
deriving Repr, DecidableEq

inductive SafetyWarningKind where
  | destinationKeysOnHost
  | destinationIsCustodial
  | sourceAndDestinationSameSecurityTier
  | noMaximumCapSet
  | unverifiedWhitelistOnProvider
deriving Repr, DecidableEq

/-- The wire value of a warning kind. -/
def SafetyWarningKind.value : SafetyWarningKind → String
  | .destinationKeysOnHost => "destination_keys_on_host"
  | .destinationIsCustodial => "destination_is_custodial"
  | .sourceAndDestinationSameSecurityTier => "same_security_tier"
  | .noMaximumCapSet => "no_maximum_cap_set"
  | .unverifiedWhitelistOnProvider => "unverified_whitelist_on_provider"

inductive SafetyWarningSeverity where
  | low
  | medium
  | high
deriving Repr, DecidableEq

/-! ### Identifiers -/

/-- Identifiers made by `uuid4`. -/
abbrev Uuid := Nat

/-- Clock readings, in microseconds. -/
abbrev Timestamp := Nat

/-- One hour of the clock. -/
def hour : Timestamp := 3600000000

/-- A transaction id.  `OnChainTransaction` refuses any text that is not 64 characters long. -/
structure Txid where
  text : String
  lengthEq : text.length = 64
deriving DecidableEq

theorem Txid.ext_text {s t : Txid} (same : s.text = t.text) : s = t := by
  cases s
  cases t
  cases same
  rfl

/-- One output of one transaction. -/
structure Outpoint where
  txid : Txid
  vout : Nat
deriving DecidableEq

/-! ### Exceptions -/

/-- The exception classes the modelled code raises or lets through. -/
inductive ExceptionClass where
  | valueError
  | multipleResultsFound
  | nodeRpcError
  | nodeUnavailable
  | bankingError
  | holdingCannotSend
  | holdingNotFound
  | insufficientBalance
  | invalidDestination
  | inFlightPaymentExists
  | paymentRequestNotFound
  | wrongStatusForOperation
  | psbtMismatch
  | signedTransactionInvalid
  | broadcastRejected
  | invoiceError
  | holdingCannotReceive
  | noUnusedAddress
  | integrityError
  | libraryError
  | httpException
  | typeError
  | attributeError
  | keyError
  | lockedError
  | unsupportedAdapterError
  | providerAuthError
  | providerError
  | treasuryServiceError
  | policyNotFound
  | executionNotFound
  | policyHasUnacknowledgedWarnings
  | wrongExecutionStatus
  | runtimeError
  | alreadyInitializedError
  | notInitializedError
  | wrongPassphraseError
  | invalidTag
  | providerNotFound
  | providerConnectionError
  | tradePermissionsDetected
  | providerPermissionError
  | providerRateLimitError
  | descriptorParseError
  | unsupportedDescriptorError
  | descriptorAlreadyExists
  | holdingServiceError
  | credentialPermissionMismatch
  | securityHealthServiceError
  | invalidStateTransition
  | reviveNotAllowed
deriving Repr, DecidableEq

/-- A raised exception. -/
structure PyError where
  cls : ExceptionClass
  message : String
deriving Repr, DecidableEq

/-- How a call to the node fails: bitcoind answers with an error, or does not answer. -/
inductive NodeError where
  | rpc (code : Int) (message : String)
  | unavailable (message : String)
deriving Repr, DecidableEq

/-- `str` of a node exception. -/
def NodeError.str : NodeError → String
  | .rpc code message => "bitcoind RPC error " ++ toString code ++ ": " ++ message
  | .unavailable message => message

/-- A sequence returns exactly when both of its parts do. -/
theorem bind_ok_iff {ε α β : Type} {x : Except ε α} {f : α → Except ε β} {b : β} :
    (x >>= f) = .ok b ↔ ∃ a, x = .ok a ∧ f a = .ok b := by
  cases x with
  | error error => simp [bind, Except.bind]
  | ok a => simp [bind, Except.bind]

/-- A part of a result is returned only with the rest of it. -/
theorem map_fst_ok {σ α : Type} {out : Except PyError (σ × α)} {db : σ}
    (run : out.map Prod.fst = .ok db) : ∃ a, out = .ok (db, a) := by
  cases out with
  | error error => cases run
  | ok result =>
      cases run
      exact ⟨result.2, rfl⟩

/-- What every round of a loop keeps, a loop that returns keeps. -/
theorem foldlM_invariant {σ α : Type} {I : σ → Prop} {f : σ → α → Except PyError σ}
    {items : List α} (keeps : ∀ s, ∀ a ∈ items, ∀ s', I s → f s a = .ok s' → I s') {s s' : σ}
    (run : items.foldlM f s = .ok s') (holds : I s) : I s' := by
  induction items generalizing s with
  | nil =>
      cases run
      exact holds
  | cons a rest inductionHypothesis =>
      rw [List.foldlM_cons, bind_ok_iff] at run
      obtain ⟨middle, first, later⟩ := run
      exact inductionHypothesis
        (fun s b member => keeps s b (List.mem_cons_of_mem a member)) later
        (keeps s a List.mem_cons_self middle holds first)

/-- A loop that returns has done for its items what every round does for one more. -/
theorem foldlM_processed {σ α : Type} {I : List α → σ → Prop} {f : σ → α → Except PyError σ}
    (step : ∀ done s a s', I done s → f s a = .ok s' → I (done ++ [a]) s') {items : List α}
    {done : List α} {s s' : σ} (holds : I done s) (run : items.foldlM f s = .ok s') :
    I (done ++ items) s' := by
  induction items generalizing done s with
  | nil =>
      cases run
      rw [List.append_nil]
      exact holds
  | cons a rest inductionHypothesis =>
      rw [List.foldlM_cons, bind_ok_iff] at run
      obtain ⟨middle, first, later⟩ := run
      have processed := inductionHypothesis (step done s a middle holds first) later
      rw [List.append_assoc] at processed
      exact processed

/-- A loop returns when every round returns in the states that the rounds before it lead to. -/
theorem foldlM_returns {σ α : Type} {I : List α → σ → Prop} {f : σ → α → Except PyError σ}
    {all : List α}
    (step : ∀ done a later s, all = done ++ a :: later → I done s →
      ∃ s', f s a = .ok s' ∧ I (done ++ [a]) s')
    {items done : List α} (split : all = done ++ items) {s : σ} (holds : I done s) :
    ∃ s', items.foldlM f s = .ok s' ∧ I all s' := by
  induction items generalizing done s with
  | nil =>
      rw [List.append_nil] at split
      exact ⟨s, rfl, split ▸ holds⟩
  | cons a rest inductionHypothesis =>
      obtain ⟨middle, first, holds'⟩ := step done a rest s split holds
      have split' : all = (done ++ [a]) ++ rest := by rw [split, List.append_assoc]; rfl
      obtain ⟨last, later, holds''⟩ := inductionHypothesis split' holds'
      refine ⟨last, ?_, holds''⟩
      rw [List.foldlM_cons, first]
      exact later

/-- Rows that are checked one by one come back as they are, and only when every one passes. -/
theorem mapM_check_ok_iff {α : Type} {check : α → Except PyError α}
    (same : ∀ row result, check row = .ok result → result = row) {rows results : List α} :
    rows.mapM check = .ok results ↔ results = rows ∧ ∀ row ∈ rows, check row = .ok row := by
  induction rows generalizing results with
  | nil => simp [pure, Except.pure, eq_comm]
  | cons row rest inductionHypothesis =>
      simp only [List.mapM_cons, bind_ok_iff, inductionHypothesis, List.forall_mem_cons]
      constructor
      · rintro ⟨first, firstRun, _, ⟨rfl, passes⟩, run⟩
        obtain rfl := same row first firstRun
        exact ⟨(Except.ok.inj run).symm, firstRun, passes⟩
      · rintro ⟨rfl, firstPasses, passes⟩
        exact ⟨row, firstPasses, rest, ⟨rfl, passes⟩, rfl⟩

/-- `Result.scalar_one_or_none`: more than one row is an error. -/
def scalarOneOrNone {α : Type} : List α → Except PyError (Option α)
  | [] => .ok none
  | [row] => .ok (some row)
  | _ :: _ :: _ =>
      .error ⟨.multipleResultsFound,
        "Multiple rows were found when one or none was required"⟩

theorem scalarOneOrNone_of_length_le {α : Type} {rows : List α} (few : rows.length ≤ 1) :
    scalarOneOrNone rows = .ok rows.head? := by
  match rows, few with
  | [], _ => rfl
  | [_], _ => rfl
  | _ :: _ :: _, few => simp at few

theorem scalarOneOrNone_ok_iff {α : Type} {rows : List α} {found : Option α} :
    scalarOneOrNone rows = .ok found ↔ rows.length ≤ 1 ∧ found = rows.head? := by
  match rows with
  | [] => simp [scalarOneOrNone, eq_comm]
  | [_] => simp [scalarOneOrNone, eq_comm]
  | _ :: _ :: _ => simp [scalarOneOrNone]

/-! ### Sweep policies -/

/-- A value in a JSON object.  The contents of arrays and objects are read nowhere. -/
inductive JsonValue where
  | null
  | boolean (value : Bool)
  | number (value : ℚ)
  | string (value : String)
  | array
  | object
deriving Repr, DecidableEq

namespace JsonValue

/-- The number a comparison with an integer takes the value for: `True` and `False` are integers. -/
def asNumber : JsonValue → Option ℚ
  | boolean true => some 1
  | boolean false => some 0
  | number value => some value
  | _ => none

/-- The name of the Python type, as a `TypeError` quotes it, of a value that is no number. -/
def typeName : JsonValue → String
  | null => "NoneType"
  | boolean _ => "bool"
  | number _ => "float"
  | string _ => "str"
  | array => "list"
  | object => "dict"

end JsonValue

/-- The entries of `trigger_configuration` that the program or its documentation names. -/
structure TriggerConfiguration where
  thresholdSats : Option JsonValue
  cooldownHours : Option JsonValue
deriving Repr, DecidableEq

structure SafetyWarning where
  kind : SafetyWarningKind
  severity : SafetyWarningSeverity
  message : String
  userAcknowledged : Bool
deriving Repr, DecidableEq

/-! ### Decoded transactions -/

/-- One entry of `vin`.  A coinbase input has neither field; an entry that is not a JSON object is
    skipped by every reader exactly as one without fields. -/
structure DecodedInput where
  txid : Option Txid
  vout : Option Nat
deriving DecidableEq

/-- The output an input consumes, when the input names one. -/
def DecodedInput.prevout? (input : DecodedInput) : Option Outpoint :=
  match input.txid, input.vout with
  | some txid, some vout => some ⟨txid, vout⟩
  | _, _ => none

/-- One entry of `vout`.  `value` counts units of the eighth decimal, the precision in which
    bitcoind reports amounts; `address` is absent for scripts without a single address. -/
structure DecodedOutput where
  value : Option Nat
  n : Option Nat
  address : Option String
deriving DecidableEq

/-- `int(output.get("n", 0))`. -/
def DecodedOutput.index (output : DecodedOutput) : Nat := output.n.getD 0

/-- What `getrawtransaction` returns for one transaction.  A transaction spends an output once,
    numbers its outputs apart, and cannot spend itself since its id is a hash over its inputs, so
    these are properties of the value and not of the callers. -/
structure DecodedTx where
  txid : Txid
  hex : String
  vin : List DecodedInput
  vout : List DecodedOutput
  prevoutsNodup : (vin.filterMap DecodedInput.prevout?).Nodup
  indicesNodup : (vout.map DecodedOutput.index).Nodup
  noSelfSpend : ∀ prevout ∈ vin.filterMap DecodedInput.prevout?, prevout.txid ≠ txid
deriving DecidableEq

namespace DecodedTx

theorem noSelfSpend_nil (txid : Txid) :
    ∀ prevout ∈ ([] : List DecodedInput).filterMap DecodedInput.prevout?, prevout.txid ≠ txid := by
  simp

/-- The outputs a transaction consumes, in input order. -/
def prevouts (tx : DecodedTx) : List Outpoint := tx.vin.filterMap DecodedInput.prevout?

/-- `str(decoded.get("hex", "")) or None`. -/
def rawHex (tx : DecodedTx) : Option String := if tx.hex = "" then none else some tx.hex

end DecodedTx

/-- `_btc_to_sats` on an amount of a transaction: the text with eight decimals is split at the point
    and put together again.  Such amounts are not negative, so the sign is always plus. -/
def btcToSats (btc : Nat) : Nat :=
  let integer := btc / 100000000
  let fractional := btc % 100000000
  integer * 100000000 + fractional

@[simp] theorem btcToSats_eq (btc : Nat) : btcToSats btc = btc := by
  simp only [btcToSats]
  omega

end TallyKeep
