/-
Module: TallyKeep.Services.Analysis
Layer: Services
Purpose: `analysis_service`: what the descriptors of a holding show of its security, against what the
  user declares; and the loads of a holding in `banking_service` and here.
Trusted boundary: translation of `services/analysis_service.py`, and of the loads at
  the start of `build_payment_request` and `create_invoice`.  The two readings of the clock are
  arguments
Main exports: loadWithDescriptors, loadDescriptors, buildPaymentRequestFromLoad,
  createInvoiceFromLoad, AnalysisService, DiscrepancyKind, detectDiscrepancies,
  SecurityAnalysisResult, analyzeHolding
-/
import TallyKeep.Services.Banking
import TallyKeep.Services.Holding

namespace TallyKeep

open Regex Relational

/-! ### Loads -/

/-- The load of a holding in `build_payment_request`, `create_invoice` and `analyze_holding`: with
    the ids of its descriptors, and with no provider. -/
def loadWithDescriptors (db : HoldingDatabase) (holdingId : Uuid) :
    Except PyError (Option LoadedHolding) :=
  HoldingRepo.get db holdingId (DescriptorRows.idsForHolding db holdingId) none

/-- `Descriptor.__post_init__` on the columns of a row that can violate it. -/
def DescriptorRow.postInit (row : DescriptorRow) : Except PyError DescriptorRow :=
  if row.gapLimit < 1 then .error ⟨.valueError, "Descriptor gap_limit must be >= 1"⟩
  else if row.expression = "" then .error ⟨.valueError, "Descriptor expression cannot be empty"⟩
  else .ok row

/-- `list_descriptors_for_holding`, with the `Descriptor` of each row. -/
def loadDescriptors (db : HoldingDatabase) (holdingId : Uuid) :
    Except PyError (List DescriptorRow) :=
  (DescriptorRepo.listDescriptorsForHolding db.toDatabase holdingId).mapM DescriptorRow.postInit

variable {Psbt Tx : Type}

/-- `build_payment_request` from its load on: the guards look at the row of the holding, and the
    descriptors are loaded behind them. -/
def buildPaymentRequestFromLoad (bdk : Bdk Psbt Tx) (node : PaymentNode) (db : HoldingDatabase)
    (order : PaymentOrder) (now : Timestamp) :
    Except PyError (Database × Option PaymentRequestRow) := do
  match ← loadWithDescriptors db order.holdingId with
  | none =>
      throw ⟨.holdingNotFound, "Holding " ++ toString order.holdingId ++ " not found"⟩
  | some _ =>
      match admitPayment db.toDatabase order with
      | .ok .admitted => let _ ← loadDescriptors db order.holdingId
      | _ => pure ()
      buildPaymentRequest bdk node db.toDatabase order now

/-- `create_invoice` from its load on. -/
def createInvoiceFromLoad (db : HoldingDatabase) (order : InvoiceOrder) :
    Except PyError Database := do
  match ← loadWithDescriptors db order.holdingId with
  | none =>
      throw ⟨.holdingNotFound, "Holding " ++ toString order.holdingId ++ " not found"⟩
  | some holding =>
      if holding.row.holdingType ≠ .account then
        let _ ← loadDescriptors db order.holdingId
      createInvoice db.toDatabase order

/-! ### What a descriptor shows -/

/-- What the chain shows of the security of a holding. -/
structure ObservableSecurity where
  holdingId : Uuid
  inferredCustodyModel : CustodyModel
  inferredSigningModel : SigningModel
  inferredMultisigParameters : Option (Nat × Nat)
  inferredTimelockBlocks : Option Nat
  lastComputedAt : Timestamp
deriving DecidableEq

/-- `_ParsedDescriptor`: the multisig parameters are there exactly when it is multisig. -/
structure SurfaceDescriptor where
  multisig : Option (Nat × Nat)
  timelockBlocks : Option Nat
deriving DecidableEq

namespace AnalysisService

variable (classes : CharClasses)

/-- `_MULTI_PATTERN`. -/
def multiPattern : Pattern :=
  .sequence
    [.boundary,
      .group (.anyOf
        [.text "multi", .text "multi_a", .text "sortedmulti", .text "sortedmulti_a"]),
      .text "(", DescriptorPatterns.spacedNumber classes, .text ",",
      .group (.star (.char fun c => decide (c ≠ ')'))), .text ")"]

/-- `_TIMELOCK_PATTERN`. -/
def timelockPattern : Pattern :=
  .sequence
    [.boundary, .group (.anyOf [.text "older", .text "after"]), .text "(",
      DescriptorPatterns.spacedNumber classes, .text ")"]

/-- The entries of a list of keys that are not blank. -/
def keyCount (keysBlob : List Char) : Nat :=
  ((keysBlob.splitOn ',').filter fun part => part.any fun c => !classes.space c).length

/-- `_parse_descriptor`. -/
def parseDescriptor (expression : String) : SurfaceDescriptor where
  multisig := (search classes (multiPattern classes) expression).map fun stop =>
    (number classes (stop.groups.getD 1 []), keyCount classes (stop.groups.getD 2 []))
  timelockBlocks := (search classes (timelockPattern classes) expression).map fun stop =>
    number classes (stop.groups.getD 1 [])

/-- `_infer_observable`: the first multisig and the first timelocked descriptor decide. -/
def inferObservable (holdingId : Uuid) (descriptors : List DescriptorRow)
    (computedAt : Timestamp) : ObservableSecurity :=
  let parsed := descriptors.map fun descriptor => parseDescriptor classes descriptor.expression
  { holdingId := holdingId
    inferredCustodyModel :=
      if (parsed.find? fun descriptor => descriptor.multisig.isSome).isSome then .selfMultisig
      else .selfSingle
    inferredSigningModel := .unknown
    inferredMultisigParameters := parsed.findSome? SurfaceDescriptor.multisig
    inferredTimelockBlocks := parsed.findSome? SurfaceDescriptor.timelockBlocks
    lastComputedAt := computedAt }

end AnalysisService

/-! ### Discrepancies -/

inductive DiscrepancyKind where
  | claimedMultisigButSingleKey
  | claimedSingleButObservableMultisig
  | claimedOfflineButPatternSuggestsHot
  | claimedVaultNoTimelockNoMultisig
  | claimedInheritanceNoRecoveryPath
deriving Repr, DecidableEq

inductive DiscrepancySeverity where
  | informational
  | low
  | medium
  | high
deriving Repr, DecidableEq

/-- `_TEMPLATES`. -/
def DiscrepancyKind.template : DiscrepancyKind → DiscrepancySeverity × String
  | .claimedMultisigButSingleKey =>
      (.high,
        "This Holding is declared as multisig, but its descriptors are all " ++
          "single-key. The on-chain security is weaker than declared.")
  | .claimedSingleButObservableMultisig =>
      (.informational,
        "This Holding is declared as single-key, but its descriptor is " ++
          "multisig. Stronger than declared — the security check is " ++
          "informational, not a problem.")
  | .claimedOfflineButPatternSuggestsHot =>
      (.medium,
        "This Holding is declared with hardware-offline signing, but recent " ++
          "signing patterns suggest hot software signing.")
  | .claimedVaultNoTimelockNoMultisig =>
      (.medium,
        "This Holding is declared as a Vault, but its descriptor has no " ++
          "timelock and no multisig protection. A Vault is normally expected " ++
          "to have at least one of those.")
  | .claimedInheritanceNoRecoveryPath =>
      (.low,
        "Inheritance is declared as configured for this Holding, but no " ++
          "observable recovery path (timelock to a recovery key, multi-key " ++
          "recovery branch, etc.) is detectable on-chain.")

structure Discrepancy where
  kind : DiscrepancyKind
  severity : DiscrepancySeverity
  message : String
  firstDetectedAt : Timestamp
deriving DecidableEq

/-- A discrepancy of some kind, with the texts of its template. -/
def DiscrepancyKind.discrepancy (kind : DiscrepancyKind) (detectedAt : Timestamp) : Discrepancy :=
  ⟨kind, kind.template.1, kind.template.2, detectedAt⟩

/-- Neither a timelock nor several keys are visible. -/
def ObservableSecurity.unprotected (observable : ObservableSecurity) : Bool :=
  decide (observable.inferredTimelockBlocks = none ∧
    observable.inferredCustodyModel ≠ .selfMultisig)

/-- `_detect_discrepancies`; hot signing is never detected. -/
def detectDiscrepancies (holding : LoadedHolding) (observable : ObservableSecurity)
    (detectedAt : Timestamp) : List Discrepancy :=
  let declared := holding.columns.declaredCustodyModel
  let kinds :=
    (if declared = .selfMultisig ∧ observable.inferredCustodyModel = .selfSingle then
      [DiscrepancyKind.claimedMultisigButSingleKey] else []) ++
    (if declared = .selfSingle ∧ observable.inferredCustodyModel = .selfMultisig then
      [.claimedSingleButObservableMultisig] else []) ++
    (if holding.row.holdingType = .vault ∧ observable.unprotected then
      [.claimedVaultNoTimelockNoMultisig] else []) ++
    (if holding.columns.declaredInheritanceConfigured ∧ observable.unprotected then
      [.claimedInheritanceNoRecoveryPath] else [])
  kinds.map fun kind => kind.discrepancy detectedAt

/-! ### `analyze_holding` -/

structure SecurityAnalysisResult where
  holdingId : Uuid
  declaredCustodyModel : CustodyModel
  declaredSigningModel : SigningModel
  declaredInheritanceConfigured : Bool
  observable : ObservableSecurity
  discrepancies : List Discrepancy
deriving DecidableEq

/-- What is observable of a holding at a provider. -/
def custodialObservable (holdingId : Uuid) (computedAt : Timestamp) : ObservableSecurity where
  holdingId := holdingId
  inferredCustodyModel := .thirdParty
  inferredSigningModel := .notApplicable
  inferredMultisigParameters := none
  inferredTimelockBlocks := none
  lastComputedAt := computedAt

/-- A result with what the holding declares. -/
def LoadedHolding.analysis (holding : LoadedHolding) (holdingId : Uuid)
    (observable : ObservableSecurity) (discrepancies : List Discrepancy) :
    SecurityAnalysisResult where
  holdingId := holdingId
  declaredCustodyModel := holding.columns.declaredCustodyModel
  declaredSigningModel := holding.row.declaredSigningModel
  declaredInheritanceConfigured := holding.columns.declaredInheritanceConfigured
  observable := observable
  discrepancies := discrepancies

/-- `analyze_holding` on the holding it has loaded. -/
def analyzeLoaded (classes : CharClasses) (db : HoldingDatabase) (holdingId : Uuid)
    (holding : LoadedHolding) (computedAt detectedAt : Timestamp) :
    Except PyError SecurityAnalysisResult :=
  if holding.row.holdingType = .account then
    .ok (holding.analysis holdingId (custodialObservable holdingId computedAt) [])
  else do
    let descriptors ← loadDescriptors db holdingId
    let observable := AnalysisService.inferObservable classes holdingId descriptors computedAt
    return holding.analysis holdingId observable
      (detectDiscrepancies holding observable detectedAt)

/-- `analyze_holding`. -/
def analyzeHolding (classes : CharClasses) (db : HoldingDatabase) (holdingId : Uuid)
    (computedAt detectedAt : Timestamp) : Except PyError (Option SecurityAnalysisResult) := do
  match ← loadWithDescriptors db holdingId with
  | none => return none
  | some holding =>
      let result ← analyzeLoaded classes db holdingId holding computedAt detectedAt
      return some result

end TallyKeep
