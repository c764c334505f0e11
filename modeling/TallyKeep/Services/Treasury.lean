/-
Module: TallyKeep.Services.Treasury
Layer: Services
Purpose: `treasury_service`: the safety validator, sweep policies, manual executions and
  confirmations.
Trusted boundary: translation of `services/treasury_service.py` from the validator
  on, less the custodial providers.  The secret store and the provider adapters are parameters; each
  function returns the session's database, which its endpoint commits
Main exports: computeSafetyWarnings, createSweepPolicy, updateSweepPolicy, deleteSweepPolicy,
  enableSweepPolicy, disableSweepPolicy, acknowledgeWarnings, confirmSweepExecution, Custody,
  SweepEffect, executeSweepNow
-/
import TallyKeep.Repositories.Treasury

namespace TallyKeep

open Relational

/-! ### Safety validator -/

/-- Whether a warning of this kind and message was acknowledged before: of several, the last
    counts. -/
def acknowledgedBefore (existing : List SafetyWarning) (kind : SafetyWarningKind)
    (message : String) : Bool :=
  ((existing.filter fun warning => decide (warning.kind = kind ∧ warning.message = message)).getLast?.map
    SafetyWarning.userAcknowledged).getD false

/-- `_compute_safety_warnings`. -/
def computeSafetyWarnings (source destination : Holding) (maximumPerPeriodSats : Option Int)
    (sourceProvider : Option CustodialProviderRow) (existing : List SafetyWarning) :
    List SafetyWarning :=
  let warn (applies : Prop) [Decidable applies] (kind : SafetyWarningKind)
      (severity : SafetyWarningSeverity) (message : String) : List SafetyWarning :=
    if applies then [⟨kind, severity, message, acknowledgedBefore existing kind message⟩] else []
  let sourceTier := source.row.declaredSigningModel
  let destinationTier := destination.row.declaredSigningModel
  warn (destination.row.holdingType = .purse) .destinationKeysOnHost .high
      "Destination Holding is a Purse — signing keys may live on the same host as the app." ++
    warn (destination.row.holdingType = .account) .destinationIsCustodial .high
      ("Destination Holding is an Account (custodial) — this defeats the " ++
        "minimum-exposure principle.") ++
    warn (sourceTier = destinationTier ∧ sourceTier ≠ .notApplicable)
      .sourceAndDestinationSameSecurityTier .medium
      ("Source and destination both declare " ++ sourceTier.value ++
        " signing — no security tier upgrade.") ++
    warn (maximumPerPeriodSats = none) .noMaximumCapSet .medium
      "No maximum_per_period_sats cap is set — sweeps are unbounded." ++
    match sourceProvider with
    | none => []
    | some provider =>
        warn (source.row.holdingType = .account ∧ provider.whitelistVerified = false)
          .unverifiedWhitelistOnProvider .high
          ("The withdrawal whitelist for " ++ provider.displayName ++
            " could not be verified via the provider's API. Confirm it is configured manually.")

/-- The provider of an Account, when it has one. -/
def sourceProvider (db : TreasuryDatabase) (source : Holding) :
    Except PyError (Option CustodialProviderRow) :=
  match source.custodialProviderId with
  | none => .ok none
  | some providerId =>
      if source.row.holdingType = .account then CustodialProviderRepo.get db providerId
      else .ok none

/-! ### Sweep policies -/

/-- The arguments of `create_sweep_policy`. -/
structure PolicyOrder where
  name : String
  sourceHoldingId : Uuid
  destinationHoldingId : Uuid
  triggerType : SweepTriggerType
  triggerConfiguration : TriggerConfiguration
  minimumBalanceSats : Int
  maximumPerPeriodSats : Option Int
  requiresUserConfirmation : Bool
  isDryRun : Bool

/-- A policy as it is first stored: disabled. -/
def PolicyOrder.policy (order : PolicyOrder) (policyId : Uuid) (warnings : List SafetyWarning) :
    SweepPolicyRow where
  id := policyId
  name := order.name
  sourceHoldingId := order.sourceHoldingId
  destinationHoldingId := order.destinationHoldingId
  isEnabled := false
  triggerType := order.triggerType
  triggerConfiguration := order.triggerConfiguration
  minimumBalanceSats := order.minimumBalanceSats
  maximumPerPeriodSats := order.maximumPerPeriodSats
  requiresUserConfirmation := order.requiresUserConfirmation
  isDryRun := order.isDryRun
  safetyWarnings := warnings

/-- The holding a policy names, which has to exist. -/
def requireHolding (metadata : HoldingMetadata) (db : TreasuryDatabase) (role : String)
    (holdingId : Uuid) : Except PyError Holding := do
  match ← getHolding metadata db holdingId with
  | none =>
      throw ⟨.treasuryServiceError,
        role ++ " holding " ++ toString holdingId ++ " not found"⟩
  | some holding => return holding

def createSweepPolicy (metadata : HoldingMetadata) (db : TreasuryDatabase) (order : PolicyOrder) :
    Except PyError (TreasuryDatabase × SweepPolicyRow) := do
  let source ← requireHolding metadata db "Source" order.sourceHoldingId
  let destination ← requireHolding metadata db "Destination" order.destinationHoldingId
  if order.sourceHoldingId = order.destinationHoldingId then
    throw ⟨.treasuryServiceError, "Source and destination holdings must differ"⟩
  let provider ← sourceProvider db source
  let warnings :=
    computeSafetyWarnings source destination order.maximumPerPeriodSats provider []
  let policy ← (order.policy db.sweepPolicies.freshKey warnings).postInit
  return (SweepPolicyRepo.create db policy, policy)

def getSweepPolicy (db : TreasuryDatabase) (policyId : Uuid) : Except PyError SweepPolicyRow := do
  match ← SweepPolicyRepo.get db policyId with
  | none => throw ⟨.policyNotFound, "SweepPolicy " ++ toString policyId ++ " not found"⟩
  | some policy => return policy

/-- A field of the patch that makes the validator run again is given. -/
def PolicyPatch.revalidates (patch : PolicyPatch) : Bool :=
  patch.triggerType.isSome || patch.triggerConfiguration.isSome ||
    patch.minimumBalanceSats.isSome || patch.maximumPerPeriodSats.isSome || patch.isDryRun.isSome

/-- The warnings an update stores, when it stores any. -/
def updatedWarnings (metadata : HoldingMetadata) (db : TreasuryDatabase) (policy : SweepPolicyRow)
    (patch : PolicyPatch) : Except PyError (Option (List SafetyWarning)) := do
  if patch.revalidates then
    let source ← getHolding metadata db policy.sourceHoldingId
    let destination ← getHolding metadata db policy.destinationHoldingId
    match source, destination with
    | some source, some destination =>
        let provider ← sourceProvider db source
        return some (computeSafetyWarnings source destination
          (patch.maximumPerPeriodSats.or policy.maximumPerPeriodSats) provider
          policy.safetyWarnings)
    | _, _ => return some policy.safetyWarnings
  else return none

def updateSweepPolicy (metadata : HoldingMetadata) (db : TreasuryDatabase) (policyId : Uuid)
    (patch : PolicyPatch) : Except PyError (TreasuryDatabase × SweepPolicyRow) := do
  let policy ← getSweepPolicy db policyId
  let warnings ← updatedWarnings metadata db policy patch
  let (db, updated) ← SweepPolicyRepo.updatePolicy db policyId patch warnings
  return (db, updated.getD policy)

def deleteSweepPolicy (db : TreasuryDatabase) (policyId : Uuid) :
    Except PyError TreasuryDatabase := do
  let policy ← getSweepPolicy db policyId
  if policy.isEnabled then
    throw ⟨.treasuryServiceError, "Disable the policy before deleting it"⟩
  SweepPolicyRepo.delete db policyId

def enableSweepPolicy (db : TreasuryDatabase) (policyId : Uuid) :
    Except PyError (TreasuryDatabase × SweepPolicyRow) := do
  let policy ← getSweepPolicy db policyId
  if policy.unacknowledged ≠ [] then
    throw ⟨.policyHasUnacknowledgedWarnings,
      "Acknowledge all safety warnings before enabling. Pending: " ++
        warningKinds policy.unacknowledged⟩
  let (db, updated) ← SweepPolicyRepo.setEnabled db policyId true
  return (db, updated.getD policy)

def disableSweepPolicy (db : TreasuryDatabase) (policyId : Uuid) :
    Except PyError (TreasuryDatabase × SweepPolicyRow) := do
  let policy ← getSweepPolicy db policyId
  let (db, updated) ← SweepPolicyRepo.setEnabled db policyId false
  return (db, updated.getD policy)

def acknowledgeWarnings (db : TreasuryDatabase) (policyId : Uuid) :
    Except PyError (TreasuryDatabase × SweepPolicyRow) := do
  let _ ← getSweepPolicy db policyId
  match ← SweepPolicyRepo.acknowledgeAllWarnings db policyId with
  | (_, none) => throw ⟨.policyNotFound, "SweepPolicy " ++ toString policyId ++ " not found"⟩
  | (db, some updated) => return (db, updated)

/-! ### Amounts -/

/-- What a sweep takes from a balance: all above the minimum, up to the cap. -/
def SweepPolicyRow.sweepAmount (policy : SweepPolicyRow) (balanceSats : Int) : Int :=
  match policy.maximumPerPeriodSats with
  | none => balanceSats - policy.minimumBalanceSats
  | some maximum => min (balanceSats - policy.minimumBalanceSats) maximum

/-! ### Sweep executions -/

/-- `confirm_sweep_execution`. -/
def confirmSweepExecution (db : TreasuryDatabase) (executionId : Uuid) :
    Except PyError TreasuryDatabase :=
  match db.sweepExecutions.get? executionId with
  | none =>
      .error ⟨.executionNotFound, "SweepExecution " ++ toString executionId ++ " not found"⟩
  | some execution =>
      if execution.status ≠ .awaitingUserConfirmation then
        .error ⟨.wrongExecutionStatus,
          "SweepExecution " ++ toString executionId ++ " is in status '" ++
            execution.status.value ++
            "'; only AWAITING_USER_CONFIRMATION executions can be confirmed"⟩
      else
        .ok ((SweepSession.start db).updateStatus executionId .requested none none none).commit

/-- The credentials an adapter is built with. -/
structure Credentials where
  apiKey : String
  apiSecret : String
  apiPassphrase : Option String
deriving DecidableEq

/-- The secret store, decoding what it reads, and the adapters of the registry: the constructor of a
    class and the withdrawal, which answers with the provider's id. -/
structure Custody where
  getSecret : String → Except PyError String
  construct : String → Credentials → Except PyError Unit
  withdraw : String → Credentials → Int → String → Except PyError String

/-- `build_adapter`. -/
def buildAdapter (custody : Custody) (adapterId : String) (credentials : Credentials) :
    Except PyError Unit :=
  if adapterId = "kraken" ∨ adapterId = "bitstamp" then custody.construct adapterId credentials
  else
    .error ⟨.unsupportedAdapterError,
      "Unsupported adapter '" ++ adapterId ++ "'. Supported: bitstamp, kraken"⟩

/-- The credentials of a provider. -/
def readCredentials (custody : Custody) (provider : CustodialProviderRow) :
    Except PyError Credentials := do
  let apiKey ← custody.getSecret provider.apiCredentialReference
  let apiSecret ← custody.getSecret provider.apiSecretReference
  match provider.apiPassphraseReference with
  | none => return ⟨apiKey, apiSecret, none⟩
  | some reference =>
      if reference = "" then return ⟨apiKey, apiSecret, none⟩
      else
        let apiPassphrase ← custody.getSecret reference
        return ⟨apiKey, apiSecret, some apiPassphrase⟩

/-- The credentials of a provider, with a store that has not got them or is locked reported. -/
def resolveCredentials (custody : Custody) (provider : CustodialProviderRow) :
    Except PyError Credentials :=
  match readCredentials custody provider with
  | .ok credentials => .ok credentials
  | .error error =>
      if error.cls = .keyError ∨ error.cls = .lockedError then
        .error ⟨.treasuryServiceError, "Cannot read provider credentials: " ++ error.message⟩
      else .error error

/-- What a sweep does outside the tables of executions: a withdrawal that an adapter is asked for,
    or a payment request. -/
inductive SweepEffect where
  | withdrawal (policyId : Uuid) (amountSats : Int) (address : String)
  | paymentRequest (policyId requestId : Uuid)
deriving Repr, DecidableEq

/-- The policy on whose behalf an effect happens. -/
def SweepEffect.policyId : SweepEffect → Uuid
  | withdrawal policyId _ _ => policyId
  | paymentRequest policyId _ => policyId

/-- How a trigger ends: the committed database, its effects, and the exception it raised. -/
structure SweepOutcome where
  db : TreasuryDatabase
  effects : List SweepEffect
  raised : Option PyError

/-- A manual execution that passed its checks. -/
structure PreparedSweep where
  execution : SweepExecutionRow
  adapterId : String
  credentials : Credentials
  amountSats : Int
  address : String
deriving DecidableEq

/-- The Account a manual execution withdraws from, with its provider. -/
def manualSource (metadata : HoldingMetadata) (db : TreasuryDatabase) (policy : SweepPolicyRow) :
    Except PyError CustodialProviderRow := do
  let source ← requireHolding metadata db "Source" policy.sourceHoldingId
  match source.custodialProviderId with
  | some providerId =>
      if source.row.holdingType ≠ .account then
        throw ⟨.treasuryServiceError,
          "Manual execute-now is only supported for Account → self-custody policies"⟩
      match ← CustodialProviderRepo.get db providerId with
      | none =>
          throw ⟨.treasuryServiceError, "CustodialProvider not found for source holding"⟩
      | some provider => return provider
  | none =>
      throw ⟨.treasuryServiceError,
        "Manual execute-now is only supported for Account → self-custody policies"⟩

/-- The address a manual execution withdraws to. -/
def manualAddress (db : TreasuryDatabase) (destinationHoldingId : Uuid) :
    Except PyError String :=
  match DescriptorRepo.listDescriptorsForHolding db.toDatabase destinationHoldingId with
  | [] =>
      .error ⟨.treasuryServiceError,
        "Destination holding has no descriptors — cannot derive a receive address"⟩
  | descriptor :: _ =>
      match DescriptorRepo.nextUnusedAddress db.toDatabase descriptor.id false with
      | none =>
          .error ⟨.treasuryServiceError,
            "No unused receive address available on destination holding's descriptor"⟩
      | some address => .ok address.address

/-- `provider.last_known_balance_sats or 0`. -/
def CustodialProviderRow.currentBalance (provider : CustodialProviderRow) : Int :=
  provider.lastKnownBalanceSats.getD 0

/-- `execute_sweep_now` up to the new execution. -/
def prepareSweep (custody : Custody) (metadata : HoldingMetadata) (db : TreasuryDatabase)
    (policyId : Uuid) (amountSats : Option Int) (now : Timestamp) :
    Except PyError PreparedSweep := do
  let policy ← getSweepPolicy db policyId
  if policy.isEnabled = false then
    throw ⟨.treasuryServiceError, "Policy must be enabled before manual execution"⟩
  let provider ← manualSource metadata db policy
  let address ← manualAddress db policy.destinationHoldingId
  let credentials ← resolveCredentials custody provider
  let balance := provider.currentBalance
  let sweepAmount := amountSats.getD (policy.sweepAmount balance)
  if sweepAmount ≤ 0 then
    throw ⟨.treasuryServiceError,
      "Calculated sweep amount is zero or negative — " ++
        "check the balance and minimum_balance_sats"⟩
  let execution ← newSweepExecution (SweepSession.start db).freshExecutionId policy.id now .manual
    balance sweepAmount .requested
  return ⟨execution, provider.adapterId, credentials, sweepAmount, address⟩

/-- The withdrawal of a prepared execution: how the adapter answers, with the effects of asking
    it. -/
def attemptWithdrawal (custody : Custody) (prepared : PreparedSweep) :
    List SweepEffect × Except PyError String :=
  match buildAdapter custody prepared.adapterId prepared.credentials with
  | .error error => ([], .error error)
  | .ok _ =>
      ([.withdrawal prepared.execution.sweepPolicyId prepared.amountSats prepared.address],
        custody.withdraw prepared.adapterId prepared.credentials prepared.amountSats
          prepared.address)

/-- `execute_sweep_now`, as its endpoint commits it or rolls it back. -/
def executeSweepNow (custody : Custody) (metadata : HoldingMetadata) (db : TreasuryDatabase)
    (policyId : Uuid) (amountSats : Option Int) (now : Timestamp) : SweepOutcome :=
  match prepareSweep custody metadata db policyId amountSats now with
  | .error error => ⟨db, [], some error⟩
  | .ok prepared =>
      let session := ((SweepSession.start db).create prepared.execution).flush
      let attempt := attemptWithdrawal custody prepared
      match attempt.2 with
      | .ok withdrawalId =>
          ⟨(session.updateStatus prepared.execution.id .requested (some withdrawalId) none
            none).commit, attempt.1, none⟩
      | .error error =>
          if error.cls = .providerAuthError ∨ error.cls = .providerError then
            ⟨(session.updateStatus prepared.execution.id .failed none (some error.message)
              (some now)).commit, attempt.1, none⟩
          else ⟨db, attempt.1, some error⟩

end TallyKeep
