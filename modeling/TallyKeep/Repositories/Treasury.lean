/-
Module: TallyKeep.Repositories.Treasury
Layer: Repositories
Purpose: The queries and writes of `repositories/sweep_policy.py`, `sweep_execution.py`,
  `custodial_provider.py` and `holding_service.get_holding`, and the session they run in.
Trusted boundary: translation.  The session factory sets `autoflush=False`: a query
  sees what is flushed, not what is added.  The custody model and the subtype columns of a holding
  are in no table here, so what their checks answer is a parameter
Main exports: SweepPolicyRow.postInit, PolicyListing, SweepPolicyRepo, CustodialProviderRepo,
  getHolding, newSweepExecution, SweepSession
-/
import TallyKeep.Repositories

namespace TallyKeep

open Relational

/-! ### Sweep policies -/

/-- The kinds of some warnings, as error messages list them. -/
def warningKinds (warnings : List SafetyWarning) : String :=
  ", ".intercalate (warnings.map fun warning => warning.kind.value)

namespace SweepPolicyRow

/-- The warnings the user has not acknowledged. -/
def unacknowledged (row : SweepPolicyRow) : List SafetyWarning :=
  row.safetyWarnings.filter fun warning => !warning.userAcknowledged

/-- `SweepPolicy.__post_init__`, which runs whenever a row is turned into a `SweepPolicy`. -/
def postInit (row : SweepPolicyRow) : Except PyError SweepPolicyRow :=
  if row.sourceHoldingId = row.destinationHoldingId then
    .error ⟨.valueError,
      "SweepPolicy source_holding_id and destination_holding_id must differ"⟩
  else if row.minimumBalanceSats < 0 then
    .error ⟨.valueError, "SweepPolicy.minimum_balance_sats must be >= 0"⟩
  else if row.maximumPerPeriodSats.any fun maximum => decide (maximum < 0) then
    .error ⟨.valueError, "SweepPolicy.maximum_per_period_sats must be >= 0"⟩
  else if row.isEnabled ∧ row.unacknowledged ≠ [] then
    .error ⟨.valueError,
      "SweepPolicy cannot be enabled with unacknowledged warnings: " ++
        warningKinds row.unacknowledged⟩
  else .ok row

end SweepPolicyRow

/-- The order in which the listing of policies, a query without ORDER BY, returns its rows. -/
structure PolicyListing where
  arrange : List SweepPolicyRow → List SweepPolicyRow
  perm : ∀ rows, (arrange rows).Perm rows

/-- The fields of an update of a policy; absent ones stay as they are. -/
structure PolicyPatch where
  name : Option String
  triggerType : Option SweepTriggerType
  triggerConfiguration : Option TriggerConfiguration
  minimumBalanceSats : Option Int
  maximumPerPeriodSats : Option Int
  requiresUserConfirmation : Option Bool
  isDryRun : Option Bool

/-- The row after `update_policy`. -/
def SweepPolicyRow.patched (row : SweepPolicyRow) (patch : PolicyPatch)
    (safetyWarnings : Option (List SafetyWarning)) : SweepPolicyRow :=
  { row with
    name := patch.name.getD row.name
    triggerType := patch.triggerType.getD row.triggerType
    triggerConfiguration := patch.triggerConfiguration.getD row.triggerConfiguration
    minimumBalanceSats := patch.minimumBalanceSats.getD row.minimumBalanceSats
    maximumPerPeriodSats := patch.maximumPerPeriodSats.or row.maximumPerPeriodSats
    requiresUserConfirmation := patch.requiresUserConfirmation.getD row.requiresUserConfirmation
    isDryRun := patch.isDryRun.getD row.isDryRun
    safetyWarnings := safetyWarnings.getD row.safetyWarnings }

/-- The row after `acknowledge_all_warnings`. -/
def SweepPolicyRow.acknowledged (row : SweepPolicyRow) : SweepPolicyRow :=
  { row with
    safetyWarnings := row.safetyWarnings.map fun warning =>
      { warning with userAcknowledged := true } }

/-- The row after a bulk update of `is_enabled`, which skips the rows that have the value
    already. -/
def SweepPolicyRow.switched (row : SweepPolicyRow) (enabled : Bool) : SweepPolicyRow :=
  if row.isEnabled = !enabled then { row with isEnabled := enabled } else row

@[simp] theorem SweepPolicyRow.switched_eq (row : SweepPolicyRow) (enabled : Bool) :
    row.switched enabled = { row with isEnabled := enabled } := by
  cases row with
  | mk =>
      simp only [switched]
      split
      · rfl
      · simp_all

namespace SweepPolicyRepo

/-- `get`. -/
def get (db : TreasuryDatabase) (policyId : Uuid) : Except PyError (Option SweepPolicyRow) :=
  match db.sweepPolicies.get? policyId with
  | none => .ok none
  | some row => row.postInit.map some

/-- The rows `list_policies` selects. -/
def selected (db : TreasuryDatabase) (sourceHoldingId : Option Uuid) (enabled : Option Bool) :
    List SweepPolicyRow :=
  db.sweepPolicies.select fun row =>
    (sourceHoldingId.all fun id => decide (row.sourceHoldingId = id)) &&
      enabled.all fun flag => decide (row.isEnabled = flag)

/-- `list_policies`. -/
def listPolicies (listing : PolicyListing) (db : TreasuryDatabase) (sourceHoldingId : Option Uuid)
    (enabled : Option Bool) : Except PyError (List SweepPolicyRow) :=
  (listing.arrange (selected db sourceHoldingId enabled)).mapM SweepPolicyRow.postInit

/-- `create`. -/
def create (db : TreasuryDatabase) (policy : SweepPolicyRow) : TreasuryDatabase :=
  { db with sweepPolicies := db.sweepPolicies.insert policy }

/-- What `update_policy`, `set_enabled` and `acknowledge_all_warnings` have in common: the row is
    written, then turned into the policy that is returned. -/
def modify (db : TreasuryDatabase) (policyId : Uuid) (f : SweepPolicyRow → SweepPolicyRow)
    (keeps : ∀ row, (f row).id = row.id) :
    Except PyError (TreasuryDatabase × Option SweepPolicyRow) :=
  match db.sweepPolicies.get? policyId with
  | none => .ok (db, none)
  | some row =>
      (f row).postInit.map fun policy =>
        ({ db with sweepPolicies := db.sweepPolicies.update policyId f keeps }, some policy)

/-- `update_policy`. -/
def updatePolicy (db : TreasuryDatabase) (policyId : Uuid) (patch : PolicyPatch)
    (safetyWarnings : Option (List SafetyWarning)) :
    Except PyError (TreasuryDatabase × Option SweepPolicyRow) :=
  modify db policyId (fun row => row.patched patch safetyWarnings) fun _ => rfl

/-- `set_enabled`. -/
def setEnabled (db : TreasuryDatabase) (policyId : Uuid) (enabled : Bool) :
    Except PyError (TreasuryDatabase × Option SweepPolicyRow) :=
  modify db policyId (fun row => { row with isEnabled := enabled }) fun _ => rfl

/-- `acknowledge_all_warnings`. -/
def acknowledgeAllWarnings (db : TreasuryDatabase) (policyId : Uuid) :
    Except PyError (TreasuryDatabase × Option SweepPolicyRow) :=
  modify db policyId SweepPolicyRow.acknowledged fun _ => rfl

/-- `delete`, committed: the foreign key of `sweep_execution` restricts it. -/
def delete (db : TreasuryDatabase) (policyId : Uuid) : Except PyError TreasuryDatabase :=
  if db.sweepExecutions.rows.any fun row => decide (row.sweepPolicyId = policyId) then
    .error ⟨.integrityError, "sweep_execution_sweep_policy_id_fkey"⟩
  else .ok
    { db with sweepPolicies := db.sweepPolicies.delete fun row => decide (row.id = policyId) }

/-- The bulk update behind `pause_all` and `resume_all`, with the number of rows it matches. -/
def switchAll (db : TreasuryDatabase) (enabled : Bool) : TreasuryDatabase × Nat :=
  ({ db with
      sweepPolicies := db.sweepPolicies.updateAll (fun row => row.switched enabled) fun row => by
        rw [SweepPolicyRow.switched_eq]
        rfl },
    (db.sweepPolicies.select fun row => decide (row.isEnabled = !enabled)).length)

/-- `pause_all`. -/
def pauseAll (db : TreasuryDatabase) : TreasuryDatabase × Nat := switchAll db false

/-- `resume_all`. -/
def resumeAll (db : TreasuryDatabase) : TreasuryDatabase × Nat := switchAll db true

end SweepPolicyRepo

/-! ### Custodial providers -/

/-- `CustodialProvider.__post_init__`. -/
def CustodialProviderRow.postInit (row : CustodialProviderRow) :
    Except PyError CustodialProviderRow :=
  if row.adapterId = "" then .error ⟨.valueError, "CustodialProvider adapter_id is required"⟩
  else if row.apiCredentialReference = "" ∨ row.apiSecretReference = "" then
    .error ⟨.valueError,
      "CustodialProvider api_credential_reference and api_secret_reference are required"⟩
  else if '\x7b' ∈ row.apiCredentialReference.toList ∨ '\x7b' ∈ row.apiSecretReference.toList then
    .error ⟨.valueError,
      "Credential references must be lookup strings, not credential values"⟩
  else if row.lastKnownBalanceSats.any fun balance => decide (balance < 0) then
    .error ⟨.valueError, "last_known_balance_sats must be >= 0"⟩
  else .ok row

namespace CustodialProviderRepo

/-- `get`. -/
def get (db : TreasuryDatabase) (providerId : Uuid) :
    Except PyError (Option CustodialProviderRow) :=
  match db.custodialProviders.get? providerId with
  | none => .ok none
  | some row => row.postInit.map some

end CustodialProviderRepo

/-! ### Holdings -/

/-- A `Holding`: its row, with the descriptors and the provider that belong to it. -/
structure Holding where
  row : HoldingRow
  descriptorIds : List Uuid
  custodialProviderId : Option Uuid
deriving DecidableEq

/-- What the checks on a holding's custody model and subtype columns answer. -/
abbrev HoldingMetadata := Uuid → Except PyError Unit

/-- `Holding.__post_init__`. -/
def Holding.postInit (metadata : HoldingMetadata) (holding : Holding) : Except PyError Holding :=
  let type := holding.row.holdingType
  if type = .account then
    if holding.descriptorIds ≠ [] then
      .error ⟨.valueError, "Account holdings cannot have descriptors"⟩
    else if holding.custodialProviderId = none then
      .error ⟨.valueError, "Account holdings require a CustodialProvider id"⟩
    else if holding.row.declaredSigningModel ≠ .notApplicable then
      .error ⟨.valueError, "Account holdings must declare signing_model=NOT_APPLICABLE"⟩
    else (metadata holding.row.id).map fun _ => holding
  else
    if holding.descriptorIds = [] then
      .error ⟨.valueError, type.value ++ " holdings require at least one descriptor"⟩
    else if holding.custodialProviderId ≠ none then
      .error ⟨.valueError, type.value ++ " holdings cannot have a CustodialProvider"⟩
    else if holding.row.declaredSigningModel = .notApplicable then
      .error ⟨.valueError, type.value ++ " holdings cannot declare signing_model=NOT_APPLICABLE"⟩
    else (metadata holding.row.id).map fun _ => holding

/-- `holding_service.get_holding`. -/
def getHolding (metadata : HoldingMetadata) (db : TreasuryDatabase) (holdingId : Uuid) :
    Except PyError (Option Holding) := do
  let descriptorIds :=
    (DescriptorRepo.listDescriptorsForHolding db.toDatabase holdingId).map DescriptorRow.id
  let provider ← scalarOneOrNone
    (db.custodialProviders.select fun row => decide (row.holdingId = holdingId))
  match db.holdings.get? holdingId with
  | none => return none
  | some row =>
      let holding ← Holding.postInit metadata
        ⟨row, descriptorIds, provider.map CustodialProviderRow.id⟩
      return some holding

/-! ### Sweep executions -/

/-- A new `SweepExecution`, with the checks of `__post_init__`. -/
def newSweepExecution (executionId policyId : Uuid) (now : Timestamp) (source : SweepTriggerType)
    (preBalanceSats intendedAmountSats : Int) (status : SweepExecutionStatus) :
    Except PyError SweepExecutionRow :=
  if preBalanceSats < 0 then
    .error ⟨.valueError, "SweepExecution.pre_balance_sats must be >= 0"⟩
  else if intendedAmountSats < 0 then
    .error ⟨.valueError, "SweepExecution.intended_amount_sats must be >= 0"⟩
  else .ok
    { id := executionId
      sweepPolicyId := policyId
      triggeredAt := now
      triggerSource := source
      preBalanceSats := preBalanceSats.toNat
      intendedAmountSats := intendedAmountSats.toNat
      status := status
      providerWithdrawalId := none
      expectedTxid := none
      confirmedTxid := none
      errorMessage := none
      completedAt := none }

/-- A session with `autoflush=False`: the rows its queries see, and the rows a commit leaves. -/
structure SweepSession where
  visible : TreasuryDatabase
  written : TreasuryDatabase

namespace SweepSession

/-- A session in which nothing was added yet. -/
def start (db : TreasuryDatabase) : SweepSession := ⟨db, db⟩

/-- `flush`: queries see what was added. -/
def flush (session : SweepSession) : SweepSession := ⟨session.written, session.written⟩

/-- `commit`. -/
def commit (session : SweepSession) : TreasuryDatabase := session.written

/-- An id that no execution has and no request refers to, as `uuid4` draws it. -/
def freshExecutionId (session : SweepSession) : Uuid :=
  (session.written.sweepExecutions.rows.map SweepExecutionRow.id ++
    session.written.paymentRequests.rows.filterMap PaymentRequestRow.sweepExecutionId).foldr
      max 0 + 1

/-- `se_repo.create`: the row is added, not flushed. -/
def create (session : SweepSession) (execution : SweepExecutionRow) : SweepSession :=
  { session with
    written :=
      { session.written with
        toDatabase := SweepExecutionRepo.create session.written.toDatabase execution } }

/-- `se_repo.update_status`: a row that was added but not flushed is not found, and nothing is
    written. -/
def updateStatus (session : SweepSession) (executionId : Uuid) (status : SweepExecutionStatus)
    (providerWithdrawalId errorMessage : Option String) (completedAt : Option Timestamp) :
    SweepSession :=
  match session.visible.sweepExecutions.get? executionId with
  | none => session
  | some _ =>
      let write (db : TreasuryDatabase) : TreasuryDatabase :=
        { db with
          toDatabase := SweepExecutionRepo.updateStatus db.toDatabase executionId status
            providerWithdrawalId none none errorMessage completedAt }
      ⟨write session.visible, write session.written⟩

/-- The request of a payment is added, not flushed. -/
def addRequest (session : SweepSession) (request : PaymentRequestRow) : SweepSession :=
  { session with
    written :=
      { session.written with
        toDatabase := PaymentRequestRepo.insert session.written.toDatabase request } }

/-- The poller's link: a request that was added but not flushed is not found. -/
def linkRequest (session : SweepSession) (requestId executionId : Uuid) : SweepSession :=
  match session.visible.paymentRequests.get? requestId with
  | none => session
  | some _ =>
      let write (db : TreasuryDatabase) : TreasuryDatabase :=
        { db with
          toDatabase := PaymentRequestRepo.modify db.toDatabase requestId
            (fun row => { row with sweepExecutionId := some executionId })
            (PaymentRequestRow.ofSweep_id executionId) }
      ⟨write session.visible, write session.written⟩

end SweepSession

end TallyKeep
