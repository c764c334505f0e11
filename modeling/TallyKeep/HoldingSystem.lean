/-
Module: TallyKeep.HoldingSystem
Layer: System
Purpose: The holdings and their descriptors as a transition system: every endpoint that writes them,
  run in a session that is committed or rolled back, and the states they reach.
Trusted boundary: translation of the endpoints of `api/v1/holdings.py`,
  `api/v1/descriptors.py` and `api/v1/security_health.py`.  `delete_descriptor` is called by no
  endpoint; it is committed as its own request
Main exports: HoldingOperation, holdingPerform, holdingStep, HoldingDatabase.empty
-/
import TallyKeep.Services.Holding

namespace TallyKeep

open Regex Relational Transition

/-! ### Operations -/

/-- One call into the program, with what its environment answers. -/
inductive HoldingOperation where
  | createPurse (details : HoldingDetails) (specs : List DescriptorInput) (purseMode : PurseMode)
  | createStrongbox (details : HoldingDetails) (specs : List DescriptorInput)
      (signingDeviceLabel vendor : Option String) (signingMetadataPresent : Option Bool)
  | createVault (details : HoldingDetails) (specs : List DescriptorInput)
      (recoverySetupNotes : Option String)
  | createAccount (details : HoldingDetails) (provider : AccountProvider)
  | updateHolding (holdingId : Uuid) (patch : HoldingPatch) (pollingIntervalSeconds : Option Int)
  | changeHoldingType (holdingId : Uuid) (newType : HoldingType) (reason : Option String)
  | attachDescriptor (holdingId : Uuid) (spec : DescriptorInput)
  | patchDescriptor (descriptorId : Uuid) (gapLimit : Option Nat)
  | deleteDescriptor (descriptorId : Uuid)
  | fixMetadataReexport (holdingId : Uuid) (expression : String) (network : Option Network)
  | fixMetadataManual (holdingId : Uuid) (masterFingerprint derivationPath : String)
      (network : Option Network)
  | rescan (node : ScanNode) (descriptorId : Uuid)

/-- The part of `patch_holding` on the polling interval, which is in no table here. -/
def checkPollingInterval (holding : LoadedHolding) : Option Int → Except PyError Unit
  | none => .ok ()
  | some seconds =>
      if holding.row.holdingType ≠ .account then
        .error ⟨.httpException,
          "polling_interval_seconds is only valid for Account holdings"⟩
      else if seconds ∉ ([60, 300, 600, 1800, 3600] : List Int) then
        .error ⟨.valueError,
          "polling_interval_seconds must be one of [60, 300, 600, 1800, 3600], got " ++
            toString seconds⟩
      else .ok ()

/-- An endpoint that answers 404 when its row does not exist. -/
def orNotFound {α : Type} (message : String) : Except PyError (Option α) → Except PyError α
  | .ok (some value) => .ok value
  | .ok none => .error ⟨.httpException, message⟩
  | .error error => .error error

variable (classes : CharClasses) (library : DescriptorLibrary)

/-- What the endpoint commits, when nothing raises. -/
def holdingPerform (db : HoldingDatabase) : HoldingOperation → Except PyError HoldingDatabase
  | .createPurse details specs purseMode =>
      (createPurse classes library db details specs purseMode).map Prod.fst
  | .createStrongbox details specs label vendor present =>
      (createStrongbox classes library db details specs label vendor present).map Prod.fst
  | .createVault details specs notes =>
      (createVault classes library db details specs notes).map Prod.fst
  | .createAccount details provider => (createAccountRows db details provider).map Prod.fst
  | .updateHolding holdingId patch seconds => do
      let (written, holding) ←
        orNotFound "Holding not found" (HoldingService.updateHolding db holdingId patch)
      checkPollingInterval holding seconds
      return written
  | .changeHoldingType holdingId newType reason =>
      (orNotFound "Holding not found"
        (HoldingService.changeHoldingType db holdingId newType reason)).map Prod.fst
  | .attachDescriptor holdingId spec => attachDescriptor classes library db holdingId spec
  | .patchDescriptor descriptorId gapLimit =>
      orNotFound "Descriptor not found" (DescriptorRows.updateDescriptor db descriptorId gapLimit)
  | .deleteDescriptor descriptorId =>
      orNotFound "Descriptor not found" (DescriptorRows.deleteDescriptor db descriptorId)
  | .fixMetadataReexport holdingId expression network =>
      (applyFixMetadata classes library db holdingId expression network).map Prod.fst
  | .fixMetadataManual holdingId masterFingerprint derivationPath network =>
      (fixMetadataManual classes library db holdingId masterFingerprint derivationPath
        network).map Prod.fst
  | .rescan node descriptorId =>
      (scanDescriptor node db.toDatabase descriptorId).map fun scanned =>
        { db with toDatabase := scanned }

/-- The committed database after an operation: an exception leaves it as it was. -/
def holdingStep (db : HoldingDatabase) (operation : HoldingOperation) : HoldingDatabase :=
  match holdingPerform classes library db operation with
  | .ok committed => committed
  | .error _ => db

/-- A database in which nothing was ever stored. -/
def HoldingDatabase.empty : HoldingDatabase :=
  { Database.empty with
    sweepPolicies := .empty
    custodialProviders := .empty
    columns := fun _ => ⟨"", none, .selfSingle, false, false, none, SubtypeData.empty, "#000000", 0⟩
    typeChanges := .empty }

end TallyKeep
