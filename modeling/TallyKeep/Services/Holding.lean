/-
Module: TallyKeep.Services.Holding
Layer: Services
Purpose: `holding_service`, the rows `treasury_service.create_account_holding` writes, and the
  descriptor endpoints: creation of holdings, import of descriptors, changes and fixes.
Trusted boundary: translation of `services/holding_service.py`,
  `api/v1/descriptors.py` and `api/v1/security_health.py` as far as they write these tables.  Ids
  are drawn where the rows are built
Main exports: DescriptorInput, importDescriptor, createHoldingWithDescriptors, createPurse,
  createStrongbox, createVault, ParsedDescriptor.isVaultShape, createAccountRows, HoldingService,
  attachDescriptor, applyFixMetadata, graftOrigin
-/
import TallyKeep.Adapters.DescriptorParsing
import TallyKeep.Repositories.Holding

namespace TallyKeep

open Regex Relational

variable (classes : CharClasses) (library : DescriptorLibrary)

/-! ### Import of a descriptor -/

/-- A descriptor specification at creation time. -/
structure DescriptorInput where
  name : String
  expression : String
  changeExpression : Option String
  network : Network
  gapLimit : Nat

/-- An adapter error, reported as one of the service. -/
def asServiceError {α : Type} (label : String) : Except PyError α → Except PyError α
  | .ok value => .ok value
  | .error error => .error ⟨.holdingServiceError, label ++ error.message⟩

/-- The descriptor row of a specification. -/
def DescriptorInput.row (spec : DescriptorInput) (descriptorId holdingId : Uuid)
    (addressType : AddressType) : DescriptorRow :=
  ⟨descriptorId, holdingId, spec.expression, spec.changeExpression, spec.network, addressType,
    spec.gapLimit, 0⟩

/-- The `Descriptor` is built and inserted, then the derived addresses of each branch. -/
def writeDescriptor (db : HoldingDatabase) (holdingId : Uuid) (spec : DescriptorInput)
    (addressType : AddressType) (allowMultisig : Bool) : Except PyError (HoldingDatabase × Uuid) :=
  do
    if spec.gapLimit < 1 then throw ⟨.valueError, "Descriptor gap_limit must be >= 1"⟩
    let descriptorId := DescriptorRows.freshId db
    let db ← DescriptorRows.insertDescriptor db (spec.row descriptorId holdingId addressType)
    let external ←
      deriveAddresses classes library spec.expression spec.network spec.gapLimit allowMultisig
    let db := DescriptorRows.insertAddresses db descriptorId false (external.map Prod.fst)
    match spec.changeExpression with
    | none => return (db, descriptorId)
    | some changeExpression =>
        let change ←
          deriveAddresses classes library changeExpression spec.network spec.gapLimit allowMultisig
        return (DescriptorRows.insertAddresses db descriptorId true (change.map Prod.fst),
          descriptorId)

/-- `_import_descriptor`. -/
def importDescriptor (db : HoldingDatabase) (holdingId : Uuid) (spec : DescriptorInput)
    (allowMultisig : Bool) : Except PyError (HoldingDatabase × Uuid) := do
  let parsedExternal ← asServiceError "external descriptor: "
    (parse classes library spec.expression spec.network allowMultisig)
  match spec.changeExpression with
  | none => pure ()
  | some changeExpression =>
      let parsedChange ← asServiceError "change descriptor: "
        (parse classes library changeExpression spec.network allowMultisig)
      if parsedChange.addressType ≠ parsedExternal.addressType then
        throw ⟨.holdingServiceError,
          "external and change descriptors must have the same address type"⟩
  writeDescriptor classes library db holdingId spec parsedExternal.addressType allowMultisig

/-! ### Creation of holdings -/

/-- The loop over the descriptors of a new holding. -/
def importDescriptors (db : HoldingDatabase) (holdingId : Uuid) (specs : List DescriptorInput)
    (allowMultisig : Bool) : Except PyError (HoldingDatabase × List Uuid) :=
  specs.foldlM
    (fun (db, descriptorIds) spec =>
      (importDescriptor classes library db holdingId spec allowMultisig).map fun (db, id) =>
        (db, descriptorIds ++ [id]))
    (db, [])

/-- `_create_holding_with_descriptors`: the fields of the type are those of `subtype_data`. -/
def createHoldingWithDescriptors (db : HoldingDatabase) (holdingType : HoldingType)
    (details : HoldingDetails) (specs : List DescriptorInput) (subtypeData : SubtypeData)
    (purseMode : Option PurseMode) (allowMultisig : Bool) :
    Except PyError (HoldingDatabase × LoadedHolding) := do
  let holdingId := db.freshHoldingId
  let row := details.row holdingId holdingType
  let columns := details.columns subtypeData
  let (db, descriptorIds) ←
    importDescriptors classes library (HoldingRepo.insertRow db row columns) holdingId specs
      allowMultisig
  let holding ← constructHolding row columns purseMode descriptorIds none
  return (db, holding)

/-- `create_purse`. -/
def createPurse (db : HoldingDatabase) (details : HoldingDetails) (specs : List DescriptorInput)
    (purseMode : PurseMode) : Except PyError (HoldingDatabase × LoadedHolding) :=
  createHoldingWithDescriptors classes library db .purse details specs
    { SubtypeData.empty with purseMode := some purseMode.value } (some purseMode) false

/-- `create_strongbox`. -/
def createStrongbox (db : HoldingDatabase) (details : HoldingDetails)
    (specs : List DescriptorInput) (signingDeviceLabel vendor : Option String)
    (signingMetadataPresent : Option Bool) : Except PyError (HoldingDatabase × LoadedHolding) :=
  createHoldingWithDescriptors classes library db .strongbox details specs
    { SubtypeData.empty with
      signingDeviceLabel := signingDeviceLabel
      vendor := vendor
      signingMetadataPresent := signingMetadataPresent }
    none false

/-- The shape `create_vault` asks for: several keys, or a timelock. -/
def ParsedDescriptor.isVaultShape (parsed : ParsedDescriptor) : Bool :=
  parsed.isMultisig || parsed.timelock.isSome

/-- The metadata of a vault, read off its first descriptor. -/
def vaultData (parsed : ParsedDescriptor) (recoverySetupNotes : Option String) : SubtypeData :=
  { SubtypeData.empty with
    requiredSigners := parsed.requiredSigners.map Int.ofNat
    totalSigners := parsed.totalSigners.map Int.ofNat
    timelockKind := parsed.timelock.map fun timelock => timelock.1.value
    timelockValue := parsed.timelock.map fun timelock => (timelock.2 : Int)
    recoverySetupNotes := recoverySetupNotes }

/-- `create_vault`. -/
def createVault (db : HoldingDatabase) (details : HoldingDetails) (specs : List DescriptorInput)
    (recoverySetupNotes : Option String) : Except PyError (HoldingDatabase × LoadedHolding) :=
  match specs with
  | [] => .error ⟨.holdingServiceError, "Vault holdings require at least one descriptor"⟩
  | first :: _ => do
      let parsed ← asServiceError "" (parse classes library first.expression first.network true)
      if parsed.isVaultShape = false then
        throw ⟨.holdingServiceError,
          "Vault holdings require a multisig descriptor or a descriptor with a " ++
            "timelock (CLTV/CSV). Descriptor '" ++ first.name ++ "' is a plain " ++
            "single-key descriptor — set this up as a Strongbox instead."⟩
      createHoldingWithDescriptors classes library db .vault details specs
        (vaultData parsed recoverySetupNotes) none true

/-- The provider of a new account, which is checked when it is built. -/
structure AccountProvider where
  displayName : String
  adapterId : String
  hasPassphrase : Bool
  btcBalanceSats : Int

/-- The provider row of a new account. -/
def AccountProvider.row (provider : AccountProvider) (providerId holdingId : Uuid) :
    CustodialProviderRow where
  id := providerId
  holdingId := holdingId
  displayName := provider.displayName
  adapterId := provider.adapterId
  apiCredentialReference := "provider:" ++ toString providerId ++ ":read_api_key"
  apiSecretReference := "provider:" ++ toString providerId ++ ":read_api_secret"
  apiPassphraseReference :=
    if provider.hasPassphrase then
      some ("provider:" ++ toString providerId ++ ":read_api_passphrase")
    else none
  whitelistVerified := false
  lastKnownBalanceSats := some provider.btcBalanceSats

/-- `create_account_holding` once the credentials are stored: the holding and its provider. -/
def createAccountRows (db : HoldingDatabase) (details : HoldingDetails)
    (provider : AccountProvider) : Except PyError (HoldingDatabase × LoadedHolding) := do
  let holdingId := db.freshHoldingId
  let providerId := db.custodialProviders.freshKey
  let row := details.row holdingId .account
  let columns := details.columns SubtypeData.empty
  let holding ← constructHolding row columns none [] (some providerId)
  let db := HoldingRepo.insertRow db row columns
  let providerRow ← (provider.row providerId holdingId).postInit
  return ({ db with custodialProviders := db.custodialProviders.insert providerRow }, holding)

/-! ### Loading and changing holdings -/

namespace HoldingService

/-- The provider of a holding; several raise. -/
def providerOf (db : HoldingDatabase) (holdingId : Uuid) : Except PyError (Option Uuid) :=
  (scalarOneOrNone (db.custodialProviders.select fun row => decide (row.holdingId = holdingId))).map
    fun provider => provider.map CustodialProviderRow.id

/-- `get_holding`. -/
def getHolding (db : HoldingDatabase) (holdingId : Uuid) : Except PyError (Option LoadedHolding) :=
  do
    let provider ← providerOf db holdingId
    HoldingRepo.get db holdingId (DescriptorRows.idsForHolding db holdingId) provider

/-- The last provider of an account in the result of the batch query: later ones replace earlier
    ones. -/
def batchProviderOf (db : HoldingDatabase) (row : HoldingRow) : Option Uuid :=
  if row.holdingType = .account then
    (db.custodialProviders.select fun provider => decide (provider.holdingId = row.id)).getLast?.map
      CustodialProviderRow.id
  else none

/-- `list_holdings`, up to the order of the rows. -/
def listHoldings (db : HoldingDatabase) (holdingType : Option HoldingType)
    (purpose : Option Purpose) : Except PyError (List LoadedHolding) :=
  (db.holdings.select fun row =>
      (holdingType.all fun type => decide (row.holdingType = type)) &&
        purpose.all fun purpose => decide (row.purpose = purpose)).mapM fun row =>
    rowToDomain row (db.columns row.id) (DescriptorRows.idsForHolding db row.id)
      (batchProviderOf db row)

/-- `update_holding`: the row is written, then rebuilt. -/
def updateHolding (db : HoldingDatabase) (holdingId : Uuid) (patch : HoldingPatch) :
    Except PyError (Option (HoldingDatabase × LoadedHolding)) := do
  match ← HoldingRepo.updateBasics db holdingId patch with
  | none => return none
  | some written =>
      match ← getHolding written holdingId with
      | none => return none
      | some holding => return some (written, holding)

/-- `change_holding_type`: the rebuilt holding has no provider. -/
def changeHoldingType (db : HoldingDatabase) (holdingId : Uuid) (newType : HoldingType)
    (reason : Option String) : Except PyError (Option (HoldingDatabase × LoadedHolding)) := do
  if newType = .account then
    throw ⟨.holdingServiceError, "Changing to Account is not supported in M4 (lands with M8)."⟩
  let descriptorIds := DescriptorRows.idsForHolding db holdingId
  if descriptorIds = [] then
    throw ⟨.holdingServiceError,
      "Cannot change type to " ++ newType.value ++ ": at least one descriptor " ++
        "must be attached first."⟩
  match HoldingRepo.changeType db holdingId newType reason with
  | none => return none
  | some written =>
      match ← HoldingRepo.get written holdingId descriptorIds none with
      | none => return none
      | some holding => return some (written, holding)

end HoldingService

/-! ### Descriptor endpoints -/

/-- `attach_descriptor`: only the external expression is parsed first. -/
def attachDescriptor (db : HoldingDatabase) (holdingId : Uuid) (spec : DescriptorInput) :
    Except PyError HoldingDatabase :=
  match db.holdings.get? holdingId with
  | none => .error ⟨.httpException, "Holding not found"⟩
  | some target => do
      if target.holdingType = .account then
        throw ⟨.httpException, "Account holdings cannot have descriptors"⟩
      let parsed ← parse classes library spec.expression spec.network false
      (writeDescriptor classes library db holdingId spec parsed.addressType false).map Prod.fst

/-! ### Fixing the key-origin metadata -/

/-- What `_apply_fix_metadata` answers. -/
structure FixMetadataResponse where
  success : Bool
  matchedAddresses : Nat
  error : Option String
deriving DecidableEq

/-- A fix that is refused: the session is left as it was. -/
def fixRefused (db : HoldingDatabase) (matchedAddresses : Nat) (error : String) :
    HoldingDatabase × FixMetadataResponse :=
  (db, ⟨false, matchedAddresses, some error⟩)

/-- The addresses a fix is checked against: the first 20 of the external branch. -/
def storedAddresses (db : HoldingDatabase) (descriptorId : Uuid) : List String :=
  (((DescriptorRepo.listAddressesForDescriptor db.toDatabase descriptorId false).mergeSort
      fun row other => decide (row.derivationIndex ≤ other.derivationIndex)).take 20).map
    AddressRow.address

/-- `parse` with a network that may be no wire value: the lookup fails inside the `try`. -/
def parseOnNetwork (expression : String) (network : Option Network) (allowMultisig : Bool) :
    Except PyError ParsedDescriptor :=
  match network with
  | some network => parse classes library expression network allowMultisig
  | none => .error ⟨.descriptorParseError, "bdkpython failed to parse descriptor: KeyError"⟩

/-- The addresses the new expression derives, on the network of the request. -/
def derivedOnNetwork (expression : String) (network : Option Network) (count : Nat) :
    List String :=
  match network with
  | some network => (List.range count).map (library.deriveAddress expression network)
  | none => []

theorem rewritten_key (expression : String) (row : DescriptorRow) :
    key { row with expression := expression } = key row := rfl

/-- The writes of a fix: the expression in place, and the mark on the holding. -/
def writeFix (db : HoldingDatabase) (holdingId descriptorId : Uuid) (expression : String) :
    Except PyError HoldingDatabase :=
  if db.descriptors.rows.any fun row =>
      decide (row.id ≠ descriptorId ∧ row.expression = expression) then
    .error ⟨.integrityError, "uq_descriptor_expression"⟩
  else
    let columns := db.columns holdingId
    .ok
      { db.withColumns holdingId
          { columns with
            subtypeData := { columns.subtypeData with signingMetadataPresent := some true } } with
        descriptors := db.descriptors.update descriptorId
          (fun row => { row with expression := expression }) (rewritten_key expression) }

/-- `_apply_fix_metadata`. -/
def applyFixMetadata (db : HoldingDatabase) (holdingId : Uuid) (expression : String)
    (network : Option Network) : Except PyError (HoldingDatabase × FixMetadataResponse) :=
  if found classes DescriptorPatterns.fingerprint expression = false then
    .ok (fixRefused db 0
      ("The provided descriptor does not contain key-origin metadata (e.g. [fingerprint/path]). " ++
        "Re-export with full origin from your hardware wallet."))
  else
    match parseOnNetwork classes library expression network true with
    | .error error => .ok (fixRefused db 0 ("Descriptor parse error: " ++ error.message))
    | .ok _ =>
        match DescriptorRepo.listDescriptorsForHolding db.toDatabase holdingId with
        | [] => .ok (fixRefused db 0 "No descriptor found for this Holding.")
        | descriptor :: _ =>
            let stored := storedAddresses db descriptor.id
            if stored = [] then
              .ok (fixRefused db 0
                "No watched addresses found — cannot verify the descriptor.")
            else
              let derived := derivedOnNetwork library expression network stored.length
              let matched := (stored.dedup.filter fun address => decide (address ∈ derived)).length
              if matched < min stored.length 1 then
                .ok (fixRefused db matched
                  ("Address mismatch: the provided descriptor does not match the addresses " ++
                    "TallyKeep is watching. Check that you exported from the correct wallet."))
              else
                (writeFix db holdingId descriptor.id expression).map fun written =>
                  (written, ⟨true, matched, none⟩)

/-- The extended key `_graft_origin` looks for. -/
def extendedKey : Pattern :=
  .group (.seq (.anyOf [.text "xpub", .text "zpub", .text "tpub"]) (.plus (.char Char.isAlphanum)))

/-- `_graft_origin`. -/
def graftOrigin (expression fingerprint path : String) : String :=
  if found classes DescriptorPatterns.fingerprint expression then expression
  else
    match search classes extendedKey expression with
    | none => expression
    | some stop =>
        let key := stop.groups.getD 0 []
        String.ofList (stop.before.drop key.length).reverse ++
          "[" ++ fingerprint ++ "/" ++ path ++ "]" ++ String.ofList key ++ String.ofList stop.after

/-- `fix_metadata_manual`: the origin is grafted onto the stored expression. -/
def fixMetadataManual (db : HoldingDatabase) (holdingId : Uuid) (masterFingerprint : String)
    (derivationPath : String) (network : Option Network) :
    Except PyError (HoldingDatabase × FixMetadataResponse) :=
  match DescriptorRepo.listDescriptorsForHolding db.toDatabase holdingId with
  | [] => .error ⟨.httpException, "No descriptor found for this Holding"⟩
  | descriptor :: _ =>
      let fingerprint := String.ofList (masterFingerprint.toList.map Char.toLower)
      let pathSuffix :=
        if derivationPath.startsWith "m/" then String.ofList (derivationPath.toList.drop 2)
        else derivationPath
      applyFixMetadata classes library db holdingId
        (graftOrigin classes descriptor.expression fingerprint pathSuffix) network

end TallyKeep
