/-
Module: TallyKeep.Models.Holding
Layer: Models
Purpose: The rest of a holding's row, the audit log of type changes, and the rules of the `Holding`
  constructor.
Trusted boundary: translation of `domain/holding.py` and `models/holding.py`.  The
  keys of `subtype_data` are those `_row_to_domain` reads, with a JSON null like an absent key
Main exports: CustodyModel, PurseMode, SecurityClaim, SubtypeData, HoldingColumns,
  HoldingColumns.check, HoldingTypeChangeLogRow, HoldingDatabase, HoldingDatabase.metadata
-/
import TallyKeep.Repositories.Treasury

namespace TallyKeep

open Relational

/-! ### Enumerations -/

inductive CustodyModel where
  | thirdParty
  | selfSingle
  | selfMultisig
deriving Repr, DecidableEq

inductive PurseMode where
  | watchOnly
  | onDeviceTkGenerated
  | onDeviceUserImported
deriving Repr, DecidableEq

namespace PurseMode

/-- The wire value of a purse mode, which is what `subtype_data` holds. -/
def value : PurseMode → String
  | watchOnly => "watch_only"
  | onDeviceTkGenerated => "on_device_tk_generated"
  | onDeviceUserImported => "on_device_user_imported"

/-- `PurseMode(text)`: a text that is no wire value raises. -/
def ofValue (text : String) : Except PyError PurseMode :=
  if text = watchOnly.value then .ok watchOnly
  else if text = onDeviceTkGenerated.value then .ok onDeviceTkGenerated
  else if text = onDeviceUserImported.value then .ok onDeviceUserImported
  else .error ⟨.valueError, "'" ++ text ++ "' is not a valid PurseMode"⟩

@[simp] theorem ofValue_value (mode : PurseMode) : ofValue mode.value = .ok mode := by
  cases mode <;> decide

end PurseMode

/-! ### Rows -/

/-- A `SecurityClaim`: what the user declares. -/
structure SecurityClaim where
  custodyModel : CustodyModel
  signingModel : SigningModel
  geographicDistribution : Bool
  inheritanceConfigured : Bool
  notes : Option String
deriving DecidableEq

/-- The JSON column `subtype_data`. -/
structure SubtypeData where
  purseMode : Option String
  signingDeviceLabel : Option String
  vendor : Option String
  signingMetadataPresent : Option Bool
  requiredSigners : Option Int
  totalSigners : Option Int
  timelockKind : Option String
  timelockValue : Option Int
  recoverySetupNotes : Option String
deriving DecidableEq

/-- The empty dictionary. -/
def SubtypeData.empty : SubtypeData := ⟨none, none, none, none, none, none, none, none, none⟩

/-- The columns of a holding beside those of its `HoldingRow`. -/
structure HoldingColumns where
  name : String
  description : Option String
  declaredCustodyModel : CustodyModel
  declaredGeographicDistribution : Bool
  declaredInheritanceConfigured : Bool
  declaredSecurityNotes : Option String
  subtypeData : SubtypeData
  displayColor : String
  displayOrder : Int
deriving DecidableEq

/-- One change of a holding's type. -/
structure HoldingTypeChangeLogRow where
  id : Uuid
  holdingId : Uuid
  previousType : HoldingType
  newType : HoldingType
  reason : Option String
deriving DecidableEq

instance : Keyed HoldingTypeChangeLogRow Uuid := ⟨HoldingTypeChangeLogRow.id⟩

/-- The committed database with all columns of the holdings and with their audit log. -/
structure HoldingDatabase extends TreasuryDatabase where
  columns : Uuid → HoldingColumns
  typeChanges : Table HoldingTypeChangeLogRow

/-! ### The rules of the constructor -/

namespace SubtypeData

/-- `_reject_vault_metadata`. -/
def rejectVaultMetadata (data : SubtypeData) : Except PyError Unit :=
  if data.requiredSigners ≠ none ∨ data.totalSigners ≠ none ∨ data.timelockKind ≠ none ∨
      data.timelockValue ≠ none ∨ data.recoverySetupNotes ≠ none then
    .error ⟨.valueError,
      "Vault metadata (required_signers, total_signers, timelock_kind, " ++
        "timelock_value, recovery_setup_notes) only valid on Vault holdings"⟩
  else .ok ()

/-- `_reject_strongbox_metadata`. -/
def rejectStrongboxMetadata (data : SubtypeData) : Except PyError Unit :=
  if data.signingDeviceLabel ≠ none then
    .error ⟨.valueError, "signing_device_label is only valid on Strongbox holdings"⟩
  else if data.vendor ≠ none then
    .error ⟨.valueError, "vendor is only valid on Strongbox holdings"⟩
  else if data.signingMetadataPresent ≠ none then
    .error ⟨.valueError, "signing_metadata_present is only valid on Strongbox holdings"⟩
  else .ok ()

/-- The part of `_validate_vault_metadata` on signers. -/
def validateSigners (data : SubtypeData) : Except PyError Unit :=
  match data.requiredSigners, data.totalSigners with
  | none, none => .ok ()
  | some required, some total =>
      if required < 1 then .error ⟨.valueError, "Vault required_signers must be >= 1"⟩
      else if total < required then
        .error ⟨.valueError, "Vault total_signers must be >= required_signers"⟩
      else .ok ()
  | _, _ =>
      .error ⟨.valueError,
        "Vault required_signers and total_signers must be set together or both omitted"⟩

/-- The part of `_validate_vault_metadata` on the timelock. -/
def validateTimelock (data : SubtypeData) : Except PyError Unit :=
  if data.timelockKind.any fun kind => decide (kind ≠ "cltv" ∧ kind ≠ "csv") then
    .error ⟨.valueError,
      "Vault timelock_kind must be one of \x7bNone, 'cltv', 'csv'\x7d, got '" ++
        data.timelockKind.getD "" ++ "'"⟩
  else if data.timelockKind ≠ none ∧ data.timelockValue = none then
    .error ⟨.valueError, "Vault timelock_value must be set when timelock_kind is not None"⟩
  else if data.timelockValue.any fun value => decide (value < 0) then
    .error ⟨.valueError, "Vault timelock_value must be >= 0"⟩
  else .ok ()

/-- `_validate_vault_metadata`. -/
def validateVaultMetadata (data : SubtypeData) : Except PyError Unit := do
  data.validateSigners
  data.validateTimelock

end SubtypeData

namespace HoldingColumns

/-- `Holding.__post_init__` after its checks on relations and on the signing model. -/
def check (columns : HoldingColumns) (holdingType : HoldingType) : Except PyError Unit := do
  let data := columns.subtypeData
  if holdingType = .account then
    if columns.declaredCustodyModel ≠ .thirdParty then
      throw ⟨.valueError, "Account holdings must declare custody_model=THIRD_PARTY"⟩
    data.rejectVaultMetadata
    data.rejectStrongboxMetadata
  else if columns.declaredCustodyModel = .thirdParty then
    throw ⟨.valueError,
      holdingType.value ++ " holdings cannot declare custody_model=THIRD_PARTY"⟩
  if holdingType ≠ .strongbox then data.rejectStrongboxMetadata
  if holdingType ≠ .vault then data.rejectVaultMetadata else data.validateVaultMetadata

end HoldingColumns

/-- What the constructor checks on the columns of a holding, by its id. -/
def HoldingDatabase.metadata (db : HoldingDatabase) : HoldingMetadata := fun holdingId =>
  match db.holdings.get? holdingId with
  | none => .ok ()
  | some row => (db.columns holdingId).check row.holdingType

end TallyKeep
