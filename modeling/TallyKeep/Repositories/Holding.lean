/-
Module: TallyKeep.Repositories.Holding
Layer: Repositories
Purpose: The queries and writes of `repositories/holding.py` and of the descriptor rows in
  `repositories/descriptor.py`.
Trusted boundary: translation.  A row written in a session is what later queries of
  the session see; an exception leaves the session to its caller, who rolls it back
Main exports: LoadedHolding, constructHolding, rowToDomain, HoldingDetails, HoldingPatch,
  HoldingRepo, DescriptorRows
-/
import TallyKeep.Models.Holding
import TallyKeep.System

namespace TallyKeep

open Relational

/-! ### Rows and the objects built from them -/

/-- A `Holding` with all its fields; those of its type are the keys of its `subtype_data`. -/
structure LoadedHolding extends Holding where
  columns : HoldingColumns
  purseMode : Option PurseMode
deriving DecidableEq

/-- The constructor `Holding(...)`. -/
def constructHolding (row : HoldingRow) (columns : HoldingColumns) (purseMode : Option PurseMode)
    (descriptorIds : List Uuid) (custodialProviderId : Option Uuid) :
    Except PyError LoadedHolding :=
  (Holding.postInit (fun _ => columns.check row.holdingType)
      ⟨row, descriptorIds, custodialProviderId⟩).map fun holding => ⟨holding, columns, purseMode⟩

/-- The purse mode `_row_to_domain` reads: an empty text counts as none. -/
def SubtypeData.readPurseMode (data : SubtypeData) : Except PyError (Option PurseMode) :=
  match data.purseMode with
  | none => .ok none
  | some text => if text = "" then .ok none else (PurseMode.ofValue text).map some

/-- `_row_to_domain`, and `to_domain`. -/
def rowToDomain (row : HoldingRow) (columns : HoldingColumns) (descriptorIds : List Uuid)
    (custodialProviderId : Option Uuid) : Except PyError LoadedHolding := do
  let purseMode ← columns.subtypeData.readPurseMode
  constructHolding row columns purseMode descriptorIds custodialProviderId

/-! ### Holdings -/

/-- What the user gives of a new holding, whatever its type. -/
structure HoldingDetails where
  name : String
  description : Option String
  purpose : Purpose
  declaredSecurity : SecurityClaim
  displayColor : String
  displayOrder : Int

/-- The `HoldingRow` of a new holding. -/
def HoldingDetails.row (details : HoldingDetails) (holdingId : Uuid) (holdingType : HoldingType) :
    HoldingRow :=
  ⟨holdingId, holdingType, details.purpose, details.declaredSecurity.signingModel⟩

/-- The other columns of a new holding. -/
def HoldingDetails.columns (details : HoldingDetails) (subtypeData : SubtypeData) :
    HoldingColumns where
  name := details.name
  description := details.description
  declaredCustodyModel := details.declaredSecurity.custodyModel
  declaredGeographicDistribution := details.declaredSecurity.geographicDistribution
  declaredInheritanceConfigured := details.declaredSecurity.inheritanceConfigured
  declaredSecurityNotes := details.declaredSecurity.notes
  subtypeData := subtypeData
  displayColor := details.displayColor
  displayOrder := details.displayOrder

/-- The fields of an update of a holding; absent ones stay as they are.  The last two are given as
    none to clear them. -/
structure HoldingPatch where
  name : Option String
  description : Option String
  purpose : Option Purpose
  declaredSecurity : Option SecurityClaim
  displayColor : Option String
  displayOrder : Option Int
  signingDeviceLabel : Option (Option String)
  recoverySetupNotes : Option (Option String)

/-- The `HoldingRow` after an update. -/
def HoldingPatch.row (patch : HoldingPatch) (row : HoldingRow) : HoldingRow :=
  { row with
    purpose := patch.purpose.getD row.purpose
    declaredSigningModel :=
      (patch.declaredSecurity.map SecurityClaim.signingModel).getD row.declaredSigningModel }

@[simp] theorem HoldingPatch.row_id (patch : HoldingPatch) (row : HoldingRow) :
    (patch.row row).id = row.id := rfl

/-- The other columns after an update. -/
def HoldingPatch.columns (patch : HoldingPatch) (columns : HoldingColumns) : HoldingColumns where
  name := patch.name.getD columns.name
  description := patch.description.or columns.description
  declaredCustodyModel :=
    (patch.declaredSecurity.map SecurityClaim.custodyModel).getD columns.declaredCustodyModel
  declaredGeographicDistribution :=
    (patch.declaredSecurity.map SecurityClaim.geographicDistribution).getD
      columns.declaredGeographicDistribution
  declaredInheritanceConfigured :=
    (patch.declaredSecurity.map SecurityClaim.inheritanceConfigured).getD
      columns.declaredInheritanceConfigured
  declaredSecurityNotes :=
    (patch.declaredSecurity.map SecurityClaim.notes).getD columns.declaredSecurityNotes
  subtypeData :=
    { columns.subtypeData with
      signingDeviceLabel := patch.signingDeviceLabel.getD columns.subtypeData.signingDeviceLabel
      recoverySetupNotes := patch.recoverySetupNotes.getD columns.subtypeData.recoverySetupNotes }
  displayColor := patch.displayColor.getD columns.displayColor
  displayOrder := patch.displayOrder.getD columns.displayOrder

namespace HoldingDatabase

/-- An id that no holding has and nothing refers to, as `uuid4` draws it. -/
def freshHoldingId (db : HoldingDatabase) : Uuid :=
  (db.holdings.rows.map HoldingRow.id ++ db.descriptors.rows.map DescriptorRow.holdingId ++
    db.custodialProviders.rows.map CustodialProviderRow.holdingId).foldr max 0 + 1

/-- Another content of the columns of one holding. -/
def withColumns (db : HoldingDatabase) (holdingId : Uuid) (columns : HoldingColumns) :
    HoldingDatabase :=
  { db with columns := Function.update db.columns holdingId columns }

end HoldingDatabase

namespace HoldingRepo

/-- `insert_row`. -/
def insertRow (db : HoldingDatabase) (row : HoldingRow) (columns : HoldingColumns) :
    HoldingDatabase :=
  { db.withColumns row.id columns with holdings := db.holdings.insert row }

/-- `get`. -/
def get (db : HoldingDatabase) (holdingId : Uuid) (descriptorIds : List Uuid)
    (custodialProviderId : Option Uuid) : Except PyError (Option LoadedHolding) :=
  match db.holdings.get? holdingId with
  | none => .ok none
  | some row => (rowToDomain row (db.columns holdingId) descriptorIds custodialProviderId).map some

/-- `update_basics`. -/
def updateBasics (db : HoldingDatabase) (holdingId : Uuid) (patch : HoldingPatch) :
    Except PyError (Option HoldingDatabase) :=
  match db.holdings.get? holdingId with
  | none => .ok none
  | some row =>
      if patch.signingDeviceLabel.isSome ∧ row.holdingType ≠ .strongbox then
        .error ⟨.valueError, "signing_device_label is only valid for Strongbox holdings"⟩
      else if patch.recoverySetupNotes.isSome ∧ row.holdingType ≠ .vault then
        .error ⟨.valueError, "recovery_setup_notes is only valid for Vault holdings"⟩
      else .ok (some
        { db.withColumns holdingId (patch.columns (db.columns holdingId)) with
          holdings := db.holdings.update holdingId patch.row patch.row_id })

theorem retyped_key (newType : HoldingType) (row : HoldingRow) :
    key { row with holdingType := newType } = key row := rfl

/-- `change_type`. -/
def changeType (db : HoldingDatabase) (holdingId : Uuid) (newType : HoldingType)
    (reason : Option String) : Option HoldingDatabase :=
  (db.holdings.get? holdingId).map fun row =>
    { db with
      holdings := db.holdings.update holdingId (fun row => { row with holdingType := newType })
        (retyped_key newType)
      typeChanges := db.typeChanges.insert
        ⟨db.typeChanges.freshKey, holdingId, row.holdingType, newType, reason⟩ }

end HoldingRepo

/-! ### Descriptors -/

namespace DescriptorRows

/-- `descriptor_ids_for_holding`. -/
def idsForHolding (db : HoldingDatabase) (holdingId : Uuid) : List Uuid :=
  (DescriptorRepo.listDescriptorsForHolding db.toDatabase holdingId).map DescriptorRow.id

/-- An id that no descriptor has and no address refers to, as `uuid4` draws it. -/
def freshId (db : HoldingDatabase) : Uuid :=
  (db.descriptors.rows.map DescriptorRow.id ++
    db.addresses.rows.map AddressRow.descriptorId).foldr max 0 + 1

/-- `insert_descriptor`: whatever constraint the flush violates is reported as a duplicate. -/
def insertDescriptor (db : HoldingDatabase) (row : DescriptorRow) :
    Except PyError HoldingDatabase :=
  if (db.descriptors.rows.any fun other => decide (other.expression = row.expression)) ∨
      db.holdings.get? row.holdingId = none then
    .error ⟨.descriptorAlreadyExists,
      "A descriptor with expression '" ++ row.expression ++ "' already exists"⟩
  else .ok { db with descriptors := db.descriptors.insert row }

/-- `insert_addresses` of one branch, in the order of their indices. -/
def insertAddresses (db : HoldingDatabase) (descriptorId : Uuid) (isChange : Bool)
    (derived : List String) : HoldingDatabase :=
  { db with addresses := registerAddresses db.addresses descriptorId isChange derived }

/-- `update_descriptor`: the row is written, then turned into the `Descriptor` that is returned. -/
def updateDescriptor (db : HoldingDatabase) (descriptorId : Uuid) (gapLimit : Option Nat) :
    Except PyError (Option HoldingDatabase) :=
  match db.descriptors.get? descriptorId with
  | none => .ok none
  | some row =>
      if gapLimit.getD row.gapLimit < 1 then
        .error ⟨.valueError, "Descriptor gap_limit must be >= 1"⟩
      else .ok (some
        { db with
          descriptors := db.descriptors.update descriptorId fun row =>
            { row with gapLimit := gapLimit.getD row.gapLimit } })

/-- `delete_descriptor`, committed: the foreign keys of addresses and of coins restrict it. -/
def deleteDescriptor (db : HoldingDatabase) (descriptorId : Uuid) :
    Except PyError (Option HoldingDatabase) :=
  match db.descriptors.get? descriptorId with
  | none => .ok none
  | some _ =>
      if db.addresses.rows.any fun row => decide (row.descriptorId = descriptorId) then
        .error ⟨.integrityError, "address_descriptor_id_fkey"⟩
      else if db.utxos.rows.any fun row => decide (row.descriptorId = descriptorId) then
        .error ⟨.integrityError, "utxo_descriptor_id_fkey"⟩
      else .ok (some
        { db with
          descriptors := db.descriptors.delete fun row => decide (row.id = descriptorId) })

end DescriptorRows

end TallyKeep
