/-
Module: TallyKeep.Proofs.HoldingBook
Layer: Proofs
Purpose: What the tables of holdings, descriptors and providers keep in every run, the rules of the
  `Holding` constructor in terms of them, and the rows each write leaves within these rules.
Trusted boundary: none
Main exports: EveryHoldingLoads, HoldingBook, Rebuilds, everyHoldingLoads_iff, SameOwners,
  created_kept, accountCreated_kept, updated_kept, typeChanged_kept, attached_kept
-/
import TallyKeep.Proofs.HoldingSteps

namespace TallyKeep

open Regex Relational Transition

variable {classes : CharClasses} {library : DescriptorLibrary} {db db' : HoldingDatabase}

/-! ### Loading -/

/-- Every row satisfies the rules of the constructor when it is rebuilt with the ids of its
    descriptors and of its provider, and neither call on holdings raises. -/
structure EveryHoldingLoads (db : HoldingDatabase) : Prop where
  rebuilt : ∀ row ∈ db.holdings.rows, ∃ provider holding,
    HoldingService.providerOf db row.id = .ok provider ∧
      rowToDomain row (db.columns row.id) (DescriptorRows.idsForHolding db row.id) provider =
        .ok holding
  loaded : ∀ holdingId, ∃ holding, HoldingService.getHolding db holdingId = .ok holding
  listed : ∀ holdingType purpose, ∃ holdings,
    HoldingService.listHoldings db holdingType purpose = .ok holdings

/-- What every run keeps: a provider belongs to an account and is its only one, a descriptor belongs
    to a holding of another type and has addresses, and every purse mode is one. -/
structure HoldingBook (db : HoldingDatabase) : Prop where
  oneProvider : ∀ row ∈ db.custodialProviders.rows, ∀ other ∈ db.custodialProviders.rows,
    row.holdingId = other.holdingId → row = other
  accounts : ∀ row ∈ db.custodialProviders.rows, ∃ holding,
    db.holdings.get? row.holdingId = some holding ∧ holding.holdingType = .account
  held : ∀ row ∈ db.descriptors.rows, ∃ holding,
    db.holdings.get? row.holdingId = some holding ∧ holding.holdingType ≠ .account
  addressed : ∀ row ∈ db.descriptors.rows, ∃ address ∈ db.addresses.rows,
    address.descriptorId = row.id
  readable : ∀ row ∈ db.holdings.rows, ∃ purseMode,
    (db.columns row.id).subtypeData.readPurseMode = .ok purseMode

/-! ### The rules of the constructor -/

/-- The relations and the signing model of a holding that its type allows. -/
def RelationsFit (row : HoldingRow) (descriptorIds : List Uuid) (provider : Option Uuid) : Prop :=
  if row.holdingType = .account then
    descriptorIds = [] ∧ provider ≠ none ∧ row.declaredSigningModel = .notApplicable
  else descriptorIds ≠ [] ∧ provider = none ∧ row.declaredSigningModel ≠ .notApplicable

/-- A holding is constructed exactly when its relations and its columns fit its type. -/
theorem constructHolding_ok_iff {row : HoldingRow} {columns : HoldingColumns}
    {purseMode : Option PurseMode} {descriptorIds : List Uuid} {provider : Option Uuid} :
    (∃ holding, constructHolding row columns purseMode descriptorIds provider = .ok holding) ↔
      RelationsFit row descriptorIds provider ∧ columns.check row.holdingType = .ok () := by
  have checked : (∃ holding : LoadedHolding,
      (((columns.check row.holdingType).map fun _ =>
        (⟨row, descriptorIds, provider⟩ : Holding)).map fun holding =>
          (⟨holding, columns, purseMode⟩ : LoadedHolding)) = .ok holding) ↔
        columns.check row.holdingType = .ok () := by
    cases columns.check row.holdingType <;> simp [Except.map]
  rw [constructHolding, Holding.postInit, RelationsFit]
  by_cases account : row.holdingType = .account
  · simp only [account, if_true] at checked ⊢
    by_cases described : descriptorIds = []
    · by_cases provided : provider = none
      · simp [described, provided, Except.map]
      · by_cases signing : row.declaredSigningModel = .notApplicable
        · simpa [described, provided, signing] using checked
        · simp [described, provided, signing, Except.map]
    · simp [described, Except.map]
  · simp only [if_neg account]
    by_cases described : descriptorIds = []
    · simp [described, Except.map]
    · by_cases provided : provider = none
      · by_cases signing : row.declaredSigningModel = .notApplicable
        · simp [described, provided, signing, Except.map]
        · simpa [described, provided, signing] using checked
      · simp [described, provided, Except.map]

/-- The provider of a holding that has one at most. -/
def providerId (db : HoldingDatabase) (holdingId : Uuid) : Option Uuid :=
  (db.custodialProviders.select fun row => decide (row.holdingId = holdingId)).head?.map
    CustodialProviderRow.id

/-- The row satisfies the rules with the ids that refer to it. -/
structure Rebuilds (db : HoldingDatabase) (row : HoldingRow) : Prop where
  relations : RelationsFit row (DescriptorRows.idsForHolding db row.id) (providerId db row.id)
  columns : (db.columns row.id).check row.holdingType = .ok ()

/-- A holding has no descriptor exactly when no row names it. -/
theorem idsForHolding_eq_nil_iff {holdingId : Uuid} :
    DescriptorRows.idsForHolding db holdingId = [] ↔
      ∀ row ∈ db.descriptors.rows, row.holdingId ≠ holdingId := by
  rw [DescriptorRows.idsForHolding, List.map_eq_nil_iff, DescriptorRepo.listDescriptorsForHolding,
    Table.select, List.filter_eq_nil_iff]
  simp only [decide_eq_true_eq, ne_eq]

/-- A holding has no provider exactly when no row names it. -/
theorem providerId_eq_none_iff {holdingId : Uuid} :
    providerId db holdingId = none ↔
      ∀ row ∈ db.custodialProviders.rows, row.holdingId ≠ holdingId := by
  rw [providerId, Option.map_eq_none_iff, List.head?_eq_none_iff, Table.select,
    List.filter_eq_nil_iff]
  simp only [decide_eq_true_eq, ne_eq]

/-- Only whether there are descriptors and whether there is a provider matters. -/
theorem RelationsFit.congr {row : HoldingRow} {descriptorIds descriptorIds' : List Uuid}
    {provider provider' : Option Uuid} (fit : RelationsFit row descriptorIds provider)
    (sameIds : descriptorIds' = [] ↔ descriptorIds = [])
    (sameProvider : provider' = none ↔ provider = none) :
    RelationsFit row descriptorIds' provider' := by
  rw [RelationsFit] at fit ⊢
  simp only [ne_eq, sameIds, sameProvider]
  exact fit

/-- Whether a row rebuilds depends on its columns and on whether it has descriptors and a provider.
    -/
theorem Rebuilds.congr {row : HoldingRow} (rebuilds : Rebuilds db row)
    (columns : db'.columns row.id = db.columns row.id)
    (ids : DescriptorRows.idsForHolding db' row.id = [] ↔
      DescriptorRows.idsForHolding db row.id = [])
    (provider : providerId db' row.id = none ↔ providerId db row.id = none) : Rebuilds db' row :=
  ⟨rebuilds.relations.congr ids provider, by rw [columns]; exact rebuilds.columns⟩

/-- Of at most one row the last is the first. -/
theorem getLast?_of_length_le {α : Type} {rows : List α} (few : rows.length ≤ 1) :
    rows.getLast? = rows.head? := by
  rcases rows with _ | ⟨row, _ | ⟨other, rest⟩⟩
  · rfl
  · rfl
  · simp at few

/-- A fresh id is the id of no stored row. -/
theorem id_ne_of_fresh {holdingId : Uuid} {row : HoldingRow}
    (fresh : db.holdings.get? holdingId = none) (stored : row ∈ db.holdings.rows) :
    row.id ≠ holdingId := by
  rintro rfl
  rw [show db.holdings.get? row.id = some row from Table.get?_of_mem stored] at fresh
  cases fresh

namespace HoldingBook

/-- At most one provider is selected. -/
theorem providers_length (book : HoldingBook db) (holdingId : Uuid) :
    (db.custodialProviders.select fun row => decide (row.holdingId = holdingId)).length ≤ 1 := by
  have nodup : (db.custodialProviders.select fun row =>
      decide (row.holdingId = holdingId)).Nodup :=
    (List.Nodup.of_map _ db.custodialProviders.keysNodup).filter _
  by_contra several
  obtain ⟨row, other, rest, rows⟩ : ∃ row other rest,
      (db.custodialProviders.select fun row => decide (row.holdingId = holdingId)) =
        row :: other :: rest := by
    rcases selected : db.custodialProviders.select fun row =>
        decide (row.holdingId = holdingId) with _ | ⟨row, _ | ⟨other, rest⟩⟩
    · simp [selected] at several
    · simp [selected] at several
    · exact ⟨row, other, rest, rfl⟩
  have first := Table.mem_select.mp (by rw [rows]; exact List.mem_cons_self)
  have second := Table.mem_select.mp (show other ∈ db.custodialProviders.select _ by
    rw [rows]; exact List.mem_cons_of_mem row List.mem_cons_self)
  rw [rows, List.nodup_cons] at nodup
  apply nodup.1
  rw [book.oneProvider row first.1 other second.1
    ((of_decide_eq_true first.2).trans (of_decide_eq_true second.2).symm)]
  exact List.mem_cons_self

/-- The provider of a holding is looked up without an error. -/
theorem providerOf (book : HoldingBook db) (holdingId : Uuid) :
    HoldingService.providerOf db holdingId = .ok (providerId db holdingId) := by
  rw [HoldingService.providerOf, scalarOneOrNone_of_length_le (book.providers_length holdingId)]
  rfl

/-- The listing finds the same provider as the loading of one holding. -/
theorem batchProviderOf (book : HoldingBook db) {row : HoldingRow} (stored : row ∈ db.holdings.rows) :
    HoldingService.batchProviderOf db row = providerId db row.id := by
  rw [HoldingService.batchProviderOf]
  split
  · rw [providerId, getLast?_of_length_le (book.providers_length row.id)]
  · rename_i notAccount
    symm
    rw [providerId_eq_none_iff]
    intro provider listed same
    obtain ⟨holding, found, account⟩ := book.accounts provider listed
    have own : db.holdings.get? row.id = some row := Table.get?_of_mem stored
    rw [same, own] at found
    cases found
    exact notAccount account

/-- A stored row is turned into a holding exactly when it rebuilds. -/
theorem rowToDomain_ok_iff (book : HoldingBook db) {row : HoldingRow}
    (stored : row ∈ db.holdings.rows) :
    (∃ holding, rowToDomain row (db.columns row.id) (DescriptorRows.idsForHolding db row.id)
      (providerId db row.id) = .ok holding) ↔ Rebuilds db row := by
  obtain ⟨purseMode, readable⟩ := book.readable row stored
  have reads : rowToDomain row (db.columns row.id) (DescriptorRows.idsForHolding db row.id)
      (providerId db row.id) = constructHolding row (db.columns row.id) purseMode
        (DescriptorRows.idsForHolding db row.id) (providerId db row.id) := by
    rw [rowToDomain, readable]
    rfl
  rw [reads, constructHolding_ok_iff]
  constructor
  · rintro ⟨relations, columns⟩
    exact ⟨relations, columns⟩
  · intro rebuilds
    exact ⟨rebuilds.relations, rebuilds.columns⟩

/-- No call raises exactly when every row satisfies the rules. -/
theorem everyHoldingLoads_iff (book : HoldingBook db) :
    EveryHoldingLoads db ↔ ∀ row ∈ db.holdings.rows, Rebuilds db row := by
  constructor
  · intro loads row stored
    obtain ⟨provider, holding, found, built⟩ := loads.rebuilt row stored
    rw [book.providerOf] at found
    cases found
    exact (book.rowToDomain_ok_iff stored).mp ⟨holding, built⟩
  · intro rebuilds
    refine ⟨?_, ?_, ?_⟩
    · intro row stored
      obtain ⟨holding, built⟩ := (book.rowToDomain_ok_iff stored).mpr (rebuilds row stored)
      exact ⟨_, holding, book.providerOf row.id, built⟩
    · intro holdingId
      rw [HoldingService.getHolding, book.providerOf]
      cases found : db.holdings.get? holdingId with
      | none =>
          refine ⟨none, ?_⟩
          change HoldingRepo.get _ _ _ _ = _
          rw [HoldingRepo.get, found]
      | some row =>
          obtain ⟨stored, rfl⟩ := Table.get?_eq_some_iff.mp found
          obtain ⟨holding, built⟩ := (book.rowToDomain_ok_iff stored).mpr (rebuilds row stored)
          refine ⟨some holding, ?_⟩
          change HoldingRepo.get _ _ _ _ = _
          rw [HoldingRepo.get, found]
          change (rowToDomain row (db.columns row.id) (DescriptorRows.idsForHolding db row.id)
            (providerId db row.id)).map some = _
          rw [built]
          rfl
    · intro holdingType purpose
      rw [HoldingService.listHoldings]
      have kept : ∀ row ∈ db.holdings.select (fun row =>
          (holdingType.all fun type => decide (row.holdingType = type)) &&
            purpose.all fun purpose => decide (row.purpose = purpose)),
          row ∈ db.holdings.rows := fun row selected => (Table.mem_select.mp selected).1
      generalize db.holdings.select _ = rows at kept
      induction rows with
      | nil => exact ⟨[], rfl⟩
      | cons row rest inductionHypothesis =>
          have stored := kept row List.mem_cons_self
          obtain ⟨holding, built⟩ := (book.rowToDomain_ok_iff stored).mpr (rebuilds row stored)
          obtain ⟨holdings, others⟩ := inductionHypothesis fun other listed =>
            kept other (List.mem_cons_of_mem row listed)
          rw [List.mapM_cons, book.batchProviderOf stored, built, others]
          exact ⟨holding :: holdings, rfl⟩

/-- A holding that was loaded satisfies the rules. -/
theorem rebuilds_of_getHolding (book : HoldingBook db) {holdingId : Uuid} {holding : LoadedHolding}
    (loaded : HoldingService.getHolding db holdingId = .ok (some holding)) {row : HoldingRow}
    (found : db.holdings.get? holdingId = some row) : Rebuilds db row := by
  obtain ⟨stored, rfl⟩ := Table.get?_eq_some_iff.mp found
  apply (book.rowToDomain_ok_iff stored).mp
  rw [HoldingService.getHolding, book.providerOf] at loaded
  change HoldingRepo.get _ _ _ _ = _ at loaded
  rw [HoldingRepo.get, found] at loaded
  obtain ⟨built, construction, -⟩ := map_ok_iff.mp loaded
  exact ⟨built, construction⟩

/-- A holding with descriptors is no account and has no provider. -/
theorem providerId_of_described (book : HoldingBook db) {row : HoldingRow}
    (stored : row ∈ db.holdings.rows)
    (described : DescriptorRows.idsForHolding db row.id ≠ []) :
    row.holdingType ≠ .account ∧ providerId db row.id = none := by
  have own : db.holdings.get? row.id = some row := Table.get?_of_mem stored
  rw [ne_eq, idsForHolding_eq_nil_iff] at described
  push Not at described
  obtain ⟨descriptor, listed, holder⟩ := described
  obtain ⟨holding, found, notAccount⟩ := book.held descriptor listed
  rw [holder, own] at found
  cases found
  refine ⟨notAccount, providerId_eq_none_iff.mpr ?_⟩
  intro provider provided same
  obtain ⟨account, accountFound, isAccount⟩ := book.accounts provider provided
  rw [same, own] at accountFound
  cases accountFound
  exact notAccount isAccount

/-! ### New rows -/

/-- A new row with readable columns is entered into the book. -/
theorem insertRow (book : HoldingBook db) {row : HoldingRow} {columns : HoldingColumns}
    {purseMode : Option PurseMode} (fresh : db.holdings.get? row.id = none)
    (readable : columns.subtypeData.readPurseMode = .ok purseMode) :
    HoldingBook (HoldingRepo.insertRow db row columns) := by
  have older : ∀ {holdingId : Uuid} {holding : HoldingRow},
      db.holdings.get? holdingId = some holding →
        (db.holdings.insert row).get? holdingId = some holding := by
    intro holdingId holding found
    rw [Table.get?_insert_of_fresh fresh, if_neg, found]
    rintro rfl
    rw [show db.holdings.get? row.id = some holding from found] at fresh
    cases fresh
  refine ⟨book.oneProvider, ?_, ?_, book.addressed, ?_⟩
  · intro provider stored
    obtain ⟨holding, found, account⟩ := book.accounts provider stored
    exact ⟨holding, older found, account⟩
  · intro descriptor stored
    obtain ⟨holding, found, notAccount⟩ := book.held descriptor stored
    exact ⟨holding, older found, notAccount⟩
  · intro other stored
    simp only [HoldingRepo.insertRow, Table.rows_insert_of_fresh fresh, List.mem_append,
      List.mem_singleton] at stored
    simp only [HoldingRepo.insertRow, HoldingDatabase.withColumns]
    rcases stored with before | rfl
    · rw [Function.update_of_ne (id_ne_of_fresh fresh before)]
      exact book.readable other before
    · rw [Function.update_self]
      exact ⟨purseMode, readable⟩

/-- An import for a holding that is no account. -/
theorem imported (book : HoldingBook db) {holdingId : Uuid} {target : HoldingRow}
    {spec : DescriptorInput} (stored : db.holdings.get? holdingId = some target)
    (notAccount : target.holdingType ≠ .account)
    (imported : Imported library db holdingId spec db') : HoldingBook db' := by
  obtain ⟨row, added, descriptors, ⟨addressType, rfl⟩, addresses, entries⟩ := imported.rows
  have frame := imported.frame
  have sameHoldings : db'.holdings = db.holdings := by rw [frame]
  have sameProviders : db'.custodialProviders = db.custodialProviders := by rw [frame]
  have sameColumns : db'.columns = db.columns := by rw [frame]
  refine ⟨?_, ?_, ?_, ?_, ?_⟩
  · rw [sameProviders]
    exact book.oneProvider
  · rw [sameProviders, sameHoldings]
    exact book.accounts
  · rw [sameHoldings, descriptors]
    intro descriptor listed
    rcases List.mem_append.mp listed with before | new
    · exact book.held descriptor before
    · rw [List.mem_singleton.mp new]
      exact ⟨target, stored, notAccount⟩
  · rw [descriptors, addresses]
    intro descriptor listed
    rcases List.mem_append.mp listed with before | new
    · obtain ⟨address, known, same⟩ := book.addressed descriptor before
      exact ⟨address, List.mem_append_left added known, same⟩
    · rw [List.mem_singleton.mp new]
      -- the external branch starts at index 0, which is below the gap limit
      have first : ((DescriptorRows.freshId db, false, 0),
          library.deriveAddress spec.expression spec.network 0) ∈
            added.map fun address => (address.slot, address.address) := by
        rw [entries, DescriptorRow.branches, List.flatMap_cons]
        refine List.mem_append_left _ (List.mem_map.mpr ⟨0, ?_, rfl⟩)
        exact List.mem_range.mpr imported.positive
      obtain ⟨address, new, same⟩ := List.mem_map.mp first
      exact ⟨address, List.mem_append_right _ new,
        congrArg (fun entry => entry.1.1) same⟩
  · rw [sameHoldings, sameColumns]
    exact book.readable

end HoldingBook

/-! ### What each write leaves -/

/-- Every row satisfies the rules. -/
def AllRebuild (db : HoldingDatabase) : Prop := ∀ row ∈ db.holdings.rows, Rebuilds db row

/-- The same holdings with the same owners of descriptors and of providers. -/
structure SameOwners (db db' : HoldingDatabase) : Prop where
  holdings : db'.holdings = db.holdings
  providers : db'.custodialProviders = db.custodialProviders
  owners : db'.descriptors.rows.map (fun row => (row.id, row.holdingId)) =
    db.descriptors.rows.map fun row => (row.id, row.holdingId)
  addresses : ∀ address ∈ db.addresses.rows, ∃ address' ∈ db'.addresses.rows,
    address'.descriptorId = address.descriptorId

namespace SameOwners

/-- A descriptor row of after had its owner before. -/
theorem owner (same : SameOwners db db') {row : DescriptorRow}
    (stored : row ∈ db'.descriptors.rows) :
    ∃ before ∈ db.descriptors.rows, before.id = row.id ∧ before.holdingId = row.holdingId := by
  have listed := List.mem_map_of_mem (f := fun row : DescriptorRow => (row.id, row.holdingId)) stored
  rw [same.owners] at listed
  obtain ⟨before, known, equal⟩ := List.mem_map.mp listed
  exact ⟨before, known, congrArg Prod.fst equal, congrArg Prod.snd equal⟩

/-- The same owners leave which holdings have descriptors. -/
theorem ids (same : SameOwners db db') (holdingId : Uuid) :
    DescriptorRows.idsForHolding db' holdingId = [] ↔
      DescriptorRows.idsForHolding db holdingId = [] := by
  have owners := congrArg (List.map Prod.snd) same.owners
  rw [List.map_map, List.map_map] at owners
  have free : ∀ rows : List DescriptorRow,
      (∀ row ∈ rows, row.holdingId ≠ holdingId) ↔ holdingId ∉ rows.map DescriptorRow.holdingId := by
    intro rows
    rw [List.mem_map]
    constructor
    · rintro others ⟨row, stored, own⟩
      exact others row stored own
    · intro absent row stored own
      exact absent ⟨row, stored, own⟩
  rw [idsForHolding_eq_nil_iff, idsForHolding_eq_nil_iff, free, free]
  exact Iff.of_eq (congrArg (holdingId ∉ ·) owners)

/-- The same owners leave the provider of every holding. -/
theorem provider (same : SameOwners db db') (holdingId : Uuid) :
    providerId db' holdingId = providerId db holdingId := by
  rw [providerId, providerId, same.providers]

/-- The same owners keep the book, if the columns stay readable. -/
theorem book (same : SameOwners db db') (book : HoldingBook db)
    (readable : ∀ row ∈ db.holdings.rows, ∃ purseMode,
      (db'.columns row.id).subtypeData.readPurseMode = .ok purseMode) : HoldingBook db' := by
  refine ⟨?_, ?_, ?_, ?_, ?_⟩
  · rw [same.providers]
    exact book.oneProvider
  · rw [same.providers, same.holdings]
    exact book.accounts
  · intro row stored
    obtain ⟨before, known, -, holder⟩ := same.owner stored
    rw [same.holdings, ← holder]
    exact book.held before known
  · intro row stored
    obtain ⟨before, known, sameId, -⟩ := same.owner stored
    obtain ⟨address, listed, own⟩ := book.addressed before known
    obtain ⟨address', listed', equal⟩ := same.addresses address listed
    exact ⟨address', listed', by rw [equal, own, sameId]⟩
  · rw [same.holdings]
    exact readable

/-- The same owners keep that a row rebuilds. -/
theorem rebuilds (same : SameOwners db db') {row : HoldingRow}
    (columns : db'.columns row.id = db.columns row.id) (rebuilds : Rebuilds db row) :
    Rebuilds db' row :=
  rebuilds.congr columns (same.ids row.id) (by rw [same.provider row.id])

/-- With the same columns as well, nothing changes. -/
theorem book_and_rebuilds (same : SameOwners db db') (columns : db'.columns = db.columns)
    (book : HoldingBook db) :
    HoldingBook db' ∧ (AllRebuild db → AllRebuild db') := by
  refine ⟨same.book book (by rw [columns]; exact book.readable), ?_⟩
  intro rebuilds row stored
  rw [same.holdings] at stored
  exact same.rebuilds (by rw [columns]) (rebuilds row stored)

end SameOwners

/-- A rewrite of one descriptor that keeps its id and holder keeps all owners. -/
theorem owners_update (descriptors : Table DescriptorRow) (descriptorId : Uuid)
    (f : DescriptorRow → DescriptorRow) (keeps : ∀ row, (f row).id = row.id)
    (holder : ∀ row, (f row).holdingId = row.holdingId) :
    (descriptors.update descriptorId f keeps).rows.map (fun row => (row.id, row.holdingId)) =
      descriptors.rows.map fun row => (row.id, row.holdingId) := by
  rw [Table.update, Table.rows_updateAll, List.map_map]
  apply List.map_congr_left
  intro row _
  simp only [Function.comp_apply]
  split
  · rw [keeps, holder]
  · rfl

/-- A descriptor is rewritten but for its id and its holding. -/
theorem sameOwners_update (db : HoldingDatabase) (columns : Uuid → HoldingColumns)
    (descriptorId : Uuid) (f : DescriptorRow → DescriptorRow) (keeps : ∀ row, (f row).id = row.id)
    (holder : ∀ row, (f row).holdingId = row.holdingId) :
    SameOwners db
      { db with
        columns := columns
        descriptors := db.descriptors.update descriptorId f keeps } :=
  ⟨rfl, rfl, owners_update db.descriptors descriptorId f keeps holder,
    fun address stored => ⟨address, stored, rfl⟩⟩

/-- A scan leaves the owners. -/
theorem ScanWrote.sameOwners (wrote : ScanWrote db db') : SameOwners db db' := by
  obtain ⟨descriptorId, height, descriptors⟩ := wrote.descriptors
  refine ⟨wrote.holdings, by rw [wrote.frame], ?_, ?_⟩
  · rw [descriptors]
    exact owners_update db.descriptors descriptorId
      (fun row => { row with lastScannedHeight := max row.lastScannedHeight height })
      (fun _ => rfl) fun _ => rfl
  · intro address stored
    have listed := List.mem_map_of_mem (f := AddressRow.fixed) stored
    rw [← wrote.addresses] at listed
    obtain ⟨address', stored', same⟩ := List.mem_map.mp listed
    have sameDescriptor := congrArg AddressRow.descriptorId same
    exact ⟨address', stored', sameDescriptor⟩

/-! ### Creation -/

/-- The state of a creation after some of its imports: the new row has the descriptors so far, and
    no other holding has any of them. -/
structure CreatedSoFar (db inserted : HoldingDatabase) (holdingId : Uuid) (db' : HoldingDatabase)
    (descriptorIds : List Uuid) : Prop where
  book : HoldingBook db'
  holdings : db'.holdings = inserted.holdings
  columns : db'.columns = inserted.columns
  providers : db'.custodialProviders = db.custodialProviders
  descriptors : ∃ added, db'.descriptors.rows = db.descriptors.rows ++ added ∧
    added.map DescriptorRow.id = descriptorIds ∧ ∀ row ∈ added, row.holdingId = holdingId

/-- One import more keeps what was created so far. -/
theorem CreatedSoFar.imported {inserted before after : HoldingDatabase} {holdingId : Uuid}
    {descriptorIds : List Uuid} {row : HoldingRow} {spec : DescriptorInput}
    (sofar : CreatedSoFar db inserted holdingId before descriptorIds)
    (stored : inserted.holdings.get? holdingId = some row) (notAccount : row.holdingType ≠ .account)
    (imported : Imported library before holdingId spec after) :
    CreatedSoFar db inserted holdingId after (descriptorIds ++ [DescriptorRows.freshId before]) := by
  obtain ⟨added, rows, listed, owned⟩ := sofar.descriptors
  obtain ⟨descriptor, addresses, newRows, ⟨addressType, same⟩, -, -⟩ := imported.rows
  have frame := imported.frame
  rw [← sofar.holdings] at stored
  refine ⟨sofar.book.imported stored notAccount imported, ?_, ?_, ?_, added ++ [descriptor], ?_, ?_,
    ?_⟩
  · rw [frame]
    exact sofar.holdings
  · rw [frame]
    exact sofar.columns
  · rw [frame]
    exact sofar.providers
  · rw [newRows, rows, List.append_assoc]
  · rw [List.map_append, listed, same]
    rfl
  · intro other member
    rcases List.mem_append.mp member with before | new
    · exact owned other before
    · rw [List.mem_singleton.mp new, same]
      rfl

/-- A created holding is entered into the book. -/
theorem created_kept {holdingType : HoldingType} {details : HoldingDetails}
    {specs : List DescriptorInput} {subtypeData : SubtypeData} {purseMode : Option PurseMode}
    {allowMultisig : Bool} {holding : LoadedHolding} (book : HoldingBook db)
    (notAccount : holdingType ≠ .account) (readable : subtypeData.readPurseMode = .ok purseMode)
    (run : createHoldingWithDescriptors classes library db holdingType details specs subtypeData
      purseMode allowMultisig = .ok (db', holding)) :
    HoldingBook db' ∧ (AllRebuild db → AllRebuild db') := by
  obtain ⟨descriptorIds, imports, construction⟩ := createHoldingWithDescriptors_ok run
  obtain ⟨fresh, noDescriptor, noProvider⟩ := freshHoldingId_fresh db
  generalize db.freshHoldingId = holdingId at *
  let row := details.row holdingId holdingType
  let inserted := HoldingRepo.insertRow db row (details.columns subtypeData)
  have freshRow : db.holdings.get? (key row) = none := fresh
  have insertedRow : inserted.holdings.get? holdingId = some row :=
    (Table.get?_insert_of_fresh freshRow (key row)).trans (if_pos rfl)
  have insertedRows : inserted.holdings.rows = db.holdings.rows ++ [row] :=
    Table.rows_insert_of_fresh freshRow
  have created : CreatedSoFar db inserted holdingId db' descriptorIds := by
    apply importDescriptors_invariant (I := CreatedSoFar db inserted holdingId) _ imports
    · exact ⟨book.insertRow fresh readable, rfl, rfl, rfl, [], (List.append_nil _).symm, rfl,
        by simp⟩
    · intro before ids spec _ after sofar imported
      exact sofar.imported insertedRow notAccount imported
  refine ⟨created.book, fun rebuilds other stored => ?_⟩
  obtain ⟨added, rows, listed, owned⟩ := created.descriptors
  have sameProvider : ∀ id, providerId db' id = providerId db id := by
    intro id
    rw [providerId, providerId, created.providers]
  rw [created.holdings, insertedRows, List.mem_append, List.mem_singleton] at stored
  rcases stored with before | rfl
  · have other_ne := id_ne_of_fresh fresh before
    apply (rebuilds other before).congr
    · rw [created.columns]
      exact Function.update_of_ne other_ne _ _
    · rw [idsForHolding_eq_nil_iff, idsForHolding_eq_nil_iff, rows]
      constructor
      · intro free descriptor member
        exact free descriptor (List.mem_append_left added member)
      · intro free descriptor member
        rcases List.mem_append.mp member with older | new
        · exact free descriptor older
        · rw [owned descriptor new]
          exact other_ne.symm
    · rw [sameProvider]
  · obtain ⟨relations, columns⟩ := constructHolding_ok_iff.mp ⟨holding, construction⟩
    refine ⟨relations.congr ?_ ?_, ?_⟩
    · rw [idsForHolding_eq_nil_iff, rows, ← listed, List.map_eq_nil_iff]
      constructor
      · intro free
        apply List.eq_nil_iff_forall_not_mem.mpr
        intro descriptor member
        exact free descriptor (List.mem_append_right _ member) (owned descriptor member)
      · rintro rfl descriptor member
        rw [List.append_nil] at member
        exact noDescriptor descriptor member
    · rw [sameProvider, providerId_eq_none_iff]
      exact iff_of_true noProvider rfl
    · rw [created.columns]
      have own : inserted.columns row.id = details.columns subtypeData := Function.update_self _ _ _
      rw [own]
      exact columns

/-- A created account is entered into the book. -/
theorem accountCreated_kept {details : HoldingDetails} {provider : AccountProvider}
    {holding : LoadedHolding} (book : HoldingBook db)
    (run : createAccountRows db details provider = .ok (db', holding)) :
    HoldingBook db' ∧ (AllRebuild db → AllRebuild db') := by
  obtain ⟨rfl, construction⟩ := createAccountRows_ok run
  rw [withAccount]
  obtain ⟨fresh, noDescriptor, noProvider⟩ := freshHoldingId_fresh db
  generalize db.freshHoldingId = holdingId at *
  let row := details.row holdingId .account
  have freshRow : db.holdings.get? (key row) = none := fresh
  have freshProvider : db.custodialProviders.get?
      (key (provider.row db.custodialProviders.freshKey holdingId)) = none :=
    Table.get?_freshKey db.custodialProviders
  have providers : (db.custodialProviders.insert
      (provider.row db.custodialProviders.freshKey holdingId)).rows =
        db.custodialProviders.rows ++ [provider.row db.custodialProviders.freshKey holdingId] :=
    Table.rows_insert_of_fresh freshProvider
  have inserted : HoldingBook (HoldingRepo.insertRow db row (details.columns SubtypeData.empty)) :=
    book.insertRow fresh rfl
  constructor
  · refine ⟨?_, ?_, inserted.held, inserted.addressed, inserted.readable⟩
    · intro first firstStored second secondStored same
      simp only [providers, List.mem_append, List.mem_singleton] at firstStored secondStored
      rcases firstStored with before | rfl
      · rcases secondStored with other | rfl
        · exact book.oneProvider first before second other same
        · exact absurd same (noProvider first before)
      · rcases secondStored with other | rfl
        · exact absurd same.symm (noProvider second other)
        · rfl
    · intro other stored
      simp only [providers, List.mem_append, List.mem_singleton] at stored
      rcases stored with before | rfl
      · exact inserted.accounts other before
      · exact ⟨row, (Table.get?_insert_of_fresh freshRow (key row)).trans (if_pos rfl), rfl⟩
  · intro rebuilds other stored
    have rows : (db.holdings.insert row).rows = db.holdings.rows ++ [row] :=
      Table.rows_insert_of_fresh freshRow
    simp only [HoldingRepo.insertRow, HoldingDatabase.withColumns] at stored
    rw [rows, List.mem_append, List.mem_singleton] at stored
    rcases stored with before | rfl
    · have other_ne := id_ne_of_fresh fresh before
      apply (rebuilds other before).congr
      · exact Function.update_of_ne other_ne _ _
      · rfl
      · rw [providerId_eq_none_iff, providerId_eq_none_iff]
        simp only [providers, List.mem_append, List.mem_singleton]
        constructor
        · intro free first listed
          exact free first (.inl listed)
        · rintro free first (listed | rfl)
          · exact free first listed
          · exact other_ne.symm
    · obtain ⟨relations, columns⟩ := constructHolding_ok_iff.mp ⟨holding, construction⟩
      refine ⟨relations.congr ?_ ?_, ?_⟩
      · rw [idsForHolding_eq_nil_iff]
        exact iff_of_true noDescriptor rfl
      · rw [providerId_eq_none_iff]
        refine iff_of_false ?_ (by simp)
        intro free
        refine free (provider.row db.custodialProviders.freshKey holdingId) ?_ rfl
        simp only [providers, List.mem_append, List.mem_singleton, or_true]
      · change (Function.update db.columns row.id (details.columns SubtypeData.empty) row.id).check
          row.holdingType = _
        rw [Function.update_self]
        exact columns

/-! ### Changes -/

/-- One holding is rewritten, to a type that may stand where the old one stood. -/
theorem HoldingBook.updateHolding (book : HoldingBook db) {holdingId : Uuid}
    {f : HoldingRow → HoldingRow} {keeps : ∀ row, (f row).id = row.id}
    {columns : Uuid → HoldingColumns} {typeChanges : Table HoldingTypeChangeLogRow}
    (sameKind : ∀ row, db.holdings.get? holdingId = some row →
      ((f row).holdingType = .account ↔ row.holdingType = .account))
    (readable : ∀ row ∈ db.holdings.rows, ∃ purseMode,
      (columns row.id).subtypeData.readPurseMode = .ok purseMode) :
    HoldingBook
      { db with
        holdings := db.holdings.update holdingId f keeps
        columns := columns
        typeChanges := typeChanges } := by
  have kinds : ∀ {id : Uuid} {row : HoldingRow}, db.holdings.get? id = some row →
      ∃ row', (db.holdings.update holdingId f keeps).get? id = some row' ∧
        (row'.holdingType = .account ↔ row.holdingType = .account) := by
    intro id row found
    rw [Table.get?_update]
    split
    · rename_i same
      rw [same] at found
      rw [found]
      exact ⟨f row, rfl, sameKind row found⟩
    · exact ⟨row, found, Iff.rfl⟩
  refine ⟨book.oneProvider, ?_, ?_, book.addressed, ?_⟩
  · intro provider stored
    obtain ⟨row, found, account⟩ := book.accounts provider stored
    obtain ⟨row', found', same⟩ := kinds found
    exact ⟨row', found', same.mpr account⟩
  · intro descriptor stored
    obtain ⟨row, found, notAccount⟩ := book.held descriptor stored
    obtain ⟨row', found', same⟩ := kinds found
    exact ⟨row', found', fun account => notAccount (same.mp account)⟩
  · intro row stored
    obtain ⟨before, known, rfl⟩ := List.mem_map.mp stored
    have sameId : (if key before = holdingId then f before else before).id = before.id := by
      split
      · exact keeps before
      · rfl
    rw [sameId]
    exact readable before known

/-- A patch of a holding keeps the book. -/
theorem updated_kept {holdingId : Uuid} {patch : HoldingPatch} {holding : LoadedHolding}
    (book : HoldingBook db)
    (run : HoldingService.updateHolding db holdingId patch = .ok (some (db', holding))) :
    HoldingBook db' ∧ (AllRebuild db → AllRebuild db') := by
  obtain ⟨⟨row, found⟩, rfl, load⟩ := updateHolding_ok run
  have readable : ∀ row ∈ db.holdings.rows, ∃ purseMode,
      ((withPatch db holdingId patch).columns row.id).subtypeData.readPurseMode = .ok purseMode := by
    intro other stored
    simp only [withPatch, HoldingDatabase.withColumns]
    by_cases same : other.id = holdingId
    · obtain ⟨purseMode, reads⟩ := book.readable other stored
      rw [same] at reads ⊢
      rw [Function.update_self]
      exact ⟨purseMode, reads⟩
    · rw [Function.update_of_ne same]
      exact book.readable other stored
  have after : HoldingBook (withPatch db holdingId patch) :=
    book.updateHolding (fun _ _ => Iff.rfl) readable
  refine ⟨after, fun rebuilds other stored => ?_⟩
  obtain ⟨before, known, rfl⟩ := List.mem_map.mp stored
  by_cases own : key before = holdingId
  · rw [if_pos own]
    apply after.rebuilds_of_getHolding load
    have again : db.holdings.get? (key before) = some before := Table.get?_of_mem known
    rw [own] at again
    simp only [withPatch]
    rw [Table.get?_update, if_pos rfl, again]
    rfl
  · rw [if_neg own]
    exact (rebuilds before known).congr (Function.update_of_ne own _ _) Iff.rfl Iff.rfl

/-- A change of type keeps the book. -/
theorem typeChanged_kept {holdingId : Uuid} {newType : HoldingType} {reason : Option String}
    {holding : LoadedHolding} (book : HoldingBook db)
    (run : HoldingService.changeHoldingType db holdingId newType reason =
      .ok (some (db', holding))) :
    HoldingBook db' ∧ (AllRebuild db → AllRebuild db') := by
  obtain ⟨row, stored, rfl, newKind, described, rfl, built, rebuilt⟩ := changeHoldingType_ok run
  obtain ⟨oldKind, noProvider⟩ := book.providerId_of_described stored described
  have own : db.holdings.get? row.id = some row := Table.get?_of_mem stored
  constructor
  · apply book.updateHolding _ book.readable
    intro other found
    rw [own] at found
    cases found
    exact iff_of_false newKind oldKind
  · intro rebuilds other listed
    obtain ⟨before, known, rfl⟩ := List.mem_map.mp listed
    by_cases same : key before = row.id
    · have only : before = row := Table.eq_of_key_eq known stored same
      subst only
      rw [if_pos same]
      obtain ⟨purseMode, reads⟩ := book.readable before stored
      rw [rowToDomain, reads] at rebuilt
      obtain ⟨relations, columns⟩ := constructHolding_ok_iff.mp ⟨built, rebuilt⟩
      refine ⟨relations.congr Iff.rfl ?_, columns⟩
      exact iff_of_true noProvider rfl
    · rw [if_neg same]
      exact (rebuilds before known).congr rfl Iff.rfl Iff.rfl

/-- An attached descriptor keeps the book. -/
theorem attached_kept {holdingId : Uuid} {target : HoldingRow} {spec : DescriptorInput}
    (book : HoldingBook db) (stored : db.holdings.get? holdingId = some target)
    (notAccount : target.holdingType ≠ .account)
    (imported : Imported library db holdingId spec db') :
    HoldingBook db' ∧ (AllRebuild db → AllRebuild db') := by
  refine ⟨book.imported stored notAccount imported, fun rebuilds row listed => ?_⟩
  obtain ⟨descriptor, added, rows, ⟨addressType, holder⟩, -, -⟩ := imported.rows
  have owner : descriptor.holdingId = holdingId := congrArg DescriptorRow.holdingId holder
  have frame := imported.frame
  have sameHoldings : db'.holdings = db.holdings := by rw [frame]
  have sameColumns : db'.columns = db.columns := by rw [frame]
  have sameProvider : providerId db' row.id = providerId db row.id := by
    rw [providerId, providerId, frame]
  rw [sameHoldings] at listed
  apply (rebuilds row listed).congr (by rw [sameColumns]) _ (by rw [sameProvider])
  rw [idsForHolding_eq_nil_iff, idsForHolding_eq_nil_iff, rows]
  constructor
  · intro free other member
    exact free other (List.mem_append_left _ member)
  · intro free other member
    rcases List.mem_append.mp member with before | new
    · exact free other before
    · rw [List.mem_singleton.mp new, owner]
      rintro rfl
      have own : db.holdings.get? row.id = some row := Table.get?_of_mem listed
      rw [own] at stored
      rw [← Option.some.inj stored] at notAccount
      -- the target is no account, so it had a descriptor before
      have relations := (rebuilds row listed).relations
      rw [RelationsFit, if_neg notAccount] at relations
      exact relations.1 (idsForHolding_eq_nil_iff.mpr free)

end TallyKeep
