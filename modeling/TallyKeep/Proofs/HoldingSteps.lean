/-
Module: TallyKeep.Proofs.HoldingSteps
Layer: Proofs
Purpose: What the operations on holdings and descriptors write: an inversion for every import, every
  fix and every operation as a whole.
Trusted boundary: none
Main exports: withDescriptor, Imported, importDescriptors_invariant, FixApplies, withFix,
  HoldingOperation.fix, applyFixMetadata_ok, ScanWrote, HoldingWrite, holdingWrite_of_step
-/
import TallyKeep.HoldingSystem
import TallyKeep.Proofs.CredentialRotation
import TallyKeep.Proofs.FreshAddress

namespace TallyKeep

open Regex Relational Transition

variable {classes : CharClasses} {library : DescriptorLibrary} {db db' : HoldingDatabase}
  {holdingId : Uuid}

theorem map_ok_iff {α β : Type} {x : Except PyError α} {f : α → β} {b : β} :
    x.map f = .ok b ↔ ∃ a, x = .ok a ∧ f a = b := by
  cases x with
  | error error => simp [Except.map]
  | ok a => simp [Except.map]

/-! ### Imports -/

/-- The addresses an expression derives at the first indices. -/
def derivedAddresses (library : DescriptorLibrary) (expression : String) (network : Network)
    (count : Nat) : List String :=
  (List.range count).map (library.deriveAddress expression network)

/-- The rows of all branches of a new descriptor. -/
def registerBranches (library : DescriptorLibrary) (addresses : Table AddressRow)
    (row : DescriptorRow) : Table AddressRow :=
  row.branches.foldl
    (fun addresses branch =>
      registerAddresses addresses row.id branch.1
        (derivedAddresses library branch.2 row.network row.gapLimit))
    addresses

/-- The tables after an import: the row of the descriptor, and the addresses of its branches. -/
def withDescriptor (library : DescriptorLibrary) (db : HoldingDatabase) (row : DescriptorRow) :
    HoldingDatabase :=
  { db with
    descriptors := db.descriptors.insert row
    addresses := registerBranches library db.addresses row }

/-- An import of a descriptor that is carried out, and the tables after it. -/
structure Imported (library : DescriptorLibrary) (db : HoldingDatabase) (holdingId : Uuid)
    (spec : DescriptorInput) (db' : HoldingDatabase) : Prop where
  positive : 1 ≤ spec.gapLimit
  held : (db.holdings.get? holdingId).isSome
  unused : ∀ row ∈ db.descriptors.rows, row.expression ≠ spec.expression
  tables : ∃ addressType,
    db' = withDescriptor library db (spec.row (DescriptorRows.freshId db) holdingId addressType)

/-! ### Fresh ids -/

theorem freshHoldingId_fresh (db : HoldingDatabase) :
    db.holdings.get? db.freshHoldingId = none ∧
      (∀ row ∈ db.descriptors.rows, row.holdingId ≠ db.freshHoldingId) ∧
      ∀ row ∈ db.custodialProviders.rows, row.holdingId ≠ db.freshHoldingId := by
  have above : ∀ id ∈ db.holdings.rows.map HoldingRow.id ++
      db.descriptors.rows.map DescriptorRow.holdingId ++
        db.custodialProviders.rows.map CustodialProviderRow.holdingId,
      id ≠ db.freshHoldingId := by
    intro id listed same
    have bounded := Table.le_foldr_max listed
    rw [same, HoldingDatabase.freshHoldingId] at bounded
    omega
  simp only [List.mem_append] at above
  refine ⟨?_, ?_, ?_⟩
  · rw [Table.get?_eq_none_iff]
    intro listed
    exact above _ (.inl (.inl listed)) rfl
  · intro row stored
    exact above _ (.inl (.inr (List.mem_map_of_mem stored)))
  · intro row stored
    exact above _ (.inr (List.mem_map_of_mem stored))

theorem freshDescriptorId_fresh (db : HoldingDatabase) :
    db.descriptors.get? (DescriptorRows.freshId db) = none ∧
      ∀ row ∈ db.addresses.rows, row.descriptorId ≠ DescriptorRows.freshId db := by
  have above : ∀ id ∈ db.descriptors.rows.map DescriptorRow.id ++
      db.addresses.rows.map AddressRow.descriptorId, id ≠ DescriptorRows.freshId db := by
    intro id listed same
    have bounded := Table.le_foldr_max listed
    rw [same, DescriptorRows.freshId] at bounded
    omega
  simp only [List.mem_append] at above
  constructor
  · rw [Table.get?_eq_none_iff]
    intro listed
    exact above _ (.inl listed) rfl
  · intro row stored
    exact above _ (.inr (List.mem_map_of_mem stored))

/-! ### What an import writes -/

/-- The places and addresses registered for one branch of a descriptor. -/
def registered (library : DescriptorLibrary) (row : DescriptorRow) (branch : Bool × String) :
    List ((Uuid × Bool × Nat) × String) :=
  (List.range row.gapLimit).map fun index =>
    ((row.id, branch.1, index), library.deriveAddress branch.2 row.network index)

/-- Each branch gets a row for every index below the gap limit, with the address derived there. -/
theorem rows_registerBranches (library : DescriptorLibrary) (addresses : Table AddressRow)
    (row : DescriptorRow) :
    ∃ added, (registerBranches library addresses row).rows = addresses.rows ++ added ∧
      added.map (fun address => (address.slot, address.address)) =
        row.branches.flatMap (registered library row) := by
  rw [registerBranches]
  generalize row.branches = branches
  induction branches generalizing addresses with
  | nil => exact ⟨[], by simp, rfl⟩
  | cons branch rest inductionHypothesis =>
      obtain ⟨first, firstRows, firstEntries, -⟩ := entries_registerAddresses addresses row.id
        branch.1 (derivedAddresses library branch.2 row.network row.gapLimit)
      obtain ⟨later, laterRows, laterEntries⟩ := inductionHypothesis
        (registerAddresses addresses row.id branch.1
          (derivedAddresses library branch.2 row.network row.gapLimit))
      refine ⟨first ++ later, ?_, ?_⟩
      · rw [List.foldl_cons, laterRows, firstRows, List.append_assoc]
      · rw [List.map_append, firstEntries, laterEntries, List.flatMap_cons]
        congr 1
        apply List.ext_getElem
        · simp [derivedAddresses, registered]
        · intro index inFirst inSecond
          simp [derivedAddresses, registered]

/-- An import appends one descriptor and the addresses of its branches. -/
theorem Imported.rows {spec : DescriptorInput}
    (imported : Imported library db holdingId spec db') :
    ∃ row added, db'.descriptors.rows = db.descriptors.rows ++ [row] ∧
      (∃ addressType, row = spec.row (DescriptorRows.freshId db) holdingId addressType) ∧
      db'.addresses.rows = db.addresses.rows ++ added ∧
      added.map (fun address => (address.slot, address.address)) =
        row.branches.flatMap (registered library row) := by
  obtain ⟨addressType, rfl⟩ := imported.tables
  obtain ⟨added, rows, entries⟩ := rows_registerBranches library db.addresses
    (spec.row (DescriptorRows.freshId db) holdingId addressType)
  exact ⟨_, added, Table.rows_insert_of_fresh (freshDescriptorId_fresh db).1, ⟨addressType, rfl⟩,
    rows, entries⟩

/-- An import touches nothing but the descriptors and the addresses. -/
theorem Imported.frame {spec : DescriptorInput}
    (imported : Imported library db holdingId spec db') :
    db' = { db with descriptors := db'.descriptors, addresses := db'.addresses } := by
  obtain ⟨addressType, rfl⟩ := imported.tables
  rfl

theorem deriveAddresses_ok {expression : String} {network : Network} {count : Nat}
    {allowMultisig : Bool} {derived : List (String × Nat)}
    (run : deriveAddresses classes library expression network count allowMultisig = .ok derived) :
    derived.map Prod.fst = derivedAddresses library expression network count := by
  rw [deriveAddresses, map_ok_iff] at run
  obtain ⟨parsed, -, rfl⟩ := run
  rw [List.map_map]
  rfl

theorem insertDescriptor_ok {row : DescriptorRow}
    (run : DescriptorRows.insertDescriptor db row = .ok db') :
    ((∀ other ∈ db.descriptors.rows, other.expression ≠ row.expression) ∧
      (db.holdings.get? row.holdingId).isSome) ∧
        db' = { db with descriptors := db.descriptors.insert row } := by
  rw [DescriptorRows.insertDescriptor] at run
  split at run
  · cases run
  · rename_i admitted
    cases run
    rw [not_or, List.any_eq_true] at admitted
    refine ⟨⟨?_, Option.isSome_iff_ne_none.mpr admitted.2⟩, rfl⟩
    intro other stored same
    exact admitted.1 ⟨other, stored, decide_eq_true same⟩

theorem writeDescriptor_ok {spec : DescriptorInput} {addressType : AddressType}
    {allowMultisig : Bool} {descriptorId : Uuid}
    (run : writeDescriptor classes library db holdingId spec addressType allowMultisig =
      .ok (db', descriptorId)) :
    Imported library db holdingId spec db' ∧ descriptorId = DescriptorRows.freshId db := by
  rw [writeDescriptor] at run
  split at run
  · cases run
  · rename_i positive
    rw [bind_ok_iff] at run
    obtain ⟨inserted, insertion, run⟩ := run
    obtain ⟨⟨unused, held⟩, rfl⟩ := insertDescriptor_ok insertion
    rw [bind_ok_iff] at run
    obtain ⟨external, derivation, run⟩ := run
    have externalAddresses := deriveAddresses_ok derivation
    cases change : spec.changeExpression with
    | none =>
        simp only [change] at run
        cases run
        refine ⟨⟨by omega, held, unused, addressType, ?_⟩, rfl⟩
        simp only [withDescriptor, registerBranches, DescriptorRow.branches, DescriptorInput.row,
          change, DescriptorRows.insertAddresses, externalAddresses, List.foldl_cons,
          List.foldl_nil]
    | some changeExpression =>
        simp only [change] at run
        rw [bind_ok_iff] at run
        obtain ⟨derivedChange, changeDerivation, run⟩ := run
        cases run
        refine ⟨⟨by omega, held, unused, addressType, ?_⟩, rfl⟩
        simp only [withDescriptor, registerBranches, DescriptorRow.branches, DescriptorInput.row,
          change, DescriptorRows.insertAddresses, externalAddresses,
          deriveAddresses_ok changeDerivation, List.foldl_cons, List.foldl_nil]

/-- An import writes its descriptor and addresses, and answers with the descriptor's id. -/
theorem importDescriptor_ok {spec : DescriptorInput} {allowMultisig : Bool} {descriptorId : Uuid}
    (run : importDescriptor classes library db holdingId spec allowMultisig =
      .ok (db', descriptorId)) :
    Imported library db holdingId spec db' ∧ descriptorId = DescriptorRows.freshId db := by
  rw [importDescriptor, bind_ok_iff] at run
  obtain ⟨parsedExternal, -, run⟩ := run
  cases change : spec.changeExpression with
  | none =>
      simp only [change] at run
      exact writeDescriptor_ok run
  | some changeExpression =>
      simp only [change] at run
      rw [bind_ok_iff] at run
      obtain ⟨parsedChange, -, run⟩ := run
      split at run
      · cases run
      · exact writeDescriptor_ok run

/-- What every import keeps, the loop over the descriptors of a new holding keeps. -/
theorem importDescriptors_invariant {I : HoldingDatabase → List Uuid → Prop}
    {specs : List DescriptorInput} {allowMultisig : Bool} {descriptorIds : List Uuid}
    (keeps : ∀ db ids, ∀ spec ∈ specs, ∀ db', I db ids → Imported library db holdingId spec db' →
      I db' (ids ++ [DescriptorRows.freshId db]))
    (run : importDescriptors classes library db holdingId specs allowMultisig =
      .ok (db', descriptorIds))
    (holds : I db []) : I db' descriptorIds := by
  apply foldlM_invariant (I := fun state => I state.1 state.2) _ run holds
  rintro ⟨before, ids⟩ spec listed ⟨after, ids'⟩ holds round
  obtain ⟨⟨imported, descriptorId⟩, importing, same⟩ := map_ok_iff.mp round
  cases same
  obtain ⟨carried, rfl⟩ := importDescriptor_ok importing
  exact keeps before ids spec listed _ holds carried

/-- What every import keeps and the new row of a holding keeps, the creation of a holding keeps. -/
theorem createHoldingWithDescriptors_ok {holdingType : HoldingType} {details : HoldingDetails}
    {specs : List DescriptorInput} {subtypeData : SubtypeData} {purseMode : Option PurseMode}
    {allowMultisig : Bool} {holding : LoadedHolding}
    (run : createHoldingWithDescriptors classes library db holdingType details specs subtypeData
      purseMode allowMultisig = .ok (db', holding)) :
    ∃ descriptorIds,
      importDescriptors classes library
          (HoldingRepo.insertRow db (details.row db.freshHoldingId holdingType)
            (details.columns subtypeData))
          db.freshHoldingId specs allowMultisig = .ok (db', descriptorIds) ∧
        constructHolding (details.row db.freshHoldingId holdingType) (details.columns subtypeData)
          purseMode descriptorIds none = .ok holding := by
  rw [createHoldingWithDescriptors, bind_ok_iff] at run
  obtain ⟨⟨imported, descriptorIds⟩, importing, run⟩ := run
  rw [bind_ok_iff] at run
  obtain ⟨built, construction, run⟩ := run
  cases run
  exact ⟨descriptorIds, importing, construction⟩

/-! ### Changes of holdings -/

/-- The rows of a new account. -/
def withAccount (db : HoldingDatabase) (details : HoldingDetails) (provider : AccountProvider) :
    HoldingDatabase :=
  { HoldingRepo.insertRow db (details.row db.freshHoldingId .account)
      (details.columns SubtypeData.empty) with
    custodialProviders := db.custodialProviders.insert
      (provider.row db.custodialProviders.freshKey db.freshHoldingId) }

/-- The creation of an account writes its holding and provider. -/
theorem createAccountRows_ok {details : HoldingDetails} {provider : AccountProvider}
    {holding : LoadedHolding} (run : createAccountRows db details provider = .ok (db', holding)) :
    db' = withAccount db details provider ∧
      constructHolding (details.row db.freshHoldingId .account) (details.columns SubtypeData.empty)
        none [] (some db.custodialProviders.freshKey) = .ok holding := by
  rw [createAccountRows, bind_ok_iff] at run
  obtain ⟨built, construction, run⟩ := run
  rw [bind_ok_iff] at run
  obtain ⟨providerRow, checked, run⟩ := run
  obtain ⟨-, -, -, -, rfl⟩ := CustodialProviderRow.postInit_ok_iff.mp checked
  cases run
  exact ⟨rfl, construction⟩

/-- The holding and its columns after an update. -/
def withPatch (db : HoldingDatabase) (holdingId : Uuid) (patch : HoldingPatch) : HoldingDatabase :=
  { db.withColumns holdingId (patch.columns (db.columns holdingId)) with
    holdings := db.holdings.update holdingId patch.row patch.row_id }

/-- A patch is one of a stored holding. -/
theorem updateHolding_ok {holdingId : Uuid} {patch : HoldingPatch} {holding : LoadedHolding}
    (run : HoldingService.updateHolding db holdingId patch = .ok (some (db', holding))) :
    (∃ row, db.holdings.get? holdingId = some row) ∧ db' = withPatch db holdingId patch ∧
      HoldingService.getHolding db' holdingId = .ok (some holding) := by
  rw [HoldingService.updateHolding, bind_ok_iff] at run
  obtain ⟨written, write, run⟩ := run
  cases written with
  | none => cases run
  | some written =>
      simp only [bind_ok_iff] at run
      obtain ⟨loaded, load, run⟩ := run
      cases loaded with
      | none => cases run
      | some loaded =>
          cases run
          rw [HoldingRepo.updateBasics] at write
          split at write
          · cases write
          · rename_i row found
            split at write
            · cases write
            · split at write
              · cases write
              · cases write
                exact ⟨⟨row, found⟩, rfl, load⟩

/-- The holding and the log after a change of type. -/
def withType (db : HoldingDatabase) (row : HoldingRow) (newType : HoldingType)
    (reason : Option String) : HoldingDatabase :=
  { db with
    holdings := db.holdings.update row.id (fun row => { row with holdingType := newType })
      (HoldingRepo.retyped_key newType)
    typeChanges := db.typeChanges.insert
      ⟨db.typeChanges.freshKey, row.id, row.holdingType, newType, reason⟩ }

/-- A change of type is one of a stored holding. -/
theorem changeHoldingType_ok {holdingId : Uuid} {newType : HoldingType} {reason : Option String}
    {holding : LoadedHolding}
    (run : HoldingService.changeHoldingType db holdingId newType reason =
      .ok (some (db', holding))) :
    ∃ row ∈ db.holdings.rows, row.id = holdingId ∧ newType ≠ .account ∧
      DescriptorRows.idsForHolding db row.id ≠ [] ∧ db' = withType db row newType reason ∧
        ∃ built, rowToDomain { row with holdingType := newType } (db.columns row.id)
          (DescriptorRows.idsForHolding db row.id) none = .ok built := by
  rw [HoldingService.changeHoldingType] at run
  split at run
  · cases run
  · rename_i notAccount
    simp only [bind, Except.bind] at run
    split at run
    · cases run
    · rename_i described
      cases stored : db.holdings.get? holdingId with
      | none =>
          simp only [HoldingRepo.changeType, stored, Option.map_none] at run
          cases run
      | some row =>
          obtain ⟨member, rfl⟩ := Table.get?_eq_some_iff.mp stored
          have found : (db.holdings.update (key row) fun row =>
              { row with holdingType := newType }).get? (key row) =
                some { row with holdingType := newType } := by
            rw [Table.get?_update, if_pos rfl, stored]
            rfl
          simp only [HoldingRepo.changeType, stored, Option.map_some, HoldingRepo.get, found] at run
          cases built : rowToDomain { row with holdingType := newType } (db.columns (key row))
              (DescriptorRows.idsForHolding db (key row)) none with
          | error error =>
              simp only [built, Except.map] at run
              cases run
          | ok loaded =>
              simp only [built, Except.map] at run
              cases run
              exact ⟨row, member, rfl, notAccount, described, rfl, holding, built⟩

/-! ### Fixes -/

/-- The tables after a fix: the expression of the descriptor, and the mark on the holding. -/
def withFix (db : HoldingDatabase) (holdingId descriptorId : Uuid) (expression : String) :
    HoldingDatabase :=
  { db.withColumns holdingId
      { db.columns holdingId with
        subtypeData :=
          { (db.columns holdingId).subtypeData with signingMetadataPresent := some true } } with
    descriptors := db.descriptors.update descriptorId
      (fun row => { row with expression := expression }) (rewritten_key expression) }

/-- A fix goes through: the expression names its key's origin and parses, it derives one of the
    stored addresses of the holding's first descriptor, and no other descriptor has it. -/
structure FixApplies (classes : CharClasses) (library : DescriptorLibrary) (db : HoldingDatabase)
    (holdingId : Uuid) (expression : String) (network : Network) (descriptor : DescriptorRow) :
    Prop where
  origin : found classes DescriptorPatterns.fingerprint expression = true
  parsed : (parse classes library expression network true).isOk = true
  first : (DescriptorRepo.listDescriptorsForHolding db.toDatabase holdingId).head? = some descriptor
  matched : ∃ address ∈ storedAddresses db descriptor.id,
    address ∈ derivedAddresses library expression network (storedAddresses db descriptor.id).length
  unused : ∀ row ∈ db.descriptors.rows, row.id ≠ descriptor.id → row.expression ≠ expression

theorem FixApplies.stored {expression : String} {network : Network} {descriptor : DescriptorRow}
    (applies : FixApplies classes library db holdingId expression network descriptor) :
    descriptor ∈ db.descriptors.rows ∧ descriptor.holdingId = holdingId := by
  have listed := List.mem_of_mem_head? (Option.mem_def.mpr applies.first)
  rw [DescriptorRepo.listDescriptorsForHolding, Table.mem_select] at listed
  exact ⟨listed.1, of_decide_eq_true listed.2⟩

/-- A fix is written unless another descriptor has its expression. -/
theorem writeFix_ok_iff {descriptorId : Uuid} {expression : String} :
    writeFix db holdingId descriptorId expression = .ok db' ↔
      (∀ row ∈ db.descriptors.rows, row.id ≠ descriptorId → row.expression ≠ expression) ∧
        withFix db holdingId descriptorId expression = db' := by
  rw [writeFix]
  split
  · rename_i clash
    obtain ⟨row, stored, same⟩ := List.any_eq_true.mp clash
    have both := of_decide_eq_true same
    refine iff_of_false (by simp) ?_
    rintro ⟨unused, -⟩
    exact unused row stored both.1 both.2
  · rename_i noClash
    rw [List.any_eq_true] at noClash
    have unused : ∀ row ∈ db.descriptors.rows, row.id ≠ descriptorId →
        row.expression ≠ expression := by
      intro row stored other same
      exact noClash ⟨row, stored, decide_eq_true ⟨other, same⟩⟩
    constructor
    · intro run
      cases run
      exact ⟨unused, rfl⟩
    · rintro ⟨-, rfl⟩
      rfl

/-- An address is matched exactly when the number of matches is not too small. -/
theorem matched_iff {stored derived : List String} (some : stored ≠ []) :
    ¬(stored.dedup.filter fun address => decide (address ∈ derived)).length < min stored.length 1 ↔
      ∃ address ∈ stored, address ∈ derived := by
  have positive := List.length_pos_of_ne_nil some
  have smallest : min stored.length 1 = 1 := by omega
  rw [smallest, Nat.not_lt, ← Nat.lt_iff_add_one_le, List.length_pos_iff_exists_mem]
  simp only [List.mem_filter, List.mem_dedup, decide_eq_true_eq]

/-- A fix that goes through writes, and reports success. -/
theorem applyFixMetadata_of_applies {expression : String} {network : Network}
    {descriptor : DescriptorRow}
    (applies : FixApplies classes library db holdingId expression network descriptor) :
    ∃ response, response.success = true ∧
      applyFixMetadata classes library db holdingId expression (some network) =
        .ok (withFix db holdingId descriptor.id expression, response) := by
  obtain ⟨parsed, accepted⟩ : ∃ parsed, parse classes library expression network true = .ok parsed := by
    have accepted := applies.parsed
    cases outcome : parse classes library expression network true with
    | error error => simp [outcome, Except.isOk, Except.toBool] at accepted
    | ok parsed => exact ⟨parsed, rfl⟩
  obtain ⟨rest, descriptors⟩ := List.head?_eq_some_iff.mp applies.first
  obtain ⟨address, stored, derived⟩ := applies.matched
  have someAddress : storedAddresses db descriptor.id ≠ [] := List.ne_nil_of_mem stored
  have agreement := (@matched_iff _ (derivedOnNetwork library expression (some network)
    (storedAddresses db descriptor.id).length) someAddress).mpr ⟨address, stored, derived⟩
  have write : writeFix db holdingId descriptor.id expression =
      .ok (withFix db holdingId descriptor.id expression) :=
    writeFix_ok_iff.mpr ⟨applies.unused, rfl⟩
  rw [applyFixMetadata, if_neg (by simp [applies.origin])]
  simp only [parseOnNetwork, accepted, descriptors, if_neg someAddress]
  rw [if_neg agreement, write]
  exact ⟨_, rfl, rfl⟩

/-- A fix either reports failure and leaves everything as it is, or reports success, goes through
    and writes. -/
theorem applyFixMetadata_ok {expression : String} {network : Option Network}
    {response : FixMetadataResponse}
    (run : applyFixMetadata classes library db holdingId expression network = .ok (db', response)) :
    response.success = false ∧ db' = db ∨
      response.success = true ∧ ∃ known descriptor, network = some known ∧
        FixApplies classes library db holdingId expression known descriptor ∧
          db' = withFix db holdingId descriptor.id expression := by
  rw [applyFixMetadata] at run
  split at run
  · cases run
    exact .inl ⟨rfl, rfl⟩
  · rename_i origin
    rw [Bool.not_eq_false] at origin
    split at run
    · cases run
      exact .inl ⟨rfl, rfl⟩
    · rename_i parsed accepted
      split at run
      · cases run
        exact .inl ⟨rfl, rfl⟩
      · rename_i descriptor rest descriptors
        simp only at run
        split at run
        · cases run
          exact .inl ⟨rfl, rfl⟩
        · rename_i someAddress
          split at run
          · cases run
            exact .inl ⟨rfl, rfl⟩
          · rename_i agreement
            obtain ⟨written, write, same⟩ := map_ok_iff.mp run
            cases same
            cases network with
            | none => cases accepted
            | some known =>
                rw [parseOnNetwork] at accepted
                obtain ⟨unused, rfl⟩ := writeFix_ok_iff.mp write
                exact .inr ⟨rfl, known, descriptor, rfl,
                  { origin := origin
                    parsed := by rw [accepted]; rfl
                    first := by rw [descriptors]; rfl
                    matched := (matched_iff someAddress).mp agreement
                    unused := unused }, rfl⟩

/-! ### Scans -/

/-- What a scan leaves: the holdings, the addresses up to labels and reuse flags, and the
    descriptors up to their height. -/
structure ScanWrote (db db' : HoldingDatabase) : Prop where
  frame : db' = { db with toDatabase := db'.toDatabase }
  holdings : db'.holdings = db.holdings
  addresses : db'.addresses.rows.map AddressRow.fixed = db.addresses.rows.map AddressRow.fixed
  descriptors : ∃ descriptorId height,
    db'.descriptors = db.descriptors.update descriptorId fun row =>
      { row with lastScannedHeight := max row.lastScannedHeight height }

/-- A scanned coin leaves the holdings. -/
theorem recordUnspent_holdings {node : ScanNode} {descriptor : DescriptorRow} {address : AddressRow}
    {unspent : ScanUtxo} {before after : Database}
    (unknown : before.utxos.get? ⟨unspent.txid, unspent.vout⟩ = none)
    (run : recordUnspent node descriptor address unspent before = .ok after) :
    after.holdings = before.holdings := by
  have stage : (coinStage node descriptor address unspent before).holdings = before.holdings := by
    obtain ⟨tables, -⟩ := applyFlagsAndPropagateReuse_sameButCoins
      (OnchainRepo.upsert (UtxoRepo.upsertUnspent before
        (UtxoRow.discovered (UtxoRepo.freshId before) descriptor.id address.id
          ⟨unspent.txid, unspent.vout⟩ unspent.amountSats unspent.confirmationHeight)) unspent.txid
        none unspent.confirmationHeight none)
      (UtxoRow.discovered (UtxoRepo.freshId before) descriptor.id address.id
        ⟨unspent.txid, unspent.vout⟩ unspent.amountSats unspent.confirmationHeight)
      ⟨none, descriptor.addressType, node.feeRate⟩
    rw [coinStage, tables, upsert_eq, upsertUnspent_of_unknown unknown]
    rfl
  change maybeCreateLedgerEntry (coinStage node descriptor address unspent before) descriptor
    unspent.txid unspent.amountSats node.now = .ok after at run
  rw [(maybeCreateLedgerEntry_kept run).1]
  exact stage

/-- A scan writes what it finds, and no holding. -/
theorem scanDescriptor_ok {node : ScanNode} {descriptorId : Uuid} {scanned : Database}
    (run : scanDescriptor node db.toDatabase descriptorId = .ok scanned) :
    ScanWrote db { db with toDatabase := scanned } := by
  rw [scanDescriptor] at run
  split at run
  · cases run
  · rename_i descriptor stored
    obtain ⟨⟨scanned, report⟩, scan, rfl⟩ := map_ok_iff.mp run
    have records : RecordKeeps
        (fun after => after.holdings = db.holdings ∧ after.descriptors = db.descriptors)
        node descriptor := by
      intro before address unspent after kept unknown _ recorded
      have same := recorded_of_ok unknown recorded
      exact ⟨(recordUnspent_holdings unknown recorded).trans kept.1, same.descriptors.trans kept.2⟩
    have addresses := (initialScan_addresses scan).addresses
    obtain ⟨last, height, kept, rfl⟩ := initialScan_invariant records scan ⟨rfl, rfl⟩
    exact ⟨rfl, kept.1, addresses, descriptor.id, height, by simp only [kept.2]⟩

/-! ### Operations -/

/-- The expression that `fix_metadata_manual` makes of a stored one. -/
def manualExpression (classes : CharClasses) (descriptor : DescriptorRow)
    (masterFingerprint derivationPath : String) : String :=
  graftOrigin classes descriptor.expression
    (String.ofList (masterFingerprint.toList.map Char.toLower))
    (if derivationPath.startsWith "m/" then String.ofList (derivationPath.toList.drop 2)
      else derivationPath)

/-- The fix an operation asks for: its holding, its expression and its network. -/
def HoldingOperation.fix (classes : CharClasses) (db : HoldingDatabase) :
    HoldingOperation → Option (Uuid × String × Option Network)
  | .fixMetadataReexport holdingId expression network => some (holdingId, expression, network)
  | .fixMetadataManual holdingId masterFingerprint derivationPath network =>
      (DescriptorRepo.listDescriptorsForHolding db.toDatabase holdingId).head?.map fun descriptor =>
        (holdingId, manualExpression classes descriptor masterFingerprint derivationPath, network)
  | _ => none

/-- An operation whose fix goes through. -/
structure Fixes (classes : CharClasses) (library : DescriptorLibrary) (db : HoldingDatabase)
    (operation : HoldingOperation) (holdingId : Uuid) (expression : String) (network : Network)
    (descriptor : DescriptorRow) : Prop where
  requested : operation.fix classes db = some (holdingId, expression, some network)
  applies : FixApplies classes library db holdingId expression network descriptor

/-- A patch of a stored descriptor to a gap limit that is allowed. -/
structure Patches (db : HoldingDatabase) (operation : HoldingOperation) (row : DescriptorRow)
    (gapLimit : Nat) : Prop where
  requested : ∃ patch, operation = .patchDescriptor row.id patch ∧ gapLimit = patch.getD row.gapLimit
  stored : row ∈ db.descriptors.rows
  positive : 1 ≤ gapLimit

/-- The creation of a holding with descriptors, with the fields of its type. -/
structure Creation where
  holdingType : HoldingType
  details : HoldingDetails
  specs : List DescriptorInput
  subtypeData : SubtypeData
  purseMode : Option PurseMode
  allowMultisig : Bool

/-- The creation is carried out. -/
def Creation.run (classes : CharClasses) (library : DescriptorLibrary) (db : HoldingDatabase)
    (creation : Creation) : Except PyError (HoldingDatabase × LoadedHolding) :=
  createHoldingWithDescriptors classes library db creation.holdingType creation.details
    creation.specs creation.subtypeData creation.purseMode creation.allowMultisig

/-- The creation an operation comes to, where it gets that far. -/
def HoldingOperation.creation (classes : CharClasses) (library : DescriptorLibrary) :
    HoldingOperation → Option Creation
  | .createPurse details specs purseMode =>
      some ⟨.purse, details, specs, { SubtypeData.empty with purseMode := some purseMode.value },
        some purseMode, false⟩
  | .createStrongbox details specs signingDeviceLabel vendor signingMetadataPresent =>
      some ⟨.strongbox, details, specs,
        { SubtypeData.empty with
          signingDeviceLabel := signingDeviceLabel
          vendor := vendor
          signingMetadataPresent := signingMetadataPresent },
        none, false⟩
  | .createVault details (first :: rest) recoverySetupNotes =>
      match parse classes library first.expression first.network true with
      | .error _ => none
      | .ok parsed =>
          if parsed.isVaultShape then
            some ⟨.vault, details, first :: rest, vaultData parsed recoverySetupNotes, none, true⟩
          else none
  | _ => none

/-- What an operation leaves of the committed tables. -/
inductive HoldingWrite (classes : CharClasses) (library : DescriptorLibrary) (db : HoldingDatabase) :
    HoldingOperation → HoldingDatabase → Prop where
  | kept {operation : HoldingOperation}
      (noFix : ∀ holdingId expression network descriptor,
        ¬Fixes classes library db operation holdingId expression network descriptor)
      (noPatch : ∀ row gapLimit, ¬Patches db operation row gapLimit) :
      HoldingWrite classes library db operation db
  | created {operation : HoldingOperation} {creation : Creation} {holding : LoadedHolding}
      {db' : HoldingDatabase} (requested : operation.creation classes library = some creation)
      (run : creation.run classes library db = .ok (db', holding)) :
      HoldingWrite classes library db operation db'
  | accountCreated {details : HoldingDetails} {provider : AccountProvider}
      {holding : LoadedHolding} {db' : HoldingDatabase}
      (run : createAccountRows db details provider = .ok (db', holding)) :
      HoldingWrite classes library db (.createAccount details provider) db'
  | updated {holdingId : Uuid} {patch : HoldingPatch} {seconds : Option Int}
      {holding : LoadedHolding} {db' : HoldingDatabase}
      (run : HoldingService.updateHolding db holdingId patch = .ok (some (db', holding))) :
      HoldingWrite classes library db (.updateHolding holdingId patch seconds) db'
  | typeChanged {holdingId : Uuid} {newType : HoldingType} {reason : Option String}
      {holding : LoadedHolding} {db' : HoldingDatabase}
      (run : HoldingService.changeHoldingType db holdingId newType reason =
        .ok (some (db', holding))) :
      HoldingWrite classes library db (.changeHoldingType holdingId newType reason) db'
  | attached {holdingId : Uuid} {spec : DescriptorInput} {target : HoldingRow}
      {db' : HoldingDatabase} (stored : db.holdings.get? holdingId = some target)
      (notAccount : target.holdingType ≠ .account)
      (imported : Imported library db holdingId spec db') :
      HoldingWrite classes library db (.attachDescriptor holdingId spec) db'
  | gapChanged {operation : HoldingOperation} {row : DescriptorRow} {gapLimit : Nat}
      (patches : Patches db operation row gapLimit) :
      HoldingWrite classes library db operation
        { db with
          descriptors := db.descriptors.update row.id fun row => { row with gapLimit := gapLimit } }
  | descriptorDeleted {descriptorId : Uuid}
      (stored : (db.descriptors.get? descriptorId).isSome)
      (bare : ∀ address ∈ db.addresses.rows, address.descriptorId ≠ descriptorId) :
      HoldingWrite classes library db (.deleteDescriptor descriptorId)
        { db with
          descriptors := db.descriptors.delete fun row => decide (row.id = descriptorId) }
  | fixed {operation : HoldingOperation} {holdingId : Uuid} {expression : String}
      {network : Network} {descriptor : DescriptorRow}
      (fixes : Fixes classes library db operation holdingId expression network descriptor) :
      HoldingWrite classes library db operation (withFix db holdingId descriptor.id expression)
  | scanned {node : ScanNode} {descriptorId : Uuid} {db' : HoldingDatabase}
      (wrote : ScanWrote db db') :
      HoldingWrite classes library db (.rescan node descriptorId) db'

/-- A creation is none of an account, its purse mode is the stored one, and it is no other
    operation. -/
theorem creation_requested {operation : HoldingOperation} {creation : Creation}
    (requested : operation.creation classes library = some creation) :
    creation.holdingType ≠ .account ∧
      creation.subtypeData.readPurseMode = .ok creation.purseMode ∧
        operation.fix classes db = none ∧
          ∀ descriptorId patch, operation ≠ .patchDescriptor descriptorId patch := by
  have unlike : ∀ {descriptorId : Uuid} {patch : Option Nat},
      operation ≠ .patchDescriptor descriptorId patch := by
    rintro descriptorId patch rfl
    cases requested
  cases operation with
  | createPurse details specs purseMode =>
      cases requested
      refine ⟨HoldingType.noConfusion, ?_, rfl, fun _ _ => unlike⟩
      cases purseMode <;> rfl
  | createStrongbox details specs label vendor present =>
      cases requested
      exact ⟨HoldingType.noConfusion, rfl, rfl, fun _ _ => unlike⟩
  | createVault details specs notes =>
      cases specs with
      | nil => cases requested
      | cons first rest =>
          rw [HoldingOperation.creation] at requested
          split at requested
          · cases requested
          · split at requested
            · cases requested
              exact ⟨HoldingType.noConfusion, rfl, rfl, fun _ _ => unlike⟩
            · cases requested
  | createAccount | updateHolding | changeHoldingType | attachDescriptor | patchDescriptor
  | deleteDescriptor | fixMetadataReexport | fixMetadataManual | rescan => cases requested

/-- The operation is its creation. -/
theorem holdingPerform_of_creation {operation : HoldingOperation} {creation : Creation}
    (requested : operation.creation classes library = some creation) :
    holdingPerform classes library db operation = (creation.run classes library db).map Prod.fst := by
  cases operation with
  | createPurse details specs purseMode =>
      cases requested
      rfl
  | createStrongbox details specs label vendor present =>
      cases requested
      rfl
  | createVault details specs notes =>
      cases specs with
      | nil => cases requested
      | cons first rest =>
          rw [HoldingOperation.creation] at requested
          split at requested
          · cases requested
          · rename_i parsed accepted
            split at requested
            · rename_i shaped
              cases requested
              rw [holdingPerform, createVault, accepted]
              simp only [asServiceError, bind, Except.bind]
              rw [if_neg (by simp [shaped])]
              rfl
            · cases requested
  | createAccount | updateHolding | changeHoldingType | attachDescriptor | patchDescriptor
  | deleteDescriptor | fixMetadataReexport | fixMetadataManual | rescan => cases requested

/-- A vault that is created comes to a creation. -/
theorem creation_of_createVault {details : HoldingDetails} {specs : List DescriptorInput}
    {notes : Option String} {holding : LoadedHolding}
    (run : createVault classes library db details specs notes = .ok (db', holding)) :
    ∃ creation, (HoldingOperation.createVault details specs notes).creation classes library =
      some creation := by
  cases specs with
  | nil => cases run
  | cons first rest =>
      rw [createVault, bind_ok_iff] at run
      obtain ⟨parsed, accepted, run⟩ := run
      cases outcome : parse classes library first.expression first.network true with
      | error error =>
          rw [outcome] at accepted
          cases accepted
      | ok answer =>
          rw [outcome] at accepted
          cases accepted
          split at run
          · cases run
          · rename_i shaped
            rw [Bool.not_eq_false] at shaped
            exact ⟨_, by rw [HoldingOperation.creation, outcome]; exact if_pos shaped⟩

/-- An answer that is found is not a 404. -/
theorem orNotFound_ok_iff {α : Type} {message : String} {outcome : Except PyError (Option α)}
    {value : α} : orNotFound message outcome = .ok value ↔ outcome = .ok (some value) := by
  rcases outcome with error | found
  · simp [orNotFound]
  · cases found <;> simp [orNotFound]

/-- A fix that goes through is the step. -/
theorem holdingStep_of_fixes {operation : HoldingOperation} {expression : String}
    {network : Network} {descriptor : DescriptorRow}
    (fixes : Fixes classes library db operation holdingId expression network descriptor) :
    holdingStep classes library db operation = withFix db holdingId descriptor.id expression := by
  obtain ⟨requested, applies⟩ := fixes
  obtain ⟨response, -, run⟩ := applyFixMetadata_of_applies applies
  cases operation with
  | fixMetadataReexport otherHolding otherExpression otherNetwork =>
      cases requested
      rw [holdingStep, holdingPerform, run]
      rfl
  | fixMetadataManual otherHolding masterFingerprint derivationPath otherNetwork =>
      rw [HoldingOperation.fix, Option.map_eq_some_iff] at requested
      obtain ⟨first, listed, same⟩ := requested
      cases same
      obtain ⟨rest, descriptors⟩ := List.head?_eq_some_iff.mp listed
      have step : fixMetadataManual classes library db holdingId masterFingerprint derivationPath
          (some network) = .ok (withFix db holdingId descriptor.id (manualExpression classes first
            masterFingerprint derivationPath), response) := by
        simp only [fixMetadataManual, descriptors]
        exact run
      rw [holdingStep, holdingPerform, step]
      rfl
  | createPurse | createStrongbox | createVault | createAccount | updateHolding
  | changeHoldingType | attachDescriptor | patchDescriptor | deleteDescriptor | rescan =>
      cases requested

/-- A patch that is allowed is the step. -/
theorem holdingStep_of_patches {operation : HoldingOperation} {row : DescriptorRow} {gapLimit : Nat}
    (patches : Patches db operation row gapLimit) :
    holdingStep classes library db operation =
      { db with
        descriptors := db.descriptors.update row.id fun row =>
          { row with gapLimit := gapLimit } } := by
  obtain ⟨⟨patch, rfl, limit⟩, stored, positive⟩ := patches
  have found : db.descriptors.get? row.id = some row := Table.get?_of_mem stored
  have sameRows : db.descriptors.update row.id (fun row =>
      { row with gapLimit := patch.getD row.gapLimit }) =
        db.descriptors.update row.id fun row => { row with gapLimit := gapLimit } := by
    apply Table.ext
    rw [Table.update, Table.update, Table.rows_updateAll, Table.rows_updateAll]
    apply List.map_congr_left
    intro other member
    by_cases same : key other = row.id
    · have own : other = row := Table.eq_of_key_eq member stored same
      rw [if_pos same, if_pos same, own, limit]
    · rw [if_neg same, if_neg same]
  have run : DescriptorRows.updateDescriptor db row.id patch = .ok (some
      { db with
        descriptors := db.descriptors.update row.id fun row => { row with gapLimit := gapLimit } }) := by
    simp only [DescriptorRows.updateDescriptor, found]
    rw [if_neg (by omega), sameRows]
  rw [holdingStep, holdingPerform, run]
  rfl

/-- A descriptor is attached to a stored holding that is no account, as an import writes it. -/
theorem attachDescriptor_ok {holdingId : Uuid} {spec : DescriptorInput}
    (run : attachDescriptor classes library db holdingId spec = .ok db') :
    ∃ target, db.holdings.get? holdingId = some target ∧ target.holdingType ≠ .account ∧
      Imported library db holdingId spec db' := by
  rw [attachDescriptor] at run
  split at run
  · cases run
  · rename_i target stored
    split at run
    · cases run
    · rename_i notAccount
      rw [bind_ok_iff] at run
      obtain ⟨parsed, -, run⟩ := run
      obtain ⟨⟨written, descriptorId⟩, write, rfl⟩ := map_ok_iff.mp run
      exact ⟨target, stored, notAccount, (writeDescriptor_ok write).1⟩

/-- A patch that goes through is one of a stored row with a positive gap limit. -/
theorem patches_of_updateDescriptor {descriptorId : Uuid} {patch : Option Nat}
    (update : DescriptorRows.updateDescriptor db descriptorId patch = .ok (some db')) :
    ∃ row gapLimit, Patches db (.patchDescriptor descriptorId patch) row gapLimit := by
  rw [DescriptorRows.updateDescriptor] at update
  split at update
  · cases update
  · rename_i row found
    split at update
    · cases update
    · rename_i positive
      obtain ⟨stored, rfl⟩ := Table.get?_eq_some_iff.mp found
      exact ⟨row, patch.getD row.gapLimit, ⟨patch, rfl, rfl⟩, stored, by omega⟩

/-- A descriptor that is deleted was stored and had no address. -/
theorem holdingWrite_of_deleteDescriptor {descriptorId : Uuid}
    (deletion : DescriptorRows.deleteDescriptor db descriptorId = .ok (some db')) :
    HoldingWrite classes library db (.deleteDescriptor descriptorId) db' := by
  rw [DescriptorRows.deleteDescriptor] at deletion
  split at deletion
  · cases deletion
  · rename_i row found
    split at deletion
    · cases deletion
    · rename_i noAddress
      split at deletion
      · cases deletion
      · cases deletion
        refine .descriptorDeleted (by rw [found]; rfl) ?_
        intro address stored same
        exact noAddress (List.any_eq_true.mpr ⟨address, stored, decide_eq_true same⟩)

/-- A manual fix grafts the metadata onto the first descriptor of the holding. -/
theorem fixMetadataManual_ok {holdingId : Uuid} {masterFingerprint derivationPath : String}
    {network : Option Network} {response : FixMetadataResponse}
    (fix : fixMetadataManual classes library db holdingId masterFingerprint derivationPath network =
      .ok (db', response)) :
    ∃ expression,
      (HoldingOperation.fixMetadataManual holdingId masterFingerprint derivationPath network).fix
          classes db = some (holdingId, expression, network) ∧
        applyFixMetadata classes library db holdingId expression network = .ok (db', response) := by
  rw [fixMetadataManual] at fix
  split at fix
  · cases fix
  · rename_i descriptor rest descriptors
    refine ⟨_, ?_, fix⟩
    rw [HoldingOperation.fix, descriptors]
    rfl

/-- A fix that is none of the ones that apply leaves everything as it was. -/
theorem holdingWrite_of_applyFixMetadata {operation : HoldingOperation} {holdingId : Uuid}
    {expression : String} {network : Option Network} {response : FixMetadataResponse}
    (noFix : ∀ holdingId expression network descriptor,
      ¬Fixes classes library db operation holdingId expression network descriptor)
    (noPatch : ∀ row gapLimit, ¬Patches db operation row gapLimit)
    (requested : operation.fix classes db = some (holdingId, expression, network))
    (run : applyFixMetadata classes library db holdingId expression network =
      .ok (db', response)) :
    HoldingWrite classes library db operation db' := by
  rcases applyFixMetadata_ok run with ⟨-, rfl⟩ | ⟨-, known, descriptor, rfl, applies, -⟩
  · exact .kept noFix noPatch
  · exact absurd ⟨requested, applies⟩ (noFix holdingId expression known descriptor)

/-- A creation that raises nothing leaves what it creates. -/
theorem holdingWrite_of_creation {operation : HoldingOperation} {creation : Creation}
    (requested : operation.creation classes library = some creation)
    (run : holdingPerform classes library db operation = .ok db') :
    HoldingWrite classes library db operation db' := by
  rw [holdingPerform_of_creation requested, map_ok_iff] at run
  obtain ⟨⟨written, holding⟩, run, rfl⟩ := run
  exact .created requested run

/-- What an operation that raises nothing leaves. -/
theorem holdingWrite_of_perform {operation : HoldingOperation}
    (noFix : ∀ holdingId expression network descriptor,
      ¬Fixes classes library db operation holdingId expression network descriptor)
    (noPatch : ∀ row gapLimit, ¬Patches db operation row gapLimit)
    (run : holdingPerform classes library db operation = .ok db') :
    HoldingWrite classes library db operation db' := by
  cases operation with
  | createPurse details specs purseMode => exact holdingWrite_of_creation rfl run
  | createStrongbox details specs label vendor present => exact holdingWrite_of_creation rfl run
  | createVault details specs notes =>
      obtain ⟨⟨written, holding⟩, creation, rfl⟩ := map_ok_iff.mp run
      obtain ⟨request, requested⟩ := creation_of_createVault creation
      exact holdingWrite_of_creation requested run
  | createAccount details provider =>
      obtain ⟨⟨written, holding⟩, creation, rfl⟩ := map_ok_iff.mp run
      exact .accountCreated creation
  | updateHolding holdingId patch seconds =>
      rw [holdingPerform, bind_ok_iff] at run
      obtain ⟨⟨written, holding⟩, update, run⟩ := run
      rw [bind_ok_iff] at run
      obtain ⟨-, -, run⟩ := run
      cases run
      exact .updated (orNotFound_ok_iff.mp update)
  | changeHoldingType holdingId newType reason =>
      obtain ⟨⟨written, holding⟩, change, rfl⟩ := map_ok_iff.mp run
      exact .typeChanged (orNotFound_ok_iff.mp change)
  | attachDescriptor holdingId spec =>
      obtain ⟨target, stored, notAccount, imported⟩ := attachDescriptor_ok run
      exact .attached stored notAccount imported
  | patchDescriptor descriptorId patch =>
      obtain ⟨row, gapLimit, patches⟩ := patches_of_updateDescriptor (orNotFound_ok_iff.mp run)
      exact absurd patches (noPatch row gapLimit)
  | deleteDescriptor descriptorId => exact
      holdingWrite_of_deleteDescriptor (orNotFound_ok_iff.mp run)
  | fixMetadataReexport holdingId expression network =>
      obtain ⟨⟨written, response⟩, fix, rfl⟩ := map_ok_iff.mp run
      exact holdingWrite_of_applyFixMetadata noFix noPatch rfl fix
  | fixMetadataManual holdingId masterFingerprint derivationPath network =>
      obtain ⟨⟨written, response⟩, fix, rfl⟩ := map_ok_iff.mp run
      obtain ⟨expression, requested, applied⟩ := fixMetadataManual_ok fix
      exact holdingWrite_of_applyFixMetadata noFix noPatch requested applied
  | rescan node descriptorId =>
      obtain ⟨scanned, scan, rfl⟩ := map_ok_iff.mp run
      exact .scanned (scanDescriptor_ok scan)

/-- Every step is one of the writes. -/
theorem holdingWrite_of_step (classes : CharClasses) (library : DescriptorLibrary)
    (db : HoldingDatabase) (operation : HoldingOperation) :
    HoldingWrite classes library db operation (holdingStep classes library db operation) := by
  by_cases someFix : ∃ holdingId expression network descriptor,
      Fixes classes library db operation holdingId expression network descriptor
  · obtain ⟨holdingId, expression, network, descriptor, fixes⟩ := someFix
    rw [holdingStep_of_fixes fixes]
    exact .fixed fixes
  by_cases somePatch : ∃ row gapLimit, Patches db operation row gapLimit
  · obtain ⟨row, gapLimit, patches⟩ := somePatch
    rw [holdingStep_of_patches patches]
    exact .gapChanged patches
  have noFix : ∀ holdingId expression network descriptor,
      ¬Fixes classes library db operation holdingId expression network descriptor :=
    fun holdingId expression network descriptor fixes =>
      someFix ⟨holdingId, expression, network, descriptor, fixes⟩
  have noPatch : ∀ row gapLimit, ¬Patches db operation row gapLimit :=
    fun row gapLimit patches => somePatch ⟨row, gapLimit, patches⟩
  rw [holdingStep]
  split
  · rename_i run
    exact holdingWrite_of_perform noFix noPatch run
  · exact .kept noFix noPatch

/-! ### A wallet to watch -/

/-- The external branch of an account, as a wallet without the key's origin exports it. -/
def accountDescriptor : String :=
  "wpkh(xpub6CatWdiZiodmUeTDp8LT5or8nmbKNcuyvz7WyksVFkKB4RHwCD3XyuvPEbvqAQY3rAPshWcMLoP2fMFMKHPJ4" ++
    "ZeZXYVUhLv1VMrjPC7PW6V/0/*)"

/-- The same branch with the origin of its key. -/
def accountDescriptorWithOrigin : String :=
  "wpkh([73c5da0a/84h/0h/0h]xpub6CatWdiZiodmUeTDp8LT5or8nmbKNcuyvz7WyksVFkKB4RHwCD3XyuvPEbvqAQY3r" ++
    "APshWcMLoP2fMFMKHPJ4ZeZXYVUhLv1VMrjPC7PW6V/0/*)"

/-- A library that takes every text for this branch. -/
def accountLibrary : DescriptorLibrary where
  descriptor text _ := .ok ⟨.wpkh, false, text, text⟩
  deriveAddress _ _ index :=
    if index = 0 then "bc1qcr8te4kr609gcawutmrza0j4xv80jy8z306fyu"
    else "bc1qnjg0jd8228aq7egyzacy8cys3knf9xvrerkf9g"

def purseDetails : HoldingDetails where
  name := "Phone"
  description := none
  purpose := .spending
  declaredSecurity := ⟨.selfSingle, .softwareHot, false, false, none⟩
  displayColor := "#10b981"
  displayOrder := 0

end TallyKeep
