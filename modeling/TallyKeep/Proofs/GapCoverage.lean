/-
Module: TallyKeep.Proofs.GapCoverage
Layer: Proofs
Purpose: When the watched addresses are exactly those the stored expressions derive below the gap
  limit: registration covers it, and two of the writes to a descriptor leave its addresses behind.
Trusted boundary: none
Main exports: Covers, GapCovered, addressEntries, branchEntries_eq, Imported.covered,
  KeepsWatchedAddresses, gapCovered_throughout_iff
-/
import TallyKeep.Proofs.HoldingSteps

namespace TallyKeep

open Regex Relational Transition

variable {classes : CharClasses} {library : DescriptorLibrary} {db db' : HoldingDatabase}

/-! ### Coverage -/

/-- The address rows of a branch: the index and the address of each. -/
def branchEntries (db : HoldingDatabase) (descriptorId : Uuid) (isChange : Bool) :
    List (Nat × String) :=
  (DescriptorRepo.listAddressesForDescriptor db.toDatabase descriptorId isChange).map fun address =>
    (address.derivationIndex, address.address)

/-- What a branch derives at each index below the gap limit. -/
def derivedEntries (library : DescriptorLibrary) (row : DescriptorRow) (expression : String) :
    List (Nat × String) :=
  (List.range row.gapLimit).map fun index =>
    (index, library.deriveAddress expression row.network index)

/-- The address rows of the branch are the indices below the gap limit, one each, and each has the
    address that is derived there. -/
def Covers (library : DescriptorLibrary) (db : HoldingDatabase) (row : DescriptorRow)
    (branch : Bool × String) : Prop :=
  (branchEntries db row.id branch.1).Perm (derivedEntries library row branch.2)

/-- Every branch of every descriptor is covered. -/
def GapCovered (library : DescriptorLibrary) (db : HoldingDatabase) : Prop :=
  ∀ row ∈ db.descriptors.rows, ∀ branch ∈ row.branches, Covers library db row branch

/-! ### The entries of the address table -/

/-- The place and the address of every row. -/
def addressEntries (db : HoldingDatabase) : List ((Uuid × Bool × Nat) × String) :=
  db.addresses.rows.map fun address => (address.slot, address.address)

/-- The entries of one branch. -/
def entriesOf (descriptorId : Uuid) (isChange : Bool) (entries : List ((Uuid × Bool × Nat) × String)) :
    List (Nat × String) :=
  (entries.filter fun entry =>
    decide (entry.1.1 = descriptorId) && decide (entry.1.2.1 = isChange)).map fun entry =>
      (entry.1.2.2, entry.2)

theorem branchEntries_eq (db : HoldingDatabase) (descriptorId : Uuid) (isChange : Bool) :
    branchEntries db descriptorId isChange = entriesOf descriptorId isChange (addressEntries db) := by
  rw [branchEntries, entriesOf, addressEntries, List.filter_map, List.map_map]
  rfl

theorem entriesOf_append (descriptorId : Uuid) (isChange : Bool)
    (entries later : List ((Uuid × Bool × Nat) × String)) :
    entriesOf descriptorId isChange (entries ++ later) =
      entriesOf descriptorId isChange entries ++ entriesOf descriptorId isChange later := by
  rw [entriesOf, List.filter_append, List.map_append]
  rfl

/-- Entries of other descriptors are none of the branch's. -/
theorem entriesOf_eq_nil {descriptorId : Uuid} {entries : List ((Uuid × Bool × Nat) × String)}
    (isChange : Bool) (others : ∀ entry ∈ entries, entry.1.1 ≠ descriptorId) :
    entriesOf descriptorId isChange entries = [] := by
  rw [entriesOf, List.map_eq_nil_iff, List.filter_eq_nil_iff]
  intro entry listed own
  rw [Bool.and_eq_true] at own
  exact others entry listed (of_decide_eq_true own.1)

theorem entriesOf_registered_self (library : DescriptorLibrary) (row : DescriptorRow)
    (branch : Bool × String) :
    entriesOf row.id branch.1 (registered library row branch) =
      derivedEntries library row branch.2 := by
  rw [entriesOf, registered, derivedEntries, List.filter_eq_self.mpr, List.map_map]
  · rfl
  · intro entry listed
    obtain ⟨index, -, rfl⟩ := List.mem_map.mp listed
    simp

theorem entriesOf_registered_other (library : DescriptorLibrary) (row : DescriptorRow)
    {isChange : Bool} (branch : Bool × String) (other : branch.1 ≠ isChange) :
    entriesOf row.id isChange (registered library row branch) = [] := by
  rw [entriesOf, registered, List.map_eq_nil_iff, List.filter_eq_nil_iff]
  intro entry listed own
  obtain ⟨index, -, rfl⟩ := List.mem_map.mp listed
  rw [Bool.and_eq_true] at own
  exact other (of_decide_eq_true own.2)

/-- Of all that is registered for a descriptor, each branch has its own. -/
theorem entriesOf_branches (library : DescriptorLibrary) (row : DescriptorRow)
    {branch : Bool × String} (listed : branch ∈ row.branches) :
    entriesOf row.id branch.1 (row.branches.flatMap (registered library row)) =
      derivedEntries library row branch.2 := by
  cases change : row.changeExpression with
  | none =>
      simp only [DescriptorRow.branches, change, List.mem_singleton] at listed
      subst listed
      simp only [DescriptorRow.branches, change, List.flatMap_cons, List.flatMap_nil,
        List.append_nil]
      exact entriesOf_registered_self library row (false, row.expression)
  | some expression =>
      simp only [DescriptorRow.branches, change, List.mem_cons, List.not_mem_nil, or_false] at listed
      simp only [DescriptorRow.branches, change, List.flatMap_cons, List.flatMap_nil,
        List.append_nil, entriesOf_append]
      rcases listed with rfl | rfl
      · rw [entriesOf_registered_self library row (false, row.expression),
          entriesOf_registered_other library row (true, expression) (by simp),
          List.append_nil]
      · rw [entriesOf_registered_self library row (true, expression),
          entriesOf_registered_other library row (false, row.expression) (by simp),
          List.nil_append]

/-! ### What each write leaves covered -/

theorem Covers.congr {row row' : DescriptorRow} {branch branch' : Bool × String}
    (covers : Covers library db row branch)
    (entries : branchEntries db' row'.id branch'.1 = branchEntries db row.id branch.1)
    (derived : derivedEntries library row' branch'.2 = derivedEntries library row branch.2) :
    Covers library db' row' branch' := by
  rw [Covers, entries, derived]
  exact covers

/-- An import covers the new descriptor and leaves the others as they were. -/
theorem Imported.covered {holdingId : Uuid} {spec : DescriptorInput}
    (imported : Imported library db holdingId spec db') (covered : GapCovered library db) :
    GapCovered library db' := by
  obtain ⟨new, added, descriptors, ⟨addressType, same⟩, addresses, entries⟩ := imported.rows
  obtain ⟨unusedId, unusedAddress⟩ := freshDescriptorId_fresh db
  have newId : new.id = DescriptorRows.freshId db := congrArg DescriptorRow.id same
  have table : addressEntries db' =
      addressEntries db ++ new.branches.flatMap (registered library new) := by
    rw [addressEntries, addresses, List.map_append, entries]
    rfl
  intro row stored branch listed
  rw [descriptors, List.mem_append, List.mem_singleton] at stored
  rcases stored with before | rfl
  · have others : entriesOf row.id branch.1 (new.branches.flatMap (registered library new)) = [] := by
      apply entriesOf_eq_nil
      intro entry member own
      obtain ⟨otherBranch, -, registeredEntry⟩ := List.mem_flatMap.mp member
      obtain ⟨index, -, rfl⟩ := List.mem_map.mp registeredEntry
      have found : db.descriptors.get? row.id = some row := Table.get?_of_mem before
      rw [← show new.id = row.id from own, newId, unusedId] at found
      cases found
    apply (covered row before branch listed).congr _ rfl
    rw [branchEntries_eq, branchEntries_eq, table, entriesOf_append, others, List.append_nil]
  · have older : entriesOf row.id branch.1 (addressEntries db) = [] := by
      apply entriesOf_eq_nil
      intro entry member own
      obtain ⟨address, known, rfl⟩ := List.mem_map.mp member
      rw [newId] at own
      exact unusedAddress address known own
    rw [Covers, branchEntries_eq, table, entriesOf_append, entriesOf_branches library row listed,
      older, List.nil_append]

/-- The same addresses, and descriptors that are the same where it matters. -/
theorem GapCovered.congr (covered : GapCovered library db)
    (addresses : addressEntries db' = addressEntries db)
    (descriptors : ∀ row' ∈ db'.descriptors.rows, ∃ row ∈ db.descriptors.rows,
      row'.id = row.id ∧ row'.network = row.network ∧ row'.gapLimit = row.gapLimit ∧
        row'.branches = row.branches) : GapCovered library db' := by
  intro row' stored branch listed
  obtain ⟨row, known, sameId, sameNetwork, sameLimit, sameBranches⟩ := descriptors row' stored
  rw [sameBranches] at listed
  apply (covered row known branch listed).congr
  · rw [branchEntries_eq, branchEntries_eq, addresses, sameId]
  · rw [derivedEntries, derivedEntries, sameNetwork, sameLimit]

theorem ScanWrote.covered (wrote : ScanWrote db db') (covered : GapCovered library db) :
    GapCovered library db' := by
  obtain ⟨descriptorId, height, descriptors⟩ := wrote.descriptors
  apply covered.congr
  · have same := congrArg (List.map fun address : AddressRow => (address.slot, address.address))
      wrote.addresses
    rw [List.map_map, List.map_map] at same
    exact same
  · rw [descriptors]
    intro row' stored
    obtain ⟨row, known, rfl⟩ := List.mem_map.mp stored
    refine ⟨row, known, ?_⟩
    split
    · exact ⟨rfl, rfl, rfl, rfl⟩
    · exact ⟨rfl, rfl, rfl, rfl⟩

/-- After a creation everything is covered that was. -/
theorem created_covered {holdingType : HoldingType} {details : HoldingDetails}
    {specs : List DescriptorInput} {subtypeData : SubtypeData} {purseMode : Option PurseMode}
    {allowMultisig : Bool} {holding : LoadedHolding}
    (run : createHoldingWithDescriptors classes library db holdingType details specs subtypeData
      purseMode allowMultisig = .ok (db', holding)) (covered : GapCovered library db) :
    GapCovered library db' := by
  obtain ⟨descriptorIds, imports, -⟩ := createHoldingWithDescriptors_ok run
  apply importDescriptors_invariant (I := fun db _ => GapCovered library db) _ imports covered
  intro before ids spec _ after covered imported
  exact imported.covered covered

/-! ### Where the derivation moves -/

/-- Lists over one range agree up to order exactly when they agree at every index. -/
theorem map_range_perm_iff {α : Type} {count count' : Nat} {f g : Nat → α} :
    ((List.range count).map fun index => (index, f index)).Perm
        ((List.range count').map fun index => (index, g index)) ↔
      count = count' ∧ ∀ index < count, f index = g index := by
  constructor
  · intro perm
    have sameCount : count = count' := by simpa using perm.length_eq
    refine ⟨sameCount, fun index below => ?_⟩
    have listed : (index, f index) ∈ (List.range count').map fun index => (index, g index) :=
      perm.subset (List.mem_map.mpr ⟨index, List.mem_range.mpr below, rfl⟩)
    obtain ⟨other, -, same⟩ := List.mem_map.mp listed
    rw [Prod.mk.injEq] at same
    rw [← same.2, same.1]
  · rintro ⟨rfl, agree⟩
    apply List.Perm.of_eq
    apply List.map_congr_left
    intro index listed
    rw [agree index (List.mem_range.mp listed)]

theorem derivedEntries_perm_iff {row row' : DescriptorRow} {expression expression' : String} :
    (derivedEntries library row expression).Perm (derivedEntries library row' expression') ↔
      row.gapLimit = row'.gapLimit ∧ ∀ index < row.gapLimit,
        library.deriveAddress expression row.network index =
          library.deriveAddress expression' row'.network index :=
  map_range_perm_iff

/-- One descriptor is rewritten; the coverage stays exactly when its branches derive what they
    derived before. -/
theorem gapCovered_update_iff {row : DescriptorRow} (stored : row ∈ db.descriptors.rows)
    (covered : GapCovered library db) (f : DescriptorRow → DescriptorRow)
    (keeps : ∀ row, (f row).id = row.id) {columns : Uuid → HoldingColumns} :
    GapCovered library
        { db with columns := columns, descriptors := db.descriptors.update row.id f keeps } ↔
      ∀ branch ∈ (f row).branches, (branchEntries db row.id branch.1).Perm
        (derivedEntries library (f row) branch.2) := by
  constructor
  · intro after branch listed
    have member : f row ∈ (db.descriptors.update row.id f keeps).rows := by
      rw [Table.update, Table.rows_updateAll]
      exact List.mem_map.mpr ⟨row, stored, if_pos rfl⟩
    have covers := after (f row) member branch listed
    rw [Covers, keeps] at covers
    exact covers
  · intro own other member branch listed
    obtain ⟨before, known, rfl⟩ := List.mem_map.mp member
    by_cases same : key before = row.id
    · have only : before = row := Table.eq_of_key_eq known stored same
      rw [if_pos same, only] at listed ⊢
      rw [Covers, keeps]
      exact own branch listed
    · rw [if_neg same] at listed ⊢
      exact covered before known branch listed

theorem gapCovered_gapLimit_iff {row : DescriptorRow} {gapLimit : Nat}
    (stored : row ∈ db.descriptors.rows) (covered : GapCovered library db) :
    GapCovered library
        { db with
          descriptors := db.descriptors.update row.id fun row => { row with gapLimit := gapLimit } } ↔
      gapLimit = row.gapLimit := by
  apply (gapCovered_update_iff stored covered (fun row => { row with gapLimit := gapLimit })
    (fun _ => rfl)).trans
  constructor
  · intro after
    have external : (false, row.expression) ∈ row.branches := List.mem_cons_self
    have perm := (covered row stored _ external).symm.trans (after (false, row.expression) external)
    exact (derivedEntries_perm_iff.mp perm).1.symm
  · rintro rfl branch listed
    exact covered row stored branch listed

theorem gapCovered_withFix_iff {holdingId : Uuid} {expression : String} {row : DescriptorRow}
    (stored : row ∈ db.descriptors.rows) (covered : GapCovered library db) :
    GapCovered library (withFix db holdingId row.id expression) ↔
      ∀ index < row.gapLimit, library.deriveAddress expression row.network index =
        library.deriveAddress row.expression row.network index := by
  apply (gapCovered_update_iff stored covered (fun row => { row with expression := expression })
    (fun _ => rfl)).trans
  have external : (false, row.expression) ∈ row.branches := List.mem_cons_self
  have before := covered row stored _ external
  constructor
  · intro after
    have perm := before.symm.trans (after (false, expression) List.mem_cons_self)
    intro index below
    exact ((derivedEntries_perm_iff.mp perm).2 index below).symm
  · intro agree branch listed
    rcases List.mem_cons.mp listed with rfl | change
    · refine before.trans (derivedEntries_perm_iff.mpr ⟨rfl, ?_⟩)
      intro index below
      exact (agree index below).symm
    · exact covered row stored branch (List.mem_cons_of_mem _ change)

/-! ### Runs -/

/-- The operation moves no gap limit, and replaces no expression by one that derives another address
    at an index that is watched. -/
structure KeepsWatchedAddresses (classes : CharClasses) (library : DescriptorLibrary)
    (db : HoldingDatabase) (operation : HoldingOperation) : Prop where
  sameLimit : ∀ row gapLimit, Patches db operation row gapLimit → gapLimit = row.gapLimit
  sameAddresses : ∀ holdingId expression network descriptor,
    Fixes classes library db operation holdingId expression network descriptor →
      ∀ index < descriptor.gapLimit, library.deriveAddress expression descriptor.network index =
        library.deriveAddress descriptor.expression descriptor.network index

theorem Patches.noFix {operation : HoldingOperation} {row : DescriptorRow} {gapLimit : Nat}
    (patches : Patches db operation row gapLimit) : operation.fix classes db = none := by
  obtain ⟨patch, rfl, -⟩ := patches.requested
  rfl

theorem Fixes.noPatch {operation : HoldingOperation} {holdingId : Uuid} {expression : String}
    {network : Network} {descriptor : DescriptorRow}
    (fixes : Fixes classes library db operation holdingId expression network descriptor)
    {row : DescriptorRow} {gapLimit : Nat} : ¬Patches db operation row gapLimit := by
  intro patches
  have requested := fixes.requested
  rw [patches.noFix] at requested
  cases requested

/-- A step keeps the coverage exactly when it keeps what is watched. -/
theorem gapCovered_step_iff (operation : HoldingOperation) (covered : GapCovered library db) :
    GapCovered library (holdingStep classes library db operation) ↔
      KeepsWatchedAddresses classes library db operation := by
  have write := holdingWrite_of_step classes library db operation
  have elsewhere : ∀ {db' : HoldingDatabase}, operation.fix classes db = none →
      (∀ descriptorId patch, operation ≠ .patchDescriptor descriptorId patch) →
        GapCovered library db' →
          (GapCovered library db' ↔ KeepsWatchedAddresses classes library db operation) := by
    intro db' noFix noPatch after
    refine iff_of_true after ⟨?_, ?_⟩
    · intro row gapLimit patches
      obtain ⟨patch, requested, -⟩ := patches.requested
      exact absurd requested (noPatch row.id patch)
    · intro holdingId expression network descriptor fixes
      have requested := fixes.requested
      rw [noFix] at requested
      cases requested
  generalize holdingStep classes library db operation = db' at write
  cases write with
  | kept noFix noPatch =>
      refine iff_of_true covered ⟨?_, ?_⟩
      · intro row gapLimit patches
        exact absurd patches (noPatch row gapLimit)
      · intro holdingId expression network descriptor fixes
        exact absurd fixes (noFix holdingId expression network descriptor)
  | created requested run =>
      obtain ⟨-, -, noFix, noPatch⟩ := creation_requested requested
      exact elsewhere noFix noPatch (created_covered run covered)
  | accountCreated run =>
      obtain ⟨rfl, -⟩ := createAccountRows_ok run
      exact elsewhere rfl (fun _ _ other => by cases other) covered
  | updated run =>
      obtain ⟨-, rfl, -⟩ := updateHolding_ok run
      exact elsewhere rfl (fun _ _ other => by cases other) covered
  | typeChanged run =>
      obtain ⟨row, -, -, -, -, rfl, -⟩ := changeHoldingType_ok run
      exact elsewhere rfl (fun _ _ other => by cases other) covered
  | attached _ _ imported =>
      exact elsewhere rfl (fun _ _ other => by cases other) (imported.covered covered)
  | @gapChanged _ row gapLimit patches =>
      rw [gapCovered_gapLimit_iff patches.stored covered]
      constructor
      · intro same
        refine ⟨?_, ?_⟩
        · intro other otherLimit otherPatches
          obtain ⟨patch, rfl, limit⟩ := patches.requested
          obtain ⟨otherPatch, requested, otherLimit⟩ := otherPatches.requested
          injection requested with sameId samePatch
          have only : other = row :=
            Table.eq_of_key_eq otherPatches.stored patches.stored sameId.symm
          rw [otherLimit, only, ← samePatch, ← limit, same]
        · intro holdingId expression network descriptor fixes
          exact absurd patches fixes.noPatch
      · intro keeps
        exact keeps.sameLimit row gapLimit patches
  | descriptorDeleted stored bare =>
      refine elsewhere rfl (fun _ _ other => by cases other) ?_
      intro row kept branch listed
      exact covered row (List.mem_of_mem_filter kept) branch listed
  | @fixed _ holdingId expression network descriptor fixes =>
      rw [gapCovered_withFix_iff fixes.applies.stored.1 covered]
      constructor
      · intro agree
        refine ⟨fun row gapLimit patches => absurd patches fixes.noPatch, ?_⟩
        intro otherHolding otherExpression otherNetwork otherDescriptor other
        have requested := other.requested
        rw [fixes.requested] at requested
        cases requested
        have first := other.applies.first
        rw [fixes.applies.first] at first
        cases first
        exact agree
      · intro keeps
        exact keeps.sameAddresses holdingId expression network descriptor fixes
  | scanned wrote => exact elsewhere rfl (fun _ _ other => by cases other) (wrote.covered covered)

/-- In exactly the runs whose steps keep what is watched, every branch is covered in every state. -/
theorem gapCovered_throughout_iff (classes : CharClasses) (library : DescriptorLibrary)
    (operations : List HoldingOperation) (db : HoldingDatabase) :
    Throughout (stepOf (holdingStep classes library)) (GapCovered library) (fun _ _ => True) .empty
        operations db ↔
      Run (guarded (stepOf (holdingStep classes library)) (KeepsWatchedAddresses classes library))
        .empty operations db := by
  apply Run.throughout_iff (I := fun _ => True)
  · intro before operation after _ _
    trivial
  · rintro before operation after - covered rfl
    rw [true_and]
    exact gapCovered_step_iff operation covered
  · trivial
  · intro row stored
    cases stored

/-- A purse that watches one address is told to watch two. -/
def widerGap : List HoldingOperation :=
  [.createPurse purseDetails [⟨"main", accountDescriptor, none, .mainnet, 1⟩] .watchOnly,
    .patchDescriptor 1 (some 2)]

/-- The second address is in no table. -/
theorem widerGap_not_covered :
    ¬∀ classes library operations db,
      Run (stepOf (holdingStep classes library)) .empty operations db → GapCovered library db := by
  intro covers
  have covered := covers .ascii accountLibrary widerGap _
    (Run.of_steps (holdingStep .ascii accountLibrary) widerGap .empty)
  generalize last : widerGap.foldl (holdingStep .ascii accountLibrary) .empty = db at covered
  have short : ∃ row ∈ db.descriptors.rows,
      (branchEntries db row.id false).length < row.gapLimit := by
    rw [← last]
    decide +kernel
  obtain ⟨row, stored, fewer⟩ := short
  have sameLength := (covered row stored (false, row.expression) List.mem_cons_self).length_eq
  rw [derivedEntries, List.length_map, List.length_range] at sameLength
  exact absurd sameLength (Nat.ne_of_lt fewer)

end TallyKeep
