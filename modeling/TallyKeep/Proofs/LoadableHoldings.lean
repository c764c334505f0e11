/-
Module: TallyKeep.Proofs.LoadableHoldings
Layer: Proofs
Purpose: When every stored holding can be loaded throughout a run: every operation keeps to the rules
  of the constructor, but for a fix that marks a holding whose type must not carry the mark.
Trusted boundary: none
Main exports: check_marked_iff, MarksStrongboxes, holdingBook_of_step,
  everyHoldingLoads_throughout_iff
-/
import TallyKeep.Proofs.HoldingBook

namespace TallyKeep

open Regex Relational Transition

variable {classes : CharClasses} {library : DescriptorLibrary} {db db' : HoldingDatabase}

/-! ### The mark of a fix -/

/-- The columns with the mark that a fix writes. -/
def HoldingColumns.marked (columns : HoldingColumns) : HoldingColumns :=
  { columns with subtypeData := { columns.subtypeData with signingMetadataPresent := some true } }

/-- The columns of a holding of another type carry nothing of a strongbox. -/
theorem rejectStrongboxMetadata_of_check {columns : HoldingColumns} {holdingType : HoldingType}
    (other : holdingType ≠ .strongbox) (checked : columns.check holdingType = .ok ()) :
    columns.subtypeData.rejectStrongboxMetadata = .ok () := by
  cases outcome : columns.subtypeData.rejectStrongboxMetadata with
  | ok _ => rfl
  | error error =>
      cases vault : columns.subtypeData.rejectVaultMetadata <;>
        cases holdingType <;> cases custody : columns.declaredCustodyModel <;>
          simp [HoldingColumns.check, outcome, vault, custody, throw, throwThe, MonadExceptOf.throw,
            bind, Except.bind] at checked other

theorem rejectStrongboxMetadata_marked (columns : HoldingColumns) :
    columns.marked.subtypeData.rejectStrongboxMetadata ≠ .ok () := by
  rw [SubtypeData.rejectStrongboxMetadata]
  split
  · simp
  · split
    · simp
    · rw [if_pos (by simp [HoldingColumns.marked])]
      simp

/-- Only a strongbox may carry the mark. -/
theorem check_marked_iff {columns : HoldingColumns} {holdingType : HoldingType}
    (checked : columns.check holdingType = .ok ()) :
    columns.marked.check holdingType = .ok () ↔ holdingType = .strongbox := by
  constructor
  · intro passed
    by_contra other
    exact rejectStrongboxMetadata_marked columns (rejectStrongboxMetadata_of_check other passed)
  · rintro rfl
    exact checked

theorem withFix_kept {holdingId : Uuid} {expression : String} {network : Network}
    {descriptor : DescriptorRow}
    (applies : FixApplies classes library db holdingId expression network descriptor)
    (book : HoldingBook db) :
    HoldingBook (withFix db holdingId descriptor.id expression) ∧
      (AllRebuild db → (AllRebuild (withFix db holdingId descriptor.id expression) ↔
        ∃ row, db.holdings.get? holdingId = some row ∧ row.holdingType = .strongbox)) := by
  let columns := Function.update db.columns holdingId (db.columns holdingId).marked
  have same : SameOwners db (withFix db holdingId descriptor.id expression) :=
    sameOwners_update db columns descriptor.id (fun row => { row with expression := expression })
      (fun _ => rfl) fun _ => rfl
  have readable : ∀ row ∈ db.holdings.rows, ∃ purseMode,
      (columns row.id).subtypeData.readPurseMode = .ok purseMode := by
    intro row stored
    obtain ⟨purseMode, reads⟩ := book.readable row stored
    refine ⟨purseMode, ?_⟩
    by_cases own : row.id = holdingId
    · have marked : columns row.id = (db.columns holdingId).marked := by
        rw [own]
        exact Function.update_self _ _ _
      rw [own] at reads
      rw [marked]
      exact reads
    · have unmarked : columns row.id = db.columns row.id := Function.update_of_ne own _ _
      rw [unmarked]
      exact reads
  refine ⟨same.book book readable, fun rebuilds => ?_⟩
  obtain ⟨listed, holder⟩ := applies.stored
  obtain ⟨target, found, -⟩ := book.held descriptor listed
  rw [holder] at found
  obtain ⟨stored, ownId⟩ := Table.get?_eq_some_iff.mp found
  have marked : columns target.id = (db.columns target.id).marked := by
    rw [show target.id = holdingId from ownId]
    exact Function.update_self _ _ _
  have checked := check_marked_iff (rebuilds target stored).columns
  constructor
  · intro after
    have passed := (after target stored).columns
    exact ⟨target, found, checked.mp (by rw [← marked]; exact passed)⟩
  · rintro ⟨row, again, strongbox⟩ other member
    rw [found] at again
    cases again
    by_cases own : other.id = holdingId
    · have only : other = target := Table.eq_of_key_eq member stored (own.trans ownId.symm)
      rw [only]
      have before := rebuilds target stored
      refine ⟨before.relations.congr (same.ids target.id) (by rw [same.provider]), ?_⟩
      change (columns target.id).check target.holdingType = .ok ()
      rw [marked]
      exact checked.mpr strongbox
    · exact same.rebuilds (Function.update_of_ne own _ _) (rebuilds other member)

/-! ### Runs -/

/-- The fixes that an operation carries out are fixes of strongboxes. -/
def MarksStrongboxes (classes : CharClasses) (library : DescriptorLibrary) (db : HoldingDatabase)
    (operation : HoldingOperation) : Prop :=
  ∀ holdingId expression network descriptor,
    Fixes classes library db operation holdingId expression network descriptor →
      ∃ row, db.holdings.get? holdingId = some row ∧ row.holdingType = .strongbox

/-- A step keeps the book, and every holding loadable exactly when it marks only strongboxes. -/
theorem holding_step (operation : HoldingOperation) (book : HoldingBook db) :
    HoldingBook (holdingStep classes library db operation) ∧
      (AllRebuild db → (AllRebuild (holdingStep classes library db operation) ↔
        MarksStrongboxes classes library db operation)) := by
  have write := holdingWrite_of_step classes library db operation
  have unmarked : ∀ {db' : HoldingDatabase},
      (∀ holdingId expression network descriptor,
        ¬Fixes classes library db operation holdingId expression network descriptor) →
      HoldingBook db' ∧ (AllRebuild db → AllRebuild db') →
        HoldingBook db' ∧ (AllRebuild db →
          (AllRebuild db' ↔ MarksStrongboxes classes library db operation)) := by
    intro db' noFix kept
    refine ⟨kept.1, fun rebuilds => iff_of_true (kept.2 rebuilds) ?_⟩
    intro holdingId expression network descriptor fixes
    exact absurd fixes (noFix holdingId expression network descriptor)
  have noRequest : operation.fix classes db = none →
      ∀ holdingId expression network descriptor,
        ¬Fixes classes library db operation holdingId expression network descriptor := by
    intro none holdingId expression network descriptor fixes
    rw [fixes.requested] at none
    cases none
  generalize holdingStep classes library db operation = db' at write
  cases write with
  | kept noFix _ => exact unmarked noFix ⟨book, id⟩
  | created requested run =>
      obtain ⟨notAccount, readable, noFix, -⟩ := creation_requested requested
      exact unmarked (noRequest noFix) (created_kept book notAccount readable run)
  | accountCreated run => exact unmarked (noRequest rfl) (accountCreated_kept book run)
  | updated run => exact unmarked (noRequest rfl) (updated_kept book run)
  | typeChanged run => exact unmarked (noRequest rfl) (typeChanged_kept book run)
  | attached stored notAccount imported =>
      exact unmarked (noRequest rfl) (attached_kept book stored notAccount imported)
  | @gapChanged _ row gapLimit patches =>
      obtain ⟨patch, rfl, -⟩ := patches.requested
      have same := sameOwners_update db db.columns row.id
        (fun row => { row with gapLimit := gapLimit }) (fun _ => rfl) fun _ => rfl
      exact unmarked (noRequest rfl) (same.book_and_rebuilds rfl book)
  | @descriptorDeleted descriptorId stored bare =>
      obtain ⟨row, found⟩ := Option.isSome_iff_exists.mp stored
      obtain ⟨listed, rfl⟩ := Table.get?_eq_some_iff.mp found
      obtain ⟨address, known, same⟩ := book.addressed row listed
      exact absurd same (bare address known)
  | @fixed _ holdingId expression network descriptor fixes =>
      obtain ⟨after, marks⟩ := withFix_kept fixes.applies book
      refine ⟨after, fun rebuilds => (marks rebuilds).trans ⟨?_, ?_⟩⟩
      · intro strongbox otherHolding otherExpression otherNetwork otherDescriptor other
        have same := other.requested
        rw [fixes.requested] at same
        cases same
        exact strongbox
      · intro marksStrongboxes
        exact marksStrongboxes holdingId expression network descriptor fixes
  | scanned wrote =>
      exact unmarked (noRequest rfl) (wrote.sameOwners.book_and_rebuilds (by rw [wrote.frame]) book)

theorem holdingBook_empty : HoldingBook .empty := by
  refine ⟨?_, ?_, ?_, ?_, ?_⟩ <;> simp [HoldingDatabase.empty, Database.empty]

/-- In exactly the runs whose fixes are fixes of strongboxes, every holding can be loaded in every
    state. -/
theorem everyHoldingLoads_throughout_iff (classes : CharClasses) (library : DescriptorLibrary)
    (operations : List HoldingOperation) (db : HoldingDatabase) :
    Throughout (stepOf (holdingStep classes library)) EveryHoldingLoads (fun _ _ => True) .empty
        operations db ↔
      Run (guarded (stepOf (holdingStep classes library)) (MarksStrongboxes classes library)) .empty
        operations db := by
  apply Run.throughout_iff (I := HoldingBook)
  · rintro before operation after book rfl
    exact (holding_step operation book).1
  · rintro before operation after book loads rfl
    obtain ⟨next, marks⟩ := @holding_step classes library before operation book
    rw [true_and, next.everyHoldingLoads_iff]
    exact marks (book.everyHoldingLoads_iff.mp loads)
  · exact holdingBook_empty
  · rw [holdingBook_empty.everyHoldingLoads_iff]
    intro row stored
    cases stored

/-! ### A purse whose metadata is fixed -/

/-- A watch-only purse is created, and the export of its wallet with the key's origin is submitted. -/
def fixOfPurse : List HoldingOperation :=
  [.createPurse purseDetails [⟨"main", accountDescriptor, none, .mainnet, 1⟩] .watchOnly,
    .fixMetadataReexport 1 accountDescriptorWithOrigin (some .mainnet)]

/-- The purse can no longer be loaded. -/
theorem fixOfPurse_not_loadable :
    ¬∀ classes library operations db,
      Run (stepOf (holdingStep classes library)) .empty operations db → EveryHoldingLoads db := by
  intro loads
  obtain ⟨holding, loaded⟩ := (loads .ascii accountLibrary fixOfPurse _
    (Run.of_steps (holdingStep .ascii accountLibrary) fixOfPurse .empty)).loaded 1
  have raises : (HoldingService.getHolding
      (fixOfPurse.foldl (holdingStep .ascii accountLibrary) .empty) 1).isOk = false := by
    decide +kernel
  rw [loaded] at raises
  cases raises

end TallyKeep
