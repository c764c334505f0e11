/-
Module: TallyKeep.Proofs.FixedWallets
Layer: Proofs
Purpose: When a fix of the key-origin metadata leaves a holding with the wallet it watches.
Trusted boundary: none
Main exports: checkedRows, DerivesChecked, FixKeepsWallet, FixDecides, fixKeepsWallet_iff
-/
import TallyKeep.Api.FixMetadata
import TallyKeep.Proofs.HoldingSteps

namespace TallyKeep

open Regex Relational

variable {classes : CharClasses} {library : DescriptorLibrary} {book : MetadataBook}
  {holdingId : Uuid} {request : FixRequest} {network : Option Network} {now : Timestamp}

/-! ### The law -/

/-- The address rows a fix is checked against: the first 20 of the external branch. -/
def checkedRows (db : HoldingDatabase) (descriptorId : Uuid) : List AddressRow :=
  ((DescriptorRepo.listAddressesForDescriptor db.toDatabase descriptorId false).mergeSort
    fun row other => decide (row.derivationIndex ≤ other.derivationIndex)).take 20

theorem storedAddresses_eq (db : HoldingDatabase) (descriptorId : Uuid) :
    storedAddresses db descriptorId = (checkedRows db descriptorId).map AddressRow.address := rfl

/-- The expression derives every checked address at its index. -/
def DerivesChecked (library : DescriptorLibrary) (db : HoldingDatabase) (descriptorId : Uuid)
    (expression : String) (network : Network) : Prop :=
  ∀ row ∈ checkedRows db descriptorId,
    library.deriveAddress expression network row.derivationIndex = row.address

/-- A fix never swaps the wallet: where it reports success, the descriptor it rewrote derives the
    checked addresses, and elsewhere nothing is written. -/
structure FixKeepsWallet (classes : CharClasses) (library : DescriptorLibrary) (book : MetadataBook)
    (holdingId : Uuid) (request : FixRequest) (network : Option Network) (now : Timestamp) :
    Prop where
  succeeded : ∀ after response,
    fixMetadata classes library book holdingId request network now = .ok (after, response) →
    response.success = true → ∀ descriptor row,
      (DescriptorRepo.listDescriptorsForHolding book.db.toDatabase holdingId).head? =
        some descriptor →
      after.db.descriptors.get? descriptor.id = some row →
        DerivesChecked library book.db descriptor.id row.expression row.network
  failed : reportsSuccess (fixMetadata classes library book holdingId request network now) =
      false →
    afterFix book (fixMetadata classes library book holdingId request network now) = book

/-! ### The expression of a request -/

/-- The expression a request asks to store. -/
def FixRequest.expression (classes : CharClasses) (db : HoldingDatabase) (holdingId : Uuid) :
    FixRequest → Option String
  | .reexport expression => some expression
  | .manual masterFingerprint derivationPath =>
      (DescriptorRepo.listDescriptorsForHolding db.toDatabase holdingId).head?.map fun descriptor =>
        manualExpression classes descriptor masterFingerprint derivationPath

/-- A request with an expression is the fix with it. -/
theorem fixMetadata_of_expression (library : DescriptorLibrary) (network : Option Network)
    (now : Timestamp) {expression : String}
    (asked : request.expression classes book.db holdingId = some expression) :
    fixMetadata classes library book holdingId request network now =
      (applyFixMetadata classes library book.db holdingId expression network).map fun answer =>
        (⟨answer.1, if answer.2.success then
            (resolveMissingMetadataItemsForHolding book.health holdingId now).db
          else book.health⟩, answer.2) := by
  cases request with
  | reexport submitted =>
      cases asked
      rw [fixMetadata]
      cases applyFixMetadata classes library book.db holdingId expression network <;> rfl
  | manual masterFingerprint derivationPath =>
      rw [FixRequest.expression, Option.map_eq_some_iff] at asked
      obtain ⟨descriptor, listed, same⟩ := asked
      obtain ⟨rest, descriptors⟩ := List.head?_eq_some_iff.mp listed
      rw [fixMetadata]
      simp only [fixMetadataManual, descriptors]
      rw [manualExpression] at same
      rw [same]
      cases applyFixMetadata classes library book.db holdingId expression network <;> rfl

/-- A request without an expression raises. -/
theorem fixMetadata_of_none (library : DescriptorLibrary) (network : Option Network)
    (now : Timestamp) (asked : request.expression classes book.db holdingId = none) :
    ∃ error, fixMetadata classes library book holdingId request network now = .error error := by
  cases request with
  | reexport submitted => cases asked
  | manual masterFingerprint derivationPath =>
      rw [FixRequest.expression, Option.map_eq_none_iff, List.head?_eq_none_iff] at asked
      rw [fixMetadata]
      simp only [fixMetadataManual, asked]
      exact ⟨_, rfl⟩

/-! ### The condition -/

/-- One address tells the wallet: an expression that names an origin, parses, is new and derives one
    of the checked addresses at whatever index derives each of them at its own. -/
def FixDecides (classes : CharClasses) (library : DescriptorLibrary) (book : MetadataBook)
    (holdingId : Uuid) (request : FixRequest) (network : Option Network) : Prop :=
  ∀ expression known descriptor,
    request.expression classes book.db holdingId = some expression → network = some known →
    FixApplies classes library book.db holdingId expression known descriptor →
      DerivesChecked library book.db descriptor.id expression descriptor.network

/-- The descriptor a fix has rewritten. -/
theorem get?_withFix {db : HoldingDatabase} {expression : String} {known : Network}
    {descriptor : DescriptorRow}
    (applies : FixApplies classes library db holdingId expression known descriptor) :
    (withFix db holdingId descriptor.id expression).descriptors.get? descriptor.id =
      some { descriptor with expression := expression } := by
  have stored := Table.get?_of_mem applies.stored.1
  rw [withFix, Table.get?_update, if_pos rfl]
  change (db.descriptors.get? (key descriptor)).map _ = _
  rw [stored]
  rfl

/-- A fix that reports success has gone through. -/
theorem applies_of_success {after : MetadataBook} {response : FixMetadataResponse}
    (run : fixMetadata classes library book holdingId request network now = .ok (after, response))
    (success : response.success = true) :
    ∃ expression known descriptor,
      request.expression classes book.db holdingId = some expression ∧ network = some known ∧
        FixApplies classes library book.db holdingId expression known descriptor ∧
          after.db = withFix book.db holdingId descriptor.id expression := by
  cases asked : request.expression classes book.db holdingId with
  | none =>
      obtain ⟨error, raised⟩ := fixMetadata_of_none library network now asked
      rw [raised] at run
      cases run
  | some expression =>
      rw [fixMetadata_of_expression library network now asked, map_ok_iff] at run
      obtain ⟨⟨db, answer⟩, fix, same⟩ := run
      cases same
      rcases applyFixMetadata_ok fix with ⟨refused, -⟩ | ⟨-, known, descriptor, rfl, applies, rfl⟩
      · rw [refused] at success
        cases success
      · exact ⟨expression, known, descriptor, rfl, rfl, applies, rfl⟩

/-- A fix that reports no success has written nothing. -/
theorem afterFix_of_failure
    (failed : reportsSuccess (fixMetadata classes library book holdingId request network now) =
      false) :
    afterFix book (fixMetadata classes library book holdingId request network now) = book := by
  cases run : fixMetadata classes library book holdingId request network now with
  | error error => rfl
  | ok answer =>
      obtain ⟨after, response⟩ := answer
      rw [run] at failed
      change response.success = false at failed
      cases asked : request.expression classes book.db holdingId with
      | none =>
          obtain ⟨error, raised⟩ := fixMetadata_of_none library network now asked
          rw [raised] at run
          cases run
      | some expression =>
          rw [fixMetadata_of_expression library network now asked, map_ok_iff] at run
          obtain ⟨⟨db, answer⟩, fix, same⟩ := run
          cases same
          rcases applyFixMetadata_ok fix with ⟨-, rfl⟩ | ⟨success, -⟩
          · change answer.success = false at failed
            simp [afterFix, failed]
          · rw [failed] at success
            cases success

/-- A fix never swaps the wallet exactly when one address tells it. -/
theorem fixKeepsWallet_iff (classes : CharClasses) (library : DescriptorLibrary)
    (book : MetadataBook) (holdingId : Uuid) (request : FixRequest) (network : Option Network)
    (now : Timestamp) :
    FixKeepsWallet classes library book holdingId request network now ↔
      FixDecides classes library book holdingId request network := by
  constructor
  · intro keeps expression known descriptor asked same applies
    subst same
    obtain ⟨response, success, fix⟩ := applyFixMetadata_of_applies applies
    have run := fixMetadata_of_expression library (some known) now asked
    rw [fix] at run
    exact keeps.succeeded _ _ run success descriptor _ applies.first (get?_withFix applies)
  · intro decides
    refine ⟨?_, afterFix_of_failure⟩
    intro after response run success descriptor row first found
    obtain ⟨expression, known, rewritten, asked, same, applies, written⟩ :=
      applies_of_success run success
    have sameRow : rewritten = descriptor :=
      Option.some.inj (applies.first.symm.trans first)
    subst sameRow
    rw [written, get?_withFix applies] at found
    cases found
    exact decides expression known rewritten asked same applies

/-! ### A descriptor without a wildcard -/

/-- The first address of an account with the origin of its key: every index derives it. -/
def fixedDescriptor : String :=
  "wpkh([73c5da0a/84h/0h/0h]xpub6CatWdiZiodmUeTDp8LT5or8nmbKNcuyvz7WyksVFkKB4RHwCD3XyuvPEbvqAQY3r" ++
    "APshWcMLoP2fMFMKHPJ4ZeZXYVUhLv1VMrjPC7PW6V/0/0)"

/-- The library of the account, which knows this descriptor too. -/
def fixedLibrary : DescriptorLibrary :=
  { accountLibrary with
    deriveAddress := fun text network index =>
      accountLibrary.deriveAddress text network (if text = fixedDescriptor then 0 else index) }

/-- A strongbox watches the first two addresses of the account. -/
def watchedAccount : MetadataBook where
  db := holdingStep .ascii fixedLibrary .empty
    (.createStrongbox purseDetails [⟨"main", accountDescriptor, none, .mainnet, 2⟩] none none
      (some false))
  health := ⟨.empty, fun _ => none, none⟩

/-- The descriptor of the strongbox. -/
def watchedDescriptor : DescriptorRow :=
  ⟨1, 1, accountDescriptor, none, .mainnet, .nativeSegwit, 2, 0⟩

theorem checkedRows_watchedAccount :
    checkedRows watchedAccount.db 1 =
      [⟨1, 1, "bc1qcr8te4kr609gcawutmrza0j4xv80jy8z306fyu", false, 0, none, none, false⟩,
        ⟨2, 1, "bc1qnjg0jd8228aq7egyzacy8cys3knf9xvrerkf9g", false, 1, none, none, false⟩] := by
  have listed : DescriptorRepo.listAddressesForDescriptor watchedAccount.db.toDatabase 1 false =
      [⟨1, 1, "bc1qcr8te4kr609gcawutmrza0j4xv80jy8z306fyu", false, 0, none, none, false⟩,
        ⟨2, 1, "bc1qnjg0jd8228aq7egyzacy8cys3knf9xvrerkf9g", false, 1, none, none, false⟩] := by
    decide +kernel
  rw [checkedRows, listed, List.mergeSort_of_pairwise (by simp)]
  rfl

theorem fixApplies_fixed :
    FixApplies .ascii fixedLibrary watchedAccount.db 1 fixedDescriptor .mainnet
      watchedDescriptor where
  origin := by decide +kernel
  parsed := by decide +kernel
  first := by decide +kernel
  matched := by
    have own : watchedDescriptor.id = 1 := rfl
    rw [storedAddresses_eq, own, checkedRows_watchedAccount]
    refine ⟨_, List.mem_cons_self, ?_⟩
    decide +kernel
  unused := by decide +kernel

/-- The first address is derived, so the fix succeeds, and the second one never is again. -/
theorem not_fixKeepsWallet_of_fixed :
    ¬FixKeepsWallet .ascii fixedLibrary watchedAccount 1 (.reexport fixedDescriptor)
      (some .mainnet) 0 := by
  intro keeps
  obtain ⟨response, success, fix⟩ := applyFixMetadata_of_applies fixApplies_fixed
  have run := @fixMetadata_of_expression .ascii watchedAccount 1 (.reexport fixedDescriptor)
    fixedLibrary (some .mainnet) 0 fixedDescriptor rfl
  rw [fix] at run
  have derives := keeps.succeeded _ _ run success watchedDescriptor _ fixApplies_fixed.first
    (get?_withFix fixApplies_fixed)
  have second := derives
    ⟨2, 1, "bc1qnjg0jd8228aq7egyzacy8cys3knf9xvrerkf9g", false, 1, none, none, false⟩ (by
      change _ ∈ checkedRows watchedAccount.db 1
      rw [checkedRows_watchedAccount]
      exact List.mem_cons_of_mem _ List.mem_cons_self)
  revert second
  decide

end TallyKeep
