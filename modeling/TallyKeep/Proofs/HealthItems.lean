/-
Module: TallyKeep.Proofs.HealthItems
Layer: Proofs
Purpose: Which items of the security health list are open together, along every run of its
  operations.
Trusted boundary: none
Main exports: OneOpenEach, RevivesAlone, oneOpenEach_healthStep_iff, oneOpenEach_iff,
  revived_beside_open
-/
import TallyKeep.Library.PartialIndex
import TallyKeep.Library.Transition
import TallyKeep.Services.SecurityHealth

namespace TallyKeep

open Relational SecurityHealthRepo Transition

/-! ### The law -/

/-- What an open item is told apart by. -/
def SecurityHealthItem.subject (item : SecurityHealthItem) : HealthItemType × Option Uuid :=
  (item.itemType, item.holdingId)

def SecurityHealthItem.IsOpen (item : SecurityHealthItem) : Prop := item.state = .opened

/-- At most one item is open for a type and a holding, or no holding. -/
def OneOpenEach (db : HealthDatabase) : Prop :=
  UniqueWhere db.items SecurityHealthItem.IsOpen SecurityHealthItem.subject

/-- An item has the time it was resolved exactly when it is not open. -/
def ResolvedTimed (db : HealthDatabase) : Prop :=
  ∀ item ∈ db.items.rows, item.resolvedAt = none ↔ item.state = .opened

/-- What is asked of every state. -/
structure HealthLaw (db : HealthDatabase) : Prop where
  one : OneOpenEach db
  timed : ResolvedTimed db

theorem hasOpenItemOfType_eq_false_iff {db : HealthDatabase} {itemType : HealthItemType}
    {holdingId : Option Uuid} :
    hasOpenItemOfType db itemType holdingId = false ↔
      Unoccupied db.items SecurityHealthItem.IsOpen SecurityHealthItem.subject
        (itemType, holdingId) := by
  simp [hasOpenItemOfType, isOpenOf, Unoccupied, SecurityHealthItem.IsOpen,
    SecurityHealthItem.subject, List.any_eq_false]

/-! ### What the writes keep -/

section Writes

variable {db : HealthDatabase} {now : Timestamp}

theorem healthLaw_empty {db : HealthDatabase} (empty : db.items = .empty) : HealthLaw db := by
  constructor
  · rw [OneOpenEach, empty]
    exact uniqueWhere_empty
  · intro item member
    rw [empty] at member
    cases member

/-- An item that is emitted finds no other open. -/
theorem healthLaw_emitItem (law : HealthLaw db) (id : Uuid) (itemType : HealthItemType)
    (holdingId : Option Uuid) (severity : HealthItemSeverity)
    (rawContext : List (String × String)) (now : Timestamp) :
    HealthLaw (afterOutcome db (emitItem db id itemType holdingId severity rawContext now)) := by
  unfold emitItem
  split
  · exact law
  · next free =>
    unfold SecurityHealthRepo.insert
    split
    · exact law
    · next fresh =>
      split
      · exact law
      · have absent : db.items.get? id = none := by simpa using fresh
        constructor
        · refine (uniqueWhere_insert_iff law.one absent ?_).mpr ?_
          · rfl
          · exact hasOpenItemOfType_eq_false_iff.mp (Bool.eq_false_of_not_eq_true free)
        · intro item member
          change item ∈ (db.items.insert _).rows at member
          rw [Table.rows_insert_of_fresh absent] at member
          rcases List.mem_append.mp member with old | new
          · exact law.timed item old
          · rw [List.mem_singleton.mp new]
            exact iff_of_true rfl rfl

/-- A rewrite that resolves some of the items and leaves the others keeps the law. -/
theorem healthLaw_updateAll (law : HealthLaw db) (f : SecurityHealthItem → SecurityHealthItem)
    (keeps : ∀ item, key (f item) = key item) {newState : HealthItemState}
    {dismissalReason : Option String} (closing : newState ≠ .opened)
    (resolves : ∀ item, f item = item ∨ f item = resolved newState dismissalReason now item)
    (acknowledgedAt : Option Timestamp) :
    HealthLaw { db with
      items := db.items.updateAll f keeps, principlesAcknowledgedAt := acknowledgedAt } := by
  constructor
  · apply law.one.updateAll f keeps
    · intro item
      rcases resolves item with same | done
      · rw [same]
      · rw [done]
        rfl
    · intro item opened
      rcases resolves item with same | done
      · rwa [same] at opened
      · rw [done] at opened
        exact absurd opened closing
  · intro item member
    obtain ⟨old, oldMember, rfl⟩ := List.mem_map.mp member
    rcases resolves old with same | done
    · rw [same]
      exact law.timed old oldMember
    · rw [done]
      exact iff_of_false (by simp [resolved]) closing

theorem healthLaw_resolveOpenItems (law : HealthLaw db) (holdingId : Option Uuid)
    (itemType : HealthItemType) {newState : HealthItemState} (closing : newState ≠ .opened) :
    HealthLaw (resolveOpenItemsForHolding db holdingId itemType newState now).1 := by
  exact healthLaw_updateAll law _ _ closing (fun _ => (ite_eq_or_eq _ _ _).symm) _

theorem healthLaw_resolveItem (law : HealthLaw db) (itemId : Uuid) (newState : HealthItemState)
    (dismissalReason : Option String) (now : Timestamp) :
    HealthLaw (afterOutcome db (resolveItem db itemId newState dismissalReason now)) := by
  unfold resolveItem
  split
  · exact law
  · next item _ =>
    split
    · exact law
    · next valid =>
      have closing : newState ≠ .opened := by
        intro same
        simp [validTransition, same] at valid
      have kept : ∀ item : SecurityHealthItem, key (if key item = itemId then
          resolved newState dismissalReason now item else item) = key item := by
        intro item
        split <;> rfl
      dsimp only [afterOutcome]
      split
      · exact healthLaw_updateAll law _ kept closing (fun _ => (ite_eq_or_eq _ _ _).symm) _
      · exact healthLaw_updateAll law _ kept closing (fun _ => (ite_eq_or_eq _ _ _).symm) _

end Writes

/-! ### Revivals -/

/-- An item that is revived finds no other open for its type and holding. -/
def RevivesAlone (db : HealthDatabase) : HealthOperation → Prop
  | .revive itemId => ∀ item, db.items.get? itemId = some item →
      item.state = .dismissedIntentional →
        hasOpenItemOfType db item.itemType item.holdingId = false
  | _ => True

theorem healthLaw_reviveItem_iff {db : HealthDatabase} (law : HealthLaw db) (itemId : Uuid) :
    HealthLaw (afterOutcome db (reviveItem db itemId)) ↔ RevivesAlone db (.revive itemId) := by
  unfold reviveItem
  split
  · next absent =>
    refine iff_of_true law ?_
    intro item found
    rw [absent] at found
    cases found
  · next item found =>
    split
    · next permanent =>
      refine iff_of_true law ?_
      intro other found' dismissed
      cases found.symm.trans found'
      exact absurd dismissed permanent
    · next dismissed =>
      have state : item.state = .dismissedIntentional := not_not.mp dismissed
      have one := uniqueWhere_update_iff law.one revived (fun _ => rfl) found
        (by simp [SecurityHealthItem.IsOpen, state]) rfl rfl
      have alone : RevivesAlone db (.revive itemId) ↔
          Unoccupied db.items SecurityHealthItem.IsOpen SecurityHealthItem.subject
            item.subject := by
        rw [SecurityHealthItem.subject, ← hasOpenItemOfType_eq_false_iff]
        constructor
        · intro alone
          exact alone item found state
        · intro free other found' _
          cases found.symm.trans found'
          exact free
      rw [alone]
      constructor
      · intro after
        exact one.mp after.one
      · intro free
        refine ⟨one.mpr free, ?_⟩
        intro other member
        obtain ⟨old, oldMember, rfl⟩ := List.mem_map.mp member
        split
        · exact iff_of_true rfl rfl
        · exact law.timed old oldMember

/-! ### Steps and runs -/

theorem healthLaw_healthStep_iff {db : HealthDatabase} (law : HealthLaw db)
    (operation : HealthOperation) :
    HealthLaw (healthStep db operation) ↔ RevivesAlone db operation := by
  cases operation with
  | revive itemId => exact healthLaw_reviveItem_iff law itemId
  | emitSeedBackup holdingId purseMode id now =>
      exact iff_of_true (healthLaw_emitItem law _ _ _ _ _ _) trivial
  | emitMissingSigningMetadata holdingId vendor id now =>
      exact iff_of_true (healthLaw_emitItem law _ _ _ _ _ _) trivial
  | emitPrinciplesAck id now => exact iff_of_true (healthLaw_emitItem law _ _ _ _ _ _) trivial
  | resolve itemId newState dismissalReason now =>
      exact iff_of_true (healthLaw_resolveItem law _ _ _ _) trivial
  | resolveMissingMetadata holdingId now =>
      exact iff_of_true (healthLaw_resolveOpenItems law _ _ (by decide)) trivial
  | acknowledgePrinciples now =>
      have acknowledged : HealthLaw (db.acknowledged now) := ⟨law.one, law.timed⟩
      exact iff_of_true (healthLaw_resolveOpenItems acknowledged _ _ (by decide)) trivial

/-- No item, any holdings and any profile. -/
def HealthDatabase.withoutItems (holdingName : Uuid → Option String)
    (acknowledgedAt : Option Timestamp) : HealthDatabase := ⟨.empty, holdingName, acknowledgedAt⟩

/-- From a list without items, every state of a run has at most one open item for a type and a
    holding, and the times that go with the states, exactly when no revival of the run finds
    another item open. -/
theorem oneOpenEach_iff {holdingName : Uuid → Option String} {acknowledgedAt : Option Timestamp}
    {operations : List HealthOperation} {db : HealthDatabase} :
    Throughout (stepOf healthStep) HealthLaw (fun _ _ => True)
        (.withoutItems holdingName acknowledgedAt) operations db ↔
      Run (guarded (stepOf healthStep) RevivesAlone)
        (.withoutItems holdingName acknowledgedAt) operations db := by
  apply Run.throughout_iff (I := fun _ => True) (fun _ _ _ _ _ => trivial) _ trivial
    (healthLaw_empty rfl)
  intro before operation after _ law taken
  rw [taken, healthLaw_healthStep_iff law operation]
  exact and_iff_right trivial

/-- A dismissed item is emitted anew, and then revived beside the new one. -/
theorem revived_beside_open :
    ∃ operations db, Run (stepOf healthStep) (.withoutItems (fun _ => some "Purse") none)
        operations db ∧
      (db.items.select (isOpenOf .seedBackup (some 7))).map SecurityHealthItem.id = [1, 2] ∧
        ¬HealthLaw db := by
  refine ⟨[.emitSeedBackup 7 "on_device" 1 10, .resolve 1 .dismissedIntentional none 20,
    .emitSeedBackup 7 "on_device" 2 30, .revive 1], _, Run.of_steps _ _ _, by decide, ?_⟩
  intro law
  have same := law.one _ (List.getElem_mem (n := 0) (by decide)) _
    (List.getElem_mem (n := 1) (by decide)) rfl rfl rfl
  exact absurd (congrArg SecurityHealthItem.id same) (by decide)

end TallyKeep
