/-
Module: TallyKeep.Library.SharedGroups
Layer: Library
Purpose: Items that belong to a group and to a batch: which groups several batches share, and marks
  that say so exactly while items are appended, rewritten and dropped.
Trusted boundary: none
Main exports: Shared, Meets, ExactMarks, shared_concat, shared_map, shared_filter,
  ExactMarks.concat_map, ExactMarks.map, ExactMarks.filter
-/
import Mathlib.Data.List.Basic

namespace SharedGroups

universe u v w

variable {α : Type u} {γ : Type v} {β : Type w}

/-- Items of two batches are in the group. -/
def Shared (group : α → γ) (batch : α → β) (items : List α) (g : γ) : Prop :=
  ∃ x ∈ items, ∃ y ∈ items, group x = g ∧ group y = g ∧ batch x ≠ batch y

/-- The item's group has an item of another batch. -/
def Meets (group : α → γ) (batch : α → β) (items : List α) (x : α) : Prop :=
  ∃ y ∈ items, group y = group x ∧ batch y ≠ batch x

/-- The marked items are those of shared groups. -/
def ExactMarks (group : α → γ) (batch : α → β) (marked : α → Prop) (items : List α) : Prop :=
  ∀ x ∈ items, marked x ↔ Shared group batch items (group x)

section Shared

variable {group : α → γ} {batch : α → β} {items : List α} {x : α} {g : γ}

/-- Whoever joins a shared group meets another batch. -/
theorem meets_of_shared (shared : Shared group batch items (group x)) :
    Meets group batch items x := by
  obtain ⟨y, yMem, z, zMem, yGroup, zGroup, apart⟩ := shared
  by_cases same : batch y = batch x
  · exact ⟨z, zMem, zGroup, fun zSame => apart (same.trans zSame.symm)⟩
  · exact ⟨y, yMem, yGroup, same⟩

/-- One more item makes its group shared when it meets another batch there. -/
theorem shared_concat : Shared group batch (items ++ [x]) g ↔
    Shared group batch items g ∨ (group x = g ∧ Meets group batch items x) := by
  constructor
  · rintro ⟨y, yMem, z, zMem, yGroup, zGroup, apart⟩
    rcases List.mem_append.mp yMem with yOld | yNew
    · rcases List.mem_append.mp zMem with zOld | zNew
      · exact .inl ⟨y, yOld, z, zOld, yGroup, zGroup, apart⟩
      · rw [List.mem_singleton.mp zNew] at zGroup apart
        exact .inr ⟨zGroup, y, yOld, yGroup.trans zGroup.symm, apart⟩
    · rw [List.mem_singleton.mp yNew] at yGroup apart
      rcases List.mem_append.mp zMem with zOld | zNew
      · exact .inr ⟨yGroup, z, zOld, zGroup.trans yGroup.symm, Ne.symm apart⟩
      · rw [List.mem_singleton.mp zNew] at apart
        exact absurd rfl apart
  · rintro (⟨y, yMem, z, zMem, both⟩ | ⟨xGroup, y, yMem, yGroup, apart⟩)
    · exact ⟨y, List.mem_append_left _ yMem, z, List.mem_append_left _ zMem, both⟩
    · exact ⟨y, List.mem_append_left _ yMem, x,
        List.mem_append_right _ (List.mem_singleton.mpr rfl), yGroup.trans xGroup, xGroup, apart⟩

theorem shared_map {f : α → α} (sameGroup : ∀ x, group (f x) = group x)
    (sameBatch : ∀ x, batch (f x) = batch x) :
    Shared group batch (items.map f) g ↔ Shared group batch items g := by
  simp only [Shared, List.mem_map, exists_exists_and_eq_and, sameGroup, sameBatch]

/-- A group that is dropped as a whole or not at all stays shared where it is kept. -/
theorem shared_filter {p : α → Bool} (kept : ∀ x ∈ items, group x = g → p x = true) :
    Shared group batch (items.filter p) g ↔ Shared group batch items g := by
  constructor
  · rintro ⟨y, yMem, z, zMem, both⟩
    exact ⟨y, List.mem_of_mem_filter yMem, z, List.mem_of_mem_filter zMem, both⟩
  · rintro ⟨y, yMem, z, zMem, yGroup, zGroup, apart⟩
    exact ⟨y, List.mem_filter.mpr ⟨yMem, kept y yMem yGroup⟩, z,
      List.mem_filter.mpr ⟨zMem, kept z zMem zGroup⟩, yGroup, zGroup, apart⟩

end Shared

namespace ExactMarks

variable {group : α → γ} {batch : α → β} {marked : α → Prop} {items : List α} {f : α → α}

/-- A rewrite that keeps group, batch and mark. -/
theorem map (exact : ExactMarks group batch marked items)
    (sameGroup : ∀ x, group (f x) = group x) (sameBatch : ∀ x, batch (f x) = batch x)
    (sameMark : ∀ x, marked (f x) ↔ marked x) : ExactMarks group batch marked (items.map f) := by
  intro y member
  obtain ⟨x, xMem, rfl⟩ := List.mem_map.mp member
  rw [sameMark, sameGroup, shared_map sameGroup sameBatch]
  exact exact x xMem

/-- A selection of whole groups. -/
theorem filter (exact : ExactMarks group batch marked items) {p : α → Bool}
    (whole : ∀ x ∈ items, ∀ y ∈ items, group y = group x → p x = true → p y = true) :
    ExactMarks group batch marked (items.filter p) := by
  intro x member
  obtain ⟨xMem, xKept⟩ := List.mem_filter.mp member
  rw [shared_filter fun y yMem same => whole x xMem y yMem same xKept]
  exact exact x xMem

/-- One more item, marked when it meets another batch, with the marks of its group then set. -/
theorem concat_map (exact : ExactMarks group batch marked items) {x : α}
    (sameGroup : ∀ x, group (f x) = group x) (sameBatch : ∀ x, batch (f x) = batch x)
    (newcomer : marked (f x) ↔ Meets group batch items x)
    (members : ∀ y ∈ items, marked (f y) ↔
      marked y ∨ (group x = group y ∧ Meets group batch items x)) :
    ExactMarks group batch marked ((items ++ [x]).map f) := by
  intro z member
  obtain ⟨y, yMem, rfl⟩ := List.mem_map.mp member
  rw [sameGroup, shared_map sameGroup sameBatch, shared_concat]
  rcases List.mem_append.mp yMem with old | new
  · rw [members y old, exact y old]
  · rw [List.mem_singleton.mp new, newcomer]
    constructor
    · intro meets
      exact .inr ⟨rfl, meets⟩
    · rintro (shared | ⟨-, meets⟩)
      · exact meets_of_shared shared
      · exact meets

end ExactMarks

end SharedGroups
