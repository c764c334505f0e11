/-
Module: TallyKeep.Library.PartialIndex
Layer: Library
Purpose: Uniqueness among the rows of a table that satisfy a condition, and the writes that keep it.
Trusted boundary: none
Main exports: UniqueWhere, UniqueWhere.updateAll, uniqueWhere_insert_iff, uniqueWhere_update_iff
-/
import TallyKeep.Library.Table

namespace Relational

universe u v w

variable {α : Type u} {κ : Type v} [Keyed α κ] {β : Type w} {t : Table α} {p : α → Prop}
  {label : α → β}

/-- No two rows that satisfy the condition have one label. -/
def UniqueWhere (t : Table α) (p : α → Prop) (label : α → β) : Prop :=
  ∀ r ∈ t.rows, ∀ s ∈ t.rows, p r → p s → label r = label s → r = s

/-- No row that satisfies the condition has the label. -/
def Unoccupied (t : Table α) (p : α → Prop) (label : α → β) (b : β) : Prop :=
  ∀ r ∈ t.rows, p r → label r ≠ b

theorem uniqueWhere_empty : UniqueWhere (.empty : Table α) p label := by
  intro r member
  cases member

/-- A rewrite that keeps the labels and brings no row under the condition keeps uniqueness. -/
theorem UniqueWhere.updateAll (unique : UniqueWhere t p label) (f : α → α)
    (keeps : ∀ r, key (f r) = key r) (labels : ∀ r, label (f r) = label r)
    (narrower : ∀ r, p (f r) → p r) : UniqueWhere (t.updateAll f keeps) p label := by
  intro r rMember s sMember rHolds sHolds same
  obtain ⟨r', rMember', rfl⟩ := List.mem_map.mp rMember
  obtain ⟨s', sMember', rfl⟩ := List.mem_map.mp sMember
  rw [labels, labels] at same
  rw [unique r' rMember' s' sMember' (narrower r' rHolds) (narrower s' sHolds) same]

section Lookup

variable [DecidableEq κ]

/-- A new row that satisfies the condition may come exactly where its label is unoccupied. -/
theorem uniqueWhere_insert_iff (unique : UniqueWhere t p label) {r : α}
    (fresh : t.get? (key r) = none) (holds : p r) :
    UniqueWhere (t.insert r) p label ↔ Unoccupied t p label (label r) := by
  have absent : r ∉ t.rows := fun member =>
    Table.get?_eq_none_iff.mp fresh (List.mem_map_of_mem member)
  unfold UniqueWhere
  rw [Table.rows_insert_of_fresh fresh]
  constructor
  · intro inserted s member sHolds same
    have equal := inserted s (by simp [member]) r (by simp) sHolds holds same
    rw [equal] at member
    exact absent member
  · intro free a aMember b bMember aHolds bHolds same
    rcases List.mem_append.mp aMember with aOld | aNew <;>
      rcases List.mem_append.mp bMember with bOld | bNew
    · exact unique a aOld b bOld aHolds bHolds same
    · rw [List.mem_singleton.mp bNew] at same
      exact absurd same (free a aOld aHolds)
    · rw [List.mem_singleton.mp aNew] at same
      exact absurd same.symm (free b bOld bHolds)
    · rw [List.mem_singleton.mp aNew, List.mem_singleton.mp bNew]

/-- A row may be brought under the condition exactly where its label is unoccupied. -/
theorem uniqueWhere_update_iff (unique : UniqueWhere t p label) (f : α → α)
    (keeps : ∀ r, key (f r) = key r) {k : κ} {r : α} (found : t.get? k = some r) (before : ¬p r)
    (after : p (f r)) (labels : label (f r) = label r) :
    UniqueWhere (t.update k f keeps) p label ↔ Unoccupied t p label (label r) := by
  have member := Table.mem_of_get? found
  have rKey := Table.key_of_get? found
  have rows : ∀ s, s ∈ (t.update k f keeps).rows ↔ s = f r ∨ (s ∈ t.rows ∧ s ≠ r) := by
    intro s
    simp only [Table.update, Table.rows_updateAll, List.mem_map]
    constructor
    · rintro ⟨old, oldMember, rfl⟩
      split
      · next hit => exact .inl (by rw [Table.eq_of_key_eq oldMember member (hit.trans rKey.symm)])
      · next miss =>
        refine .inr ⟨oldMember, ?_⟩
        rintro rfl
        exact miss rKey
    · rintro (rfl | ⟨old, different⟩)
      · exact ⟨r, member, if_pos rKey⟩
      · refine ⟨s, old, if_neg ?_⟩
        intro same
        exact different (Table.eq_of_key_eq old member (same.trans rKey.symm))
  constructor
  · intro updated s sMember sHolds same
    have different : s ≠ r := by
      rintro rfl
      exact before sHolds
    have equal := updated s ((rows s).mpr (.inr ⟨sMember, different⟩)) (f r)
      ((rows (f r)).mpr (.inl rfl)) sHolds after (same.trans labels.symm)
    apply different
    apply Table.eq_of_key_eq sMember member
    rw [equal, keeps]
  · intro free a aMember b bMember aHolds bHolds same
    rcases (rows a).mp aMember with rfl | ⟨aOld, -⟩ <;>
      rcases (rows b).mp bMember with rfl | ⟨bOld, -⟩
    · rfl
    · exact absurd (same.symm.trans labels) (free b bOld bHolds)
    · exact absurd (same.trans labels) (free a aOld aHolds)
    · exact unique a aOld b bOld aHolds bHolds same

end Lookup

end Relational
