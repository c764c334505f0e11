/-
Module: TallyKeep.Library.IndexedTable
Layer: Library
Purpose: Tables with a unique constraint besides their primary key, and inserts that a commit
  refuses as a whole.
Trusted boundary: none
Main exports: IndexedTable, IndexedTable.find?, IndexedTable.update, IndexedTable.insertAll?,
  IndexedTable.find?_update, IndexedTable.find?_insertAll?
-/
import TallyKeep.Library.Table

namespace Relational

universe u v w

/-- A table no two rows of which have the same index. -/
structure IndexedTable (α : Type u) {κ : Type v} [Keyed α κ] {ι : Type w} (index : α → ι) where
  table : Table α
  unique : (table.rows.map index).Nodup

namespace IndexedTable

variable {α : Type u} {κ : Type v} [Keyed α κ] {ι : Type w} {index : α → ι}

/-- A table is its rows. -/
@[ext] theorem ext {s t : IndexedTable α index} (same : s.table.rows = t.table.rows) : s = t := by
  obtain ⟨table, unique⟩ := s
  obtain ⟨table', unique'⟩ := t
  cases Table.ext same
  rfl

/-- The table without rows. -/
def empty : IndexedTable α index := ⟨.empty, List.nodup_nil⟩

/-- The rows in insertion order. -/
def rows (t : IndexedTable α index) : List α := t.table.rows

theorem eq_of_index_eq {t : IndexedTable α index} {r s : α} (rMem : r ∈ t.rows) (sMem : s ∈ t.rows)
    (same : index r = index s) : r = s :=
  List.inj_on_of_nodup_map t.unique rMem sMem same

/-- The rows with others added at the end; none is added when a key or an index would be there
    twice. -/
def insertAll? [DecidableEq κ] [DecidableEq ι] (t : IndexedTable α index) (added : List α) :
    Option (IndexedTable α index) :=
  if fits : ((t.rows ++ added).map key).Nodup ∧ ((t.rows ++ added).map index).Nodup then
    some ⟨⟨t.rows ++ added, fits.1⟩, fits.2⟩
  else none

theorem insertAll?_eq_some_iff [DecidableEq κ] [DecidableEq ι] {t t' : IndexedTable α index}
    {added : List α} : t.insertAll? added = some t' ↔ t'.rows = t.rows ++ added := by
  constructor
  · intro inserted
    rw [insertAll?] at inserted
    split at inserted
    · cases inserted
      rfl
    · cases inserted
  · intro same
    have fits : ((t.rows ++ added).map key).Nodup ∧ ((t.rows ++ added).map index).Nodup := by
      rw [← same]
      exact ⟨t'.table.keysNodup, t'.unique⟩
    obtain ⟨⟨rows, keysNodup⟩, unique⟩ := t'
    cases same
    rw [insertAll?, dif_pos fits]
    rfl

section ByKey

variable [DecidableEq κ]

/-- Read a row by primary key. -/
def get? (t : IndexedTable α index) (k : κ) : Option α := t.table.get? k

/-- Rewrite the row under one key, by a function that leaves key and index alone. -/
def update (t : IndexedTable α index) (k : κ) (f : α → α)
    (keeps : ∀ r, key (f r) = key r := by intro; rfl)
    (keepsIndex : ∀ r, index (f r) = index r := by intro; rfl) : IndexedTable α index :=
  ⟨t.table.update k f keeps, by
    have same : (t.table.update k f keeps).rows.map index = t.table.rows.map index := by
      simp only [Table.update, Table.rows_updateAll, List.map_map]
      apply List.map_congr_left
      intro r _
      simp only [Function.comp_apply]
      split
      · exact keepsIndex r
      · rfl
    rw [same]
    exact t.unique⟩

theorem get?_eq_some_iff {t : IndexedTable α index} {k : κ} {r : α} :
    t.get? k = some r ↔ r ∈ t.rows ∧ key r = k := Table.get?_eq_some_iff

theorem get?_of_mem {t : IndexedTable α index} {r : α} (member : r ∈ t.rows) :
    t.get? (key r) = some r := Table.get?_of_mem member

theorem get?_update (t : IndexedTable α index) (k k' : κ) (f : α → α)
    (keeps : ∀ r, key (f r) = key r) (keepsIndex : ∀ r, index (f r) = index r) :
    (t.update k f keeps keepsIndex).get? k' = if k' = k then (t.get? k).map f else t.get? k' :=
  Table.get?_update t.table k k' f keeps

end ByKey

section ByIndex

variable [DecidableEq ι]

/-- Read a row by its index. -/
def find? (t : IndexedTable α index) (i : ι) : Option α := t.rows.find? fun r => index r = i

theorem find?_eq_some_iff {t : IndexedTable α index} {i : ι} {r : α} :
    t.find? i = some r ↔ r ∈ t.rows ∧ index r = i := by
  constructor
  · intro found
    exact ⟨List.mem_of_find?_eq_some found, by simpa using List.find?_some found⟩
  · intro ⟨member, named⟩
    cases found : t.find? i with
    | none =>
        have absent := List.find?_eq_none.mp found r member
        simp [named] at absent
    | some s =>
        have other : index s = i := by simpa using List.find?_some found
        rw [eq_of_index_eq (List.mem_of_find?_eq_some found) member (other.trans named.symm)]

theorem find?_of_mem {t : IndexedTable α index} {r : α} (member : r ∈ t.rows) :
    t.find? (index r) = some r := find?_eq_some_iff.mpr ⟨member, rfl⟩

theorem find?_update [DecidableEq κ] (t : IndexedTable α index) (k : κ) (f : α → α)
    (keeps : ∀ r, key (f r) = key r) (keepsIndex : ∀ r, index (f r) = index r) (i : ι) :
    (t.update k f keeps keepsIndex).find? i =
      (t.find? i).map fun r => if key r = k then f r else r := by
  have same : ∀ r, index (if key r = k then f r else r) = index r := by
    intro r
    split
    · exact keepsIndex r
    · rfl
  change List.find? _ (List.map _ _) = _
  rw [List.find?_map]
  congr 2
  funext r
  simp [same]

theorem find?_insertAll? [DecidableEq κ] {t t' : IndexedTable α index} {added : List α}
    (inserted : t.insertAll? added = some t') (i : ι) :
    t'.find? i = (t.find? i).or (added.find? fun r => index r = i) := by
  rw [find?, insertAll?_eq_some_iff.mp inserted, List.find?_append]
  rfl

end ByIndex

end IndexedTable

end Relational
