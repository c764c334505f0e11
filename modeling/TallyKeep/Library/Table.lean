/-
Module: TallyKeep.Library.Table
Layer: Library
Purpose: Relational tables with a primary key: rows in insertion order, no two with one key.
Trusted boundary: none
Main exports: Keyed, Table, Table.get?, Table.insert, Table.updateAll, Table.update, Table.select,
  Table.delete, Table.total, Table.freshKey, Table.filter_key_eq, sum_map_ite_of_nodup, sum_classes,
  flatMap_classes_perm
-/
import Mathlib.Algebra.BigOperators.Group.List.Basic
import Mathlib.Algebra.BigOperators.Group.Finset.Basic
import Mathlib.Algebra.BigOperators.Group.Finset.Piecewise
import Mathlib.Algebra.GroupWithZero.Nat
import Mathlib.Algebra.Ring.Int.Defs
import Mathlib.Data.List.Nodup

namespace Relational

universe u v w

/-- Rows of a table that carry their own primary key. -/
class Keyed (α : Type u) (κ : outParam (Type v)) where
  key : α → κ

export Keyed (key)

/-- A table: its rows in insertion order, together with the primary-key constraint. -/
structure Table (α : Type u) {κ : Type v} [Keyed α κ] where
  rows : List α
  keysNodup : (rows.map key).Nodup

namespace Table

variable {α : Type u} {κ : Type v} [Keyed α κ]

@[ext] theorem ext {s t : Table α} (same : s.rows = t.rows) : s = t := by
  cases s
  cases t
  cases same
  rfl

/-- The table without rows. -/
def empty : Table α := ⟨[], List.nodup_nil⟩

/-- The rows that satisfy a condition, in table order. -/
def select (t : Table α) (p : α → Bool) : List α := t.rows.filter p

/-- The rows left after deleting those that satisfy a condition. -/
def delete (t : Table α) (p : α → Bool) : Table α :=
  ⟨t.rows.filter fun r => !p r,
    t.keysNodup.sublist (List.filter_sublist.map key)⟩

/-- Rewrite every row by a function that leaves keys alone. -/
def updateAll (t : Table α) (f : α → α) (keeps : ∀ r, key (f r) = key r := by intro; rfl) :
    Table α :=
  ⟨t.rows.map f, by
    have same : (t.rows.map f).map key = t.rows.map key := by
      simp [Function.comp_def, keeps]
    rw [same]
    exact t.keysNodup⟩

@[simp] theorem rows_empty : (empty : Table α).rows = [] := rfl

/-- Two rows of a table with one key are the same row. -/
theorem eq_of_key_eq {t : Table α} {r s : α} (rMem : r ∈ t.rows) (sMem : s ∈ t.rows)
    (same : key r = key s) : r = s :=
  List.inj_on_of_nodup_map t.keysNodup rMem sMem same

theorem mem_select {t : Table α} {p : α → Bool} {r : α} :
    r ∈ t.select p ↔ r ∈ t.rows ∧ p r = true := List.mem_filter

/-- A condition that a rewrite respects selects the rewritten rows. -/
theorem select_updateAll (t : Table α) (f : α → α) (keeps : ∀ r, key (f r) = key r)
    {p : α → Bool} (respects : ∀ r, p (f r) = p r) :
    (t.updateAll f keeps).select p = (t.select p).map f := by
  simp [select, updateAll, List.filter_map, Function.comp_def, respects]

@[simp] theorem rows_updateAll (t : Table α) (f : α → α) (keeps : ∀ r, key (f r) = key r) :
    (t.updateAll f keeps).rows = t.rows.map f := rfl

section Lookup

variable [DecidableEq κ]

/-- Read a row by primary key. -/
def get? (t : Table α) (k : κ) : Option α := t.rows.find? fun r => key r = k

/-- Insert a row; a key already in use leaves the table as it is. -/
def insert (t : Table α) (r : α) : Table α :=
  if fresh : key r ∈ t.rows.map key then t
  else
    ⟨t.rows ++ [r], by
      rw [List.map_append, List.nodup_append]
      refine ⟨t.keysNodup, by simp, ?_⟩
      intro a aMem b bMem same
      simp only [List.map_cons, List.map_nil, List.mem_singleton] at bMem
      exact fresh (by rw [← bMem, ← same]; exact aMem)⟩

/-- Rewrite the row under one key. -/
def update (t : Table α) (k : κ) (f : α → α)
    (keeps : ∀ r, key (f r) = key r := by intro; rfl) : Table α :=
  t.updateAll (fun r => if key r = k then f r else r) (by
    intro r
    by_cases hit : key r = k
    · rw [if_pos hit, keeps]
    · rw [if_neg hit])

/-! ### Lookups -/

theorem key_of_get? {t : Table α} {k : κ} {r : α} (found : t.get? k = some r) : key r = k := by
  simpa using List.find?_some found

theorem mem_of_get? {t : Table α} {k : κ} {r : α} (found : t.get? k = some r) : r ∈ t.rows :=
  List.mem_of_find?_eq_some found

theorem get?_of_mem {t : Table α} {r : α} (member : r ∈ t.rows) : t.get? (key r) = some r := by
  cases found : t.get? (key r) with
  | none =>
      have absent := List.find?_eq_none.mp found r member
      simp at absent
  | some s =>
      rw [eq_of_key_eq (mem_of_get? found) member (key_of_get? found)]

theorem get?_eq_some_iff {t : Table α} {k : κ} {r : α} :
    t.get? k = some r ↔ r ∈ t.rows ∧ key r = k := by
  constructor
  · intro found
    exact ⟨mem_of_get? found, key_of_get? found⟩
  · rintro ⟨member, rfl⟩
    exact get?_of_mem member

/-- A row is the only one of its key. -/
theorem filter_key_eq {t : Table α} {r : α} (member : r ∈ t.rows) :
    t.rows.filter (fun s => decide (key s = key r)) = [r] := by
  classical
  have same : ∀ s ∈ t.rows, decide (key s = key r) = decide (s = r) := by
    intro s inside
    apply decide_eq_decide.mpr
    constructor
    · exact eq_of_key_eq inside member
    · intro equal
      rw [equal]
  rw [List.filter_congr same, List.filter_eq r,
    List.count_eq_one_of_mem (List.Nodup.of_map _ t.keysNodup) member]
  rfl

theorem get?_eq_none_iff {t : Table α} {k : κ} : t.get? k = none ↔ k ∉ t.rows.map key := by
  rw [get?, List.find?_eq_none]
  simp [List.mem_map]

theorem get?_isSome_iff {t : Table α} {k : κ} : (t.get? k).isSome ↔ k ∈ t.rows.map key := by
  rw [← not_iff_not, ← get?_eq_none_iff]
  simp

@[simp] theorem get?_empty (k : κ) : (empty : Table α).get? k = none := rfl

theorem get?_updateAll (t : Table α) (f : α → α) (keeps : ∀ r, key (f r) = key r) (k : κ) :
    (t.updateAll f keeps).get? k = (t.get? k).map f := by
  simp only [get?, updateAll, List.find?_map]
  congr 2
  funext r
  simp [keeps]

theorem get?_update (t : Table α) (k k' : κ) (f : α → α) (keeps : ∀ r, key (f r) = key r) :
    (t.update k f keeps).get? k' = if k' = k then (t.get? k).map f else t.get? k' := by
  rw [update, get?_updateAll]
  by_cases same : k' = k
  · subst same
    rw [if_pos rfl]
    cases found : t.get? k' with
    | none => rfl
    | some r => simp [key_of_get? found]
  · rw [if_neg same]
    cases found : t.get? k' with
    | none => rfl
    | some r => simp [key_of_get? found, same]

/-- A rewrite that is idempotent on rows is one on the table. -/
theorem update_update (t : Table α) (k : κ) (f : α → α) (keeps : ∀ r, key (f r) = key r)
    (idempotent : ∀ r, f (f r) = f r) :
    (t.update k f keeps).update k f keeps = t.update k f keeps := by
  apply ext
  simp only [update, rows_updateAll, List.map_map]
  apply List.map_congr_left
  intro r _
  by_cases hit : key r = k
  · simp only [Function.comp_apply, if_pos hit, keeps, idempotent]
  · simp only [Function.comp_apply, if_neg hit]

theorem rows_insert_of_fresh {t : Table α} {r : α} (fresh : t.get? (key r) = none) :
    (t.insert r).rows = t.rows ++ [r] := by
  rw [insert, dif_neg (get?_eq_none_iff.mp fresh)]

theorem get?_insert_of_fresh {t : Table α} {r : α} (fresh : t.get? (key r) = none) (k : κ) :
    (t.insert r).get? k = if k = key r then some r else t.get? k := by
  rw [get?, rows_insert_of_fresh fresh, List.find?_append]
  change (t.get? k).or _ = _
  by_cases same : k = key r
  · subst same
    simp [fresh]
  · simp [same, Ne.symm same]

/-- An insertion leaves the rows that are there. -/
theorem get?_insert_of_get? {t : Table α} {r s : α} {k : κ} (found : t.get? k = some s) :
    (t.insert r).get? k = some s := by
  cases known : t.get? (key r) with
  | none =>
      rw [get?_insert_of_fresh known, if_neg, found]
      rintro rfl
      cases known.symm.trans found
  | some _ =>
      rw [insert, dif_pos (get?_isSome_iff.mp (Option.isSome_iff_exists.mpr ⟨_, known⟩)), found]

/-- Rows that are appended leave the rows that are there. -/
theorem get?_of_append {t t' : Table α} {added : List α} (rows : t'.rows = t.rows ++ added) {k : κ}
    {r : α} (found : t.get? k = some r) : t'.get? k = some r := by
  rw [get?, rows, List.find?_append]
  change (t.get? k).or _ = _
  rw [found, Option.some_or]

theorem get?_delete (t : Table α) (p : α → Bool) (k : κ) :
    (t.delete p).get? k = (t.get? k).filter fun r => !p r := by
  cases found : t.get? k with
  | none =>
      rw [get?_eq_none_iff] at found
      rw [Option.filter_none, get?_eq_none_iff]
      intro member
      obtain ⟨r, rMem, rfl⟩ := List.mem_map.mp member
      exact found (List.mem_map_of_mem (List.mem_of_mem_filter rMem))
  | some r =>
      obtain ⟨member, rfl⟩ := get?_eq_some_iff.mp found
      by_cases hit : p r = true
      · rw [Option.filter_some, if_neg (by simp [hit]), get?_eq_none_iff]
        intro still
        obtain ⟨s, sMem, same⟩ := List.mem_map.mp still
        have sRow := List.mem_filter.mp sMem
        rw [eq_of_key_eq sRow.1 member same] at sRow
        simp [hit] at sRow
      · rw [Option.filter_some, if_pos (by simp [hit]), get?_eq_some_iff]
        exact ⟨List.mem_filter.mpr ⟨member, by simp [hit]⟩, rfl⟩

end Lookup

/-! ### Totals -/

section Totals

variable {M : Type w} [AddCommMonoid M]

/-- The sum of a quantity over all rows. -/
def total (t : Table α) (weight : α → M) : M := (t.rows.map weight).sum

@[simp] theorem total_empty (weight : α → M) : (empty : Table α).total weight = 0 := rfl

variable [DecidableEq κ]

/-- A quantity that depends on the key alone sums to a sum over the set of keys. -/
theorem total_eq_sum {t : Table α} {K : Finset κ} (covers : ∀ k, k ∈ K ↔ (t.get? k).isSome)
    {weight : α → M} {g : κ → M} (agree : ∀ k r, t.get? k = some r → weight r = g k) :
    t.total weight = ∑ k ∈ K, g k := by
  have keysEq : K = (t.rows.map key).toFinset := by
    ext k
    rw [covers, get?_isSome_iff, List.mem_toFinset]
  have weightsEq : t.rows.map weight = (t.rows.map key).map g := by
    rw [List.map_map]
    exact List.map_congr_left fun r member => agree _ _ (get?_of_mem member)
  rw [total, weightsEq, keysEq, List.sum_toFinset g t.keysNodup]

/-- A quantity of the rows under some keys sums over these keys. -/
theorem total_eq_sum_map {t : Table α} {keys : List κ} (nodup : keys.Nodup) {weight : α → M}
    {g : κ → M} (listed : ∀ r ∈ t.rows, key r ∈ keys → weight r = g (key r))
    (others : ∀ r ∈ t.rows, key r ∉ keys → weight r = 0)
    (absent : ∀ k ∈ keys, t.get? k = none → g k = 0) : t.total weight = (keys.map g).sum := by
  have covers : ∀ k, k ∈ (t.rows.map key).toFinset ↔ (t.get? k).isSome := by
    intro k
    rw [List.mem_toFinset, get?_isSome_iff]
  have agree : ∀ k r, t.get? k = some r → weight r = if k ∈ keys.toFinset then g k else 0 := by
    intro k r found
    obtain ⟨stored, rfl⟩ := get?_eq_some_iff.mp found
    by_cases member : key r ∈ keys
    · rw [if_pos (List.mem_toFinset.mpr member), listed r stored member]
    · rw [if_neg (mt List.mem_toFinset.mp member), others r stored member]
  rw [total_eq_sum covers agree, Finset.sum_ite_mem, ← List.sum_toFinset g nodup]
  apply Finset.sum_subset Finset.inter_subset_right
  intro k member outside
  apply absent k (List.mem_toFinset.mp member)
  cases found : t.get? k with
  | none => rfl
  | some r =>
      exact absurd (Finset.mem_inter.mpr ⟨(covers k).mpr (by rw [found]; rfl), member⟩) outside

end Totals

/-! ### Generated keys -/

section Generated

variable {β : Type u} [Keyed β Nat]

/-- A key no row uses: what a generator of unique identifiers hands out. -/
def freshKey (t : Table β) : Nat := (t.rows.map key).foldr max 0 + 1

theorem le_foldr_max {keys : List Nat} {k : Nat} (member : k ∈ keys) :
    k ≤ keys.foldr max 0 := by
  induction keys with
  | nil => simp at member
  | cons head rest inductionHypothesis =>
      rcases List.mem_cons.mp member with rfl | tail
      · exact Nat.le_max_left _ _
      · exact Nat.le_trans (inductionHypothesis tail) (Nat.le_max_right _ _)

@[simp] theorem get?_freshKey (t : Table β) : t.get? t.freshKey = none := by
  rw [get?_eq_none_iff]
  intro member
  exact absurd (le_foldr_max member) (by simp [freshKey])

end Generated

end Table

/-! ### Lists without repeated images -/

/-- Among elements told apart by an image, one image selects one element. -/
theorem filter_eq_singleton {α : Type u} {κ : Type v} [DecidableEq κ] {f : α → κ} {values : List α}
    (nodup : (values.map f).Nodup) {a : α} (member : a ∈ values) :
    (values.filter fun b => decide (f b = f a)) = [a] := by
  induction values with
  | nil => simp at member
  | cons head rest inductionHypothesis =>
      rw [List.map_cons, List.nodup_cons] at nodup
      rcases List.mem_cons.mp member with rfl | later
      · rw [List.filter_cons_of_pos (by simp), List.filter_eq_nil_iff.mpr]
        intro b bMember same
        exact nodup.1 (List.mem_map.mpr ⟨b, bMember, by simpa using same⟩)
      · have other : ¬f head = f a := by
          intro same
          exact nodup.1 (List.mem_map.mpr ⟨a, later, same.symm⟩)
        rw [List.filter_cons_of_neg (by simpa using other)]
        exact inductionHypothesis nodup.2 later

/-- A condition selects one of some elements without repetition exactly when it is the only one that
    satisfies it. -/
theorem filter_eq_singleton_iff {α : Type u} {values : List α} (nodup : values.Nodup)
    {p : α → Bool} {a : α} :
    values.filter p = [a] ↔
      (a ∈ values ∧ p a = true) ∧ ∀ b ∈ values, p b = true → b = a := by
  constructor
  · intro only
    have member : ∀ b, b ∈ values ∧ p b = true ↔ b = a := by
      intro b
      rw [← List.mem_filter, only, List.mem_singleton]
    exact ⟨(member a).mpr rfl, fun b listed hit => (member b).mp ⟨listed, hit⟩⟩
  · intro ⟨own, only⟩
    rw [← List.perm_singleton, List.perm_ext_iff_of_nodup (nodup.filter p) (List.nodup_singleton a)]
    intro b
    rw [List.mem_filter, List.mem_singleton]
    constructor
    · intro ⟨listed, hit⟩
      exact only b listed hit
    · rintro rfl
      exact own

/-- Among elements told apart by an image, the sum over one image is one summand. -/
theorem sum_map_ite_of_nodup {α : Type u} {κ : Type v} {M : Type w} [DecidableEq κ]
    [AddCommMonoid M] {f : α → κ} {values : List α} (nodup : (values.map f).Nodup) {a : α}
    (member : a ∈ values) (weight : α → M) :
    (values.map fun b => if f b = f a then weight b else 0).sum = weight a := by
  induction values with
  | nil => simp at member
  | cons head rest inductionHypothesis =>
      rw [List.map_cons, List.nodup_cons] at nodup
      rw [List.map_cons, List.sum_cons]
      rcases List.mem_cons.mp member with rfl | later
      · have zero : (rest.map fun b => if f b = f a then weight b else 0).sum = 0 := by
          apply List.sum_eq_zero
          intro amount amountMember
          obtain ⟨b, bMember, rfl⟩ := List.mem_map.mp amountMember
          exact if_neg fun same => nodup.1 (List.mem_map.mpr ⟨b, bMember, same⟩)
        rw [if_pos rfl, zero, add_zero]
      · have other : f head ≠ f a := fun same =>
          nodup.1 (List.mem_map.mpr ⟨a, later, same.symm⟩)
        rw [if_neg other, zero_add]
        exact inductionHypothesis nodup.2 later

/-- Summed class by class, a quantity of elements that each have a class is its sum. -/
theorem sum_classes {α : Type u} {κ : Type v} {M : Type w} [DecidableEq κ] [AddCommMonoid M]
    {f : α → Option κ} {classes : Finset κ} {values : List α}
    (covered : ∀ a ∈ values, ∃ c ∈ classes, f a = some c) (weight : α → M) :
    ∑ c ∈ classes, (values.map fun a => if f a = some c then weight a else 0).sum =
      (values.map weight).sum := by
  induction values with
  | nil => simp
  | cons head rest inductionHypothesis =>
      have later := inductionHypothesis fun a member => covered a (List.mem_cons_of_mem head member)
      obtain ⟨own, listed, classed⟩ := covered head List.mem_cons_self
      simp only [List.map_cons, List.sum_cons, Finset.sum_add_distrib, later, classed,
        Option.some.injEq, Finset.sum_ite_eq, if_pos listed]

/-- Rows sorted into classes, class by class, are the rows: those of no class contribute nothing. -/
theorem flatMap_classes_perm {α : Type u} {κ : Type v} {β : Type w} [DecidableEq κ] (f : α → κ)
    (g : α → List β) {classes : List κ} (nodup : classes.Nodup) (rows : List α)
    (covered : ∀ r ∈ rows, g r ≠ [] → f r ∈ classes) :
    (classes.flatMap fun c => (rows.filter fun r => decide (f r = c)).flatMap g).Perm
      (rows.flatMap g) := by
  induction rows with
  | nil => simp
  | cons r rest inductionHypothesis =>
      have later := inductionHypothesis fun s member => covered s (List.mem_cons_of_mem r member)
      have own : (classes.flatMap fun c => if f r = c then g r else []) = g r := by
        by_cases nothing : g r = []
        · simp [nothing]
        · have listed := covered r List.mem_cons_self nothing
          clear covered later inductionHypothesis
          induction classes with
          | nil => simp at listed
          | cons c others inductionHypothesis =>
              rw [List.nodup_cons] at nodup
              rw [List.flatMap_cons]
              rcases List.mem_cons.mp listed with rfl | among
              · have none : (others.flatMap fun c => if f r = c then g r else []) = [] := by
                  rw [List.flatMap_eq_nil_iff]
                  intro c member
                  apply if_neg
                  rintro rfl
                  exact nodup.1 member
                rw [if_pos rfl, none, List.append_nil]
              · have other : f r ≠ c := by
                  rintro rfl
                  exact nodup.1 among
                rw [if_neg other, List.nil_append, inductionHypothesis nodup.2 among]
      have split : (classes.flatMap fun c => ((r :: rest).filter fun s => decide (f s = c)).flatMap g) =
          classes.flatMap fun c => (if f r = c then g r else []) ++
            (rest.filter fun s => decide (f s = c)).flatMap g := by
        apply List.flatMap_congr
        intro c _
        by_cases same : f r = c <;> simp [same]
      rw [split, List.flatMap_cons]
      exact (List.flatMap_append_perm _ _ _).symm.trans (by rw [own]; exact later.append_left (g r))

end Relational
