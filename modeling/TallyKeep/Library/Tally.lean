/-
Module: TallyKeep.Library.Tally
Layer: Library
Purpose: Dictionaries that sum amounts by class, and what such sums partition.
Trusted boundary: none
Main exports: add, valueAt, Partitions, Partitions.nil, Partitions.add
-/
import Mathlib.Algebra.BigOperators.Group.List.Basic
import Mathlib.Algebra.Ring.Int.Defs
import Mathlib.Data.List.Nodup

namespace Tally

universe u

variable {κ : Type u} [DecidableEq κ]

/-- `d[k] = d.get(k, 0) + amount`. -/
def add : List (κ × Int) → κ → Int → List (κ × Int)
  | [], k, amount => [(k, amount)]
  | entry :: rest, k, amount =>
      if entry.1 = k then (entry.1, entry.2 + amount) :: rest else entry :: add rest k amount

/-- The sum of the amounts of one class. -/
def valueAt (entries : List (κ × Int)) (k : κ) : Int :=
  ((entries.filter fun entry => decide (entry.1 = k)).map Prod.snd).sum

theorem valueAt_cons (entry : κ × Int) (rest : List (κ × Int)) (k : κ) :
    valueAt (entry :: rest) k = (if entry.1 = k then entry.2 else 0) + valueAt rest k := by
  rw [valueAt, List.filter_cons]
  by_cases same : entry.1 = k
  · simp [same, valueAt]
  · simp [same, valueAt]

theorem valueAt_concat (entries : List (κ × Int)) (k : κ) (amount : Int) (k' : κ) :
    valueAt (entries ++ [(k, amount)]) k' = valueAt entries k' + if k = k' then amount else 0 := by
  induction entries with
  | nil => rw [List.nil_append, valueAt_cons, Int.add_comm]
  | cons entry rest ih => rw [List.cons_append, valueAt_cons, valueAt_cons, ih, Int.add_assoc]

theorem valueAt_add (entries : List (κ × Int)) (k : κ) (amount : Int) (k' : κ) :
    valueAt (add entries k amount) k' = valueAt entries k' + if k = k' then amount else 0 := by
  induction entries with
  | nil => rw [add, valueAt_cons, Int.add_comm]
  | cons entry rest ih =>
      rw [add]
      split
      · next same =>
          rw [valueAt_cons, valueAt_cons]
          by_cases here : k = k'
          · simp only [same, here, if_true]
            omega
          · simp [same, here]
      · rw [valueAt_cons, valueAt_cons, ih, Int.add_assoc]

theorem sum_add (entries : List (κ × Int)) (k : κ) (amount : Int) :
    ((add entries k amount).map Prod.snd).sum = (entries.map Prod.snd).sum + amount := by
  induction entries with
  | nil => simp [add]
  | cons entry rest ih =>
      rw [add]
      split
      · simp only [List.map_cons, List.sum_cons]
        omega
      · simp only [List.map_cons, List.sum_cons, ih]
        omega

theorem mem_keys_add (entries : List (κ × Int)) (k : κ) (amount : Int) (k' : κ) :
    k' ∈ (add entries k amount).map Prod.fst ↔ k' ∈ entries.map Prod.fst ∨ k' = k := by
  induction entries with
  | nil => simp [add]
  | cons entry rest ih =>
      rw [add]
      split
      · next same =>
          simp only [List.map_cons, List.mem_cons, same]
          exact ⟨fun member => member.elim .inr fun later => .inl (.inr later),
            fun member => member.elim id .inl⟩
      · simp only [List.map_cons, List.mem_cons, ih, or_assoc]

theorem nodup_add {entries : List (κ × Int)} (nodup : (entries.map Prod.fst).Nodup) (k : κ)
    (amount : Int) : ((add entries k amount).map Prod.fst).Nodup := by
  induction entries with
  | nil => exact List.nodup_singleton k
  | cons entry rest ih =>
      rw [List.map_cons, List.nodup_cons] at nodup
      rw [add]
      split
      · exact List.nodup_cons.mpr nodup
      · next other =>
          refine List.nodup_cons.mpr ⟨?_, ih nodup.2⟩
          rw [mem_keys_add]
          rintro (later | same)
          · exact nodup.1 later
          · exact other same

/-- The entries of a dictionary are the sums of some amounts by their classes. -/
structure Partitions (entries amounts : List (κ × Int)) : Prop where
  nodup : (entries.map Prod.fst).Nodup
  keys : ∀ k, k ∈ entries.map Prod.fst ↔ k ∈ amounts.map Prod.fst
  each : ∀ k, valueAt entries k = valueAt amounts k
  total : (entries.map Prod.snd).sum = (amounts.map Prod.snd).sum

theorem Partitions.nil : Partitions ([] : List (κ × Int)) [] :=
  ⟨List.nodup_nil, fun _ => .rfl, fun _ => rfl, rfl⟩

theorem Partitions.add {entries amounts : List (κ × Int)} (partitions : Partitions entries amounts)
    (k : κ) (amount : Int) : Partitions (add entries k amount) (amounts ++ [(k, amount)]) where
  nodup := nodup_add partitions.nodup k amount
  keys k' := by
    rw [mem_keys_add, partitions.keys, List.map_append, List.mem_append, List.map_cons, List.map_nil,
      List.mem_singleton]
  each k' := by rw [valueAt_add, valueAt_concat, partitions.each]
  total := by
    rw [sum_add, partitions.total, List.map_append, List.sum_append, List.map_cons, List.map_nil,
      List.sum_singleton]

end Tally
