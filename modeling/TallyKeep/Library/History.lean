/-
Module: TallyKeep.Library.History
Layer: Library
Purpose: Timed records that are appended, changed in place and dropped, and what they add up to in
  the windows of a fixed width.
Trusted boundary: none
Main exports: Carried, Carried.filter, Carried.sum_le, Carried.length_filter_le, Carried.pairwise,
  Extended, Extended.trans, Extended.keys, Spaced, Spaced.length_le, windowTotal, WindowsWithin,
  WindowsWithin.carried, windowsWithin_append_singleton_iff
-/
import Mathlib.Data.List.Forall2
import Mathlib.Algebra.GroupWithZero.Nat
import Mathlib.Algebra.Order.BigOperators.Group.List

namespace History

universe u v

variable {α : Type u} {κ : Type v}

/-! ### Records carried on -/

/-- The later records are earlier ones in the same order, each changed as a relation allows. -/
def Carried (r : α → α → Prop) (before after : List α) : Prop :=
  List.SublistForall₂ (fun later earlier => r earlier later) after before

namespace Carried

variable {r : α → α → Prop} {before middle after : List α}

theorem of_sublist (reflexive : ∀ a, r a a) (sub : after.Sublist before) :
    Carried r before after := by
  rw [Carried, List.sublistForall₂_iff]
  exact ⟨after, List.forall₂_same.mpr fun a _ => reflexive a, sub⟩

theorem refl (reflexive : ∀ a, r a a) (records : List α) : Carried r records records :=
  of_sublist reflexive (List.Sublist.refl records)

theorem trans (transitive : ∀ a b c, r a b → r b c → r a c) (first : Carried r before middle)
    (second : Carried r middle after) : Carried r before after := by
  have inner : IsTrans α fun later earlier => r earlier later :=
    ⟨fun _ _ _ later earlier => transitive _ _ _ earlier later⟩
  exact List.SublistForall₂.is_trans.trans _ _ _ second first

theorem of_map {f : α → α} {records : List α} (allowed : ∀ a ∈ records, r a (f a)) :
    Carried r records (records.map f) := by
  induction records with
  | nil => exact .nil
  | cons head rest inductionHypothesis =>
      exact .cons (allowed head List.mem_cons_self)
        (inductionHypothesis fun a member => allowed a (List.mem_cons_of_mem head member))

/-- Every record comes from an earlier one. -/
theorem exists_of_mem (carried : Carried r before after) {b : α} (member : b ∈ after) :
    ∃ a ∈ before, r a b := by
  induction carried with
  | nil => simp at member
  | @cons later earlier _ _ changed _ inductionHypothesis =>
      rcases List.mem_cons.mp member with rfl | among
      · exact ⟨earlier, List.mem_cons_self, changed⟩
      · obtain ⟨a, present, change⟩ := inductionHypothesis among
        exact ⟨a, List.mem_cons_of_mem earlier present, change⟩
  | @cons_right dropped _ _ _ inductionHypothesis =>
      obtain ⟨a, present, change⟩ := inductionHypothesis member
      exact ⟨a, List.mem_cons_of_mem dropped present, change⟩

/-- A condition that no change affects selects records that are carried on. -/
theorem filter {p : α → Bool} (stable : ∀ a b, r a b → p b = p a)
    (carried : Carried r before after) : Carried r (before.filter p) (after.filter p) := by
  induction carried with
  | nil => exact .nil
  | @cons later earlier _ _ changed _ inductionHypothesis =>
      rw [List.filter_cons, List.filter_cons, stable earlier later changed]
      split
      · exact .cons changed inductionHypothesis
      · exact inductionHypothesis
  | cons_right _ inductionHypothesis =>
      rw [List.filter_cons]
      split
      · exact .cons_right inductionHypothesis
      · exact inductionHypothesis

/-- A weight that no change increases has no larger sum. -/
theorem sum_le {weight : α → Nat} (lighter : ∀ a b, r a b → weight b ≤ weight a)
    (carried : Carried r before after) : (after.map weight).sum ≤ (before.map weight).sum := by
  induction carried with
  | nil => simp
  | cons changed _ inductionHypothesis =>
      rw [List.map_cons, List.map_cons, List.sum_cons, List.sum_cons]
      exact Nat.add_le_add (lighter _ _ changed) inductionHypothesis
  | cons_right _ inductionHypothesis =>
      rw [List.map_cons, List.sum_cons]
      exact Nat.le_add_left_of_le inductionHypothesis

/-- A condition that no change establishes holds of no more records. -/
theorem length_filter_le {p : α → Bool} (lost : ∀ a b, r a b → p b = true → p a = true)
    (carried : Carried r before after) : (after.filter p).length ≤ (before.filter p).length := by
  have count : ∀ records : List α,
      (records.filter p).length = (records.map fun a => (p a).toNat).sum := by
    intro records
    induction records with
    | nil => rfl
    | cons head rest inductionHypothesis =>
        rw [List.map_cons, List.sum_cons, ← inductionHypothesis, List.filter_cons]
        cases p head with
        | false => simp
        | true => simp [Nat.add_comm]
  rw [count, count]
  apply carried.sum_le
  intro a b changed
  cases holds : p b with
  | false => simp
  | true => rw [lost a b changed holds]

/-- A relation that no two changes break holds between the records that are carried on. -/
theorem pairwise {related : α → α → Prop}
    (stable : ∀ a a' b b', r a a' → r b b' → related a b → related a' b')
    (carried : Carried r before after) (holds : before.Pairwise related) :
    after.Pairwise related := by
  induction carried with
  | nil => exact .nil
  | @cons later earlier rest _ changed others inductionHypothesis =>
      obtain ⟨first, tail⟩ := List.pairwise_cons.mp holds
      refine .cons ?_ (inductionHypothesis tail)
      intro b present
      obtain ⟨a, stored, change⟩ := exists_of_mem others present
      exact stable _ _ _ _ changed change (first a stored)
  | cons_right _ inductionHypothesis =>
      exact inductionHypothesis (List.pairwise_cons.mp holds).2

end Carried

/-! ### Records extended -/

/-- The later records are the earlier ones in the same order, each changed as a relation allows, and
    after them new ones with the keys listed. -/
def Extended (r : α → α → Prop) (key : α → κ) (before after : List α) (newKeys : List κ) : Prop :=
  ∃ kept added, after = kept ++ added ∧ List.Forall₂ r before kept ∧ added.map key = newKeys

namespace Extended

variable {r : α → α → Prop} {key : α → κ} {before middle after : List α}
  {newKeys laterKeys : List κ}

theorem refl (reflexive : ∀ a, r a a) (records : List α) : Extended r key records records [] :=
  ⟨records, [], (List.append_nil records).symm, List.forall₂_same.mpr fun a _ => reflexive a, rfl⟩

theorem append (reflexive : ∀ a, r a a) (records added : List α) :
    Extended r key records (records ++ added) (added.map key) :=
  ⟨records, added, rfl, List.forall₂_same.mpr fun a _ => reflexive a, rfl⟩

theorem of_map {f : α → α} {records : List α} (allowed : ∀ a ∈ records, r a (f a)) :
    Extended r key records (records.map f) [] := by
  refine ⟨records.map f, [], (List.append_nil _).symm, ?_, rfl⟩
  rw [List.forall₂_map_right_iff]
  exact List.forall₂_same.mpr allowed

theorem map_eq_of_forall₂ (keyed : ∀ a b, r a b → key b = key a) {kept : List α}
    (changed : List.Forall₂ r before kept) : kept.map key = before.map key := by
  induction changed with
  | nil => rfl
  | cons change _ inductionHypothesis =>
      rw [List.map_cons, List.map_cons, keyed _ _ change, inductionHypothesis]

/-- The keys are those of before, and the new ones after them. -/
theorem keys (keyed : ∀ a b, r a b → key b = key a)
    (extended : Extended r key before after newKeys) :
    after.map key = before.map key ++ newKeys := by
  obtain ⟨kept, added, rfl, changed, rfl⟩ := extended
  rw [List.map_append, map_eq_of_forall₂ keyed changed]

/-- Later versions of records and of added ones, told apart. -/
theorem split_of_forall₂ (transitive : ∀ a b c, r a b → r b c → r a c)
    {kept added later : List α} (first : List.Forall₂ r before kept)
    (second : List.Forall₂ r (kept ++ added) later) :
    ∃ older newer, later = older ++ newer ∧ List.Forall₂ r before older ∧
      List.Forall₂ r added newer := by
  induction first generalizing later with
  | nil => exact ⟨[], later, rfl, .nil, second⟩
  | cons change _ inductionHypothesis =>
      cases second with
      | cons laterChange rest =>
          obtain ⟨older, newer, rfl, olderChanged, newerChanged⟩ := inductionHypothesis rest
          exact ⟨_ :: older, newer, rfl, .cons (transitive _ _ _ change laterChange) olderChanged,
            newerChanged⟩

theorem trans (keyed : ∀ a b, r a b → key b = key a)
    (transitive : ∀ a b c, r a b → r b c → r a c)
    (first : Extended r key before middle newKeys)
    (second : Extended r key middle after laterKeys) :
    Extended r key before after (newKeys ++ laterKeys) := by
  obtain ⟨kept, added, rfl, changed, rfl⟩ := first
  obtain ⟨kept', added', rfl, changed', rfl⟩ := second
  obtain ⟨older, newer, rfl, olderChanged, newerChanged⟩ :=
    split_of_forall₂ transitive changed changed'
  refine ⟨older, newer ++ added', List.append_assoc older newer added', olderChanged, ?_⟩
  rw [List.map_append, map_eq_of_forall₂ keyed newerChanged]

/-- Every earlier record is there in a later version. -/
theorem exists_of_mem (extended : Extended r key before after newKeys) {a : α}
    (member : a ∈ before) : ∃ b ∈ after, r a b := by
  obtain ⟨kept, added, rfl, changed, -⟩ := extended
  induction changed with
  | nil => simp at member
  | @cons first later _ _ change _ inductionHypothesis =>
      rcases List.mem_cons.mp member with rfl | among
      · exact ⟨later, List.mem_cons_self, change⟩
      · obtain ⟨b, present, change⟩ := inductionHypothesis among
        exact ⟨b, List.mem_cons_of_mem _ present, change⟩

end Extended

/-! ### Times apart -/

section Spacing

variable {τ : Type u} [AddCommMonoid τ] [LinearOrder τ] [IsOrderedAddMonoid τ] {gap : τ}

/-- Each time comes a gap or more after those before it. -/
def Spaced (gap : τ) (times : List τ) : Prop :=
  times.Pairwise fun earlier later => earlier + gap ≤ later

omit [IsOrderedAddMonoid τ] in
theorem Spaced.append_singleton {times : List τ} {time : τ} (spaced : Spaced gap times)
    (after : ∀ earlier ∈ times, earlier + gap ≤ time) : Spaced gap (times ++ [time]) := by
  rw [Spaced, List.pairwise_append]
  refine ⟨spaced, List.pairwise_singleton _ _, ?_⟩
  intro earlier member later only
  rw [List.mem_singleton.mp only]
  exact after earlier member

/-- A window of so many gaps holds no more such times. -/
theorem Spaced.length_le {times : List τ} (spaced : Spaced gap times) (start : τ) (n : Nat)
    (within : ∀ time ∈ times, start ≤ time ∧ time < start + n • gap) : times.length ≤ n := by
  induction times generalizing start n with
  | nil => exact Nat.zero_le n
  | cons first rest inductionHypothesis =>
      obtain ⟨from_, until_⟩ := within first List.mem_cons_self
      cases n with
      | zero =>
          rw [zero_nsmul, add_zero] at until_
          exact absurd from_ (not_le_of_gt until_)
      | succ n =>
          obtain ⟨apart, later⟩ := List.pairwise_cons.mp spaced
          apply Nat.succ_le_succ
          refine inductionHypothesis later (start + gap) n fun time member =>
            ⟨(add_le_add_left from_ gap).trans (apart time member), ?_⟩
          have before := (within time (List.mem_cons_of_mem first member)).2
          rwa [succ_nsmul', ← add_assoc] at before

end Spacing

/-! ### Rolling windows -/

section Windows

variable (counted : α → Bool) (time amount : α → Nat) (width : Nat)

/-- What the counted records of the window from `start` on add up to. -/
def windowTotal (records : List α) (start : Nat) : Nat :=
  (records.map fun a =>
    if counted a = true ∧ start ≤ time a ∧ time a < start + width then amount a else 0).sum

/-- No window adds up to more than a bound. -/
def WindowsWithin (bound : Int) (records : List α) : Prop :=
  ∀ start, (windowTotal counted time amount width records start : Int) ≤ bound

variable {counted time amount width} {bound : Int} {records : List α}

theorem windowTotal_append_singleton (records : List α) (a : α) (start : Nat) :
    windowTotal counted time amount width (records ++ [a]) start =
      windowTotal counted time amount width records start +
        if counted a = true ∧ start ≤ time a ∧ time a < start + width then amount a else 0 := by
  simp [windowTotal]

/-- Changes that leave times and amounts alone, and make no record count, keep the windows within
    their bound. -/
theorem WindowsWithin.carried {r : α → α → Prop} {before after : List α}
    (stamped : ∀ a b, r a b → time b = time a ∧ amount b = amount a)
    (lost : ∀ a b, r a b → counted b = true → counted a = true)
    (within : WindowsWithin counted time amount width bound before)
    (carried : Carried r before after) :
    WindowsWithin counted time amount width bound after := by
  intro start
  apply le_trans _ (within start)
  rw [Int.ofNat_le]
  apply carried.sum_le
  intro a b changed
  obtain ⟨sameTime, sameAmount⟩ := stamped a b changed
  rw [sameTime, sameAmount]
  by_cases inside : counted b = true ∧ start ≤ time a ∧ time a < start + width
  · rw [if_pos inside, if_pos ⟨lost a b changed inside.1, inside.2⟩]
  · rw [if_neg inside]
    exact Nat.zero_le _

/-- A record fits when every window it falls into has room for it. -/
theorem windowsWithin_append_singleton_iff
    (within : WindowsWithin counted time amount width bound records) (a : α) :
    WindowsWithin counted time amount width bound (records ++ [a]) ↔
      (counted a = true → ∀ start, start ≤ time a → time a < start + width →
        (windowTotal counted time amount width records start : Int) + amount a ≤ bound) := by
  constructor
  · intro all counts start from_ until_
    have total := all start
    rw [windowTotal_append_singleton, if_pos ⟨counts, from_, until_⟩] at total
    exact_mod_cast total
  · intro fits start
    rw [windowTotal_append_singleton]
    by_cases inside : counted a = true ∧ start ≤ time a ∧ time a < start + width
    · rw [if_pos inside]
      exact_mod_cast fits inside.1 start inside.2.1 inside.2.2
    · rw [if_neg inside]
      exact within start

end Windows

end History
