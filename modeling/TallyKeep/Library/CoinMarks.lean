/-
Module: TallyKeep.Library.CoinMarks
Layer: Library
Purpose: An abstract coin book fed by deliveries of transactions: each delivery first marks the
  coins it spends among those already known, then makes the coins it creates known.
Trusted boundary: none
Main exports: Marks, Marks.deliver, Marks.run, Created, ParentsFirst, ConflictFree,
  Marks.spender_run_iff, Marks.marks_complete_iff, Marks.spender_run_of_parentsFirst,
  Marks.unspent_sum
-/
import Mathlib.Algebra.BigOperators.Group.Finset.Basic
import Mathlib.Algebra.BigOperators.Group.Finset.Sigma
import Mathlib.Algebra.BigOperators.Group.Finset.Piecewise
import Mathlib.Algebra.BigOperators.Group.List.Basic

namespace CoinMarks

open Finset

universe u v w

/-- The coins known so far and, for each coin, the delivery that was first seen to spend it. -/
structure Marks (τ : Type u) (ο : Type v) where
  known : Finset ο
  spender : ο → Option τ

section Deliveries

variable {τ : Type u} {ο : Type v} [DecidableEq ο] (creates spends : τ → Finset ο)

/-- Some delivery of the list creates the coin. -/
def Created (ds : List τ) (o : ο) : Prop := ∃ t ∈ ds, o ∈ creates t

/-- No coin is spent by two different transactions of the list. -/
def ConflictFree (ds : List τ) : Prop :=
  ∀ o, ∀ t ∈ ds, ∀ t' ∈ ds, o ∈ spends t → o ∈ spends t' → t = t'

/-- Every delivery comes after one that creates each coin it spends, as far as the list creates that
    coin at all. -/
def ParentsFirst (ds : List τ) : Prop :=
  ∀ before t after, ds = before ++ t :: after →
    ∀ o ∈ spends t, Created creates ds o → Created creates before o

/-- The coin is delivered as spent by `t` at some point where it is already known. -/
def SpentOnceKnown (ds : List τ) (o : ο) (t : τ) : Prop :=
  ∃ before after, ds = before ++ t :: after ∧ o ∈ spends t ∧ Created creates before o

namespace Marks

/-- Nothing known, nothing spent. -/
def empty : Marks τ ο := ⟨∅, fun _ => none⟩

/-- One delivery: mark among the known coins first, then add the created ones. -/
def deliver (m : Marks τ ο) (t : τ) : Marks τ ο where
  known := m.known ∪ creates t
  spender o := if o ∈ spends t ∧ o ∈ m.known ∧ m.spender o = none then some t else m.spender o

/-- The book after a list of deliveries. -/
def run (ds : List τ) : Marks τ ο := ds.foldl (deliver creates spends) empty

variable {creates spends}

@[simp] theorem run_nil : run creates spends [] = empty := rfl

theorem run_concat (ds : List τ) (t : τ) :
    run creates spends (ds ++ [t]) = (run creates spends ds).deliver creates spends t := by
  simp [run]

theorem mem_known_run {ds : List τ} {o : ο} :
    o ∈ (run creates spends ds).known ↔ Created creates ds o := by
  induction ds using List.reverseRecOn with
  | nil => simp [empty, Created]
  | append_singleton ds t inductionHypothesis =>
      rw [run_concat, deliver, Finset.mem_union, inductionHypothesis]
      constructor
      · rintro (⟨u, member, creates⟩ | creates)
        · exact ⟨u, by simp [member], creates⟩
        · exact ⟨t, by simp, creates⟩
      · rintro ⟨u, member, creates⟩
        rcases List.mem_append.mp member with old | new
        · exact Or.inl ⟨u, old, creates⟩
        · rw [List.mem_singleton.mp new] at creates
          exact Or.inr creates

/-- A mark always names a delivery that spends the coin after it became known. -/
theorem spentOnceKnown_of_spender {ds : List τ} {o : ο} {t : τ}
    (marked : (run creates spends ds).spender o = some t) :
    SpentOnceKnown creates spends ds o t := by
  induction ds using List.reverseRecOn with
  | nil => simp [empty] at marked
  | append_singleton ds u inductionHypothesis =>
      rw [run_concat, deliver] at marked
      simp only at marked
      split at marked
      · rename_i now
        cases marked
        exact ⟨ds, [], rfl, now.1, mem_known_run.mp now.2.1⟩
      · obtain ⟨before, after, rfl, spent, created⟩ := inductionHypothesis marked
        exact ⟨before, after ++ [u], by simp, spent, created⟩

/-- A mark is never taken back or replaced. -/
theorem spender_run_append {ds later : List τ} {o : ο} {t : τ}
    (marked : (run creates spends ds).spender o = some t) :
    (run creates spends (ds ++ later)).spender o = some t := by
  induction later using List.reverseRecOn with
  | nil => simpa using marked
  | append_singleton later u inductionHypothesis =>
      rw [← List.append_assoc, run_concat, deliver]
      simp [inductionHypothesis]

/-- A coin spent once known carries some mark from then on. -/
theorem spender_isSome_of_spentOnceKnown {ds : List τ} {o : ο} {t : τ}
    (spent : SpentOnceKnown creates spends ds o t) :
    ∃ t', (run creates spends ds).spender o = some t' := by
  obtain ⟨before, after, rfl, inputs, created⟩ := spent
  have marked : ∃ t', (run creates spends (before ++ [t])).spender o = some t' := by
    rw [run_concat, deliver]
    cases already : (run creates spends before).spender o with
    | none => exact ⟨t, by simp [inputs, mem_known_run.mpr created, already]⟩
    | some t' => exact ⟨t', by simp [already]⟩
  obtain ⟨t', marked⟩ := marked
  refine ⟨t', ?_⟩
  have later : (run creates spends (before ++ [t] ++ after)).spender o = some t' :=
    spender_run_append marked
  simpa using later

/-- Without conflicts the mark of a coin is the transaction that spends it once it is known. -/
theorem spender_run_iff {ds : List τ} (free : ConflictFree spends ds) {o : ο} {t : τ} :
    (run creates spends ds).spender o = some t ↔ SpentOnceKnown creates spends ds o t := by
  constructor
  · exact spentOnceKnown_of_spender
  · intro spent
    obtain ⟨t', marked⟩ := spender_isSome_of_spentOnceKnown spent
    obtain ⟨before, after, dsEq, inputs, -⟩ := spent
    obtain ⟨before', after', dsEq', inputs', -⟩ := spentOnceKnown_of_spender marked
    have same : t' = t :=
      free o t' (by simp [dsEq']) t (by simp [dsEq]) inputs' inputs
    rw [marked, same]

/-- The marks are complete for the known coins exactly when each spender of the list is delivered at
    least once after the coin it spends was created. -/
theorem marks_complete_iff {ds : List τ} (free : ConflictFree spends ds) :
    (∀ o, Created creates ds o → ∀ t,
        ((run creates spends ds).spender o = some t ↔ t ∈ ds ∧ o ∈ spends t)) ↔
      ∀ o, Created creates ds o → ∀ t ∈ ds, o ∈ spends t →
        SpentOnceKnown creates spends ds o t := by
  constructor
  · intro complete o created t member inputs
    exact spentOnceKnown_of_spender ((complete o created t).mpr ⟨member, inputs⟩)
  · intro timely o created t
    constructor
    · intro marked
      obtain ⟨before, after, rfl, inputs, -⟩ := spentOnceKnown_of_spender marked
      exact ⟨by simp, inputs⟩
    · rintro ⟨member, inputs⟩
      exact (spender_run_iff free).mpr (timely o created t member inputs)

/-- Parents-first lists mark every created coin that any of their transactions spends. -/
theorem spender_run_of_parentsFirst {ds : List τ} (free : ConflictFree spends ds)
    (ordered : ParentsFirst creates spends ds) {o : ο} (created : Created creates ds o) {t : τ} :
    (run creates spends ds).spender o = some t ↔ t ∈ ds ∧ o ∈ spends t := by
  refine (marks_complete_iff free).mpr ?_ o created t
  intro o created t member inputs
  obtain ⟨before, after, dsEq⟩ := List.append_of_mem member
  exact ⟨before, after, dsEq, inputs, ordered before t after dsEq o inputs created⟩

/-! ### Conservation -/

section Conservation

variable [DecidableEq τ] {ν : Type w} [AddCommGroup ν]

/-- No coin is created by two different transactions of the list. -/
def CreatedOnce (creates : τ → Finset ο) (ds : List τ) : Prop :=
  ∀ o, ∀ t ∈ ds, ∀ t' ∈ ds, o ∈ creates t → o ∈ creates t' → t = t'

theorem known_run_eq_biUnion (ds : List τ) :
    (run creates spends ds).known = ds.toFinset.biUnion creates := by
  ext o
  rw [mem_known_run, Finset.mem_biUnion]
  simp [Created]

/-- For parents-first lists the marked coins are the known inputs of the delivered transactions. -/
theorem marked_eq_biUnion {ds : List τ} (free : ConflictFree spends ds)
    (ordered : ParentsFirst creates spends ds) :
    (run creates spends ds).known.filter (fun o => (run creates spends ds).spender o ≠ none) =
      ds.toFinset.biUnion fun t => spends t ∩ (run creates spends ds).known := by
  ext o
  simp only [Finset.mem_filter, Finset.mem_biUnion, List.mem_toFinset, Finset.mem_inter]
  constructor
  · rintro ⟨known, marked⟩
    obtain ⟨t, marked⟩ := Option.ne_none_iff_exists'.mp marked
    have spent := (spender_run_of_parentsFirst free ordered (mem_known_run.mp known)).mp marked
    exact ⟨t, spent.1, spent.2, known⟩
  · rintro ⟨t, member, inputs, known⟩
    have marked :=
      (spender_run_of_parentsFirst free ordered (mem_known_run.mp known)).mpr ⟨member, inputs⟩
    exact ⟨known, by simp [marked]⟩

/-- Conservation: for parents-first lists without conflicts the unspent coins weigh what the
    delivered transactions create less what they take from the known coins, each transaction counted
    once. -/
theorem unspent_sum {ds : List τ} (free : ConflictFree spends ds)
    (ordered : ParentsFirst creates spends ds) (once : CreatedOnce creates ds) (weight : ο → ν) :
    ∑ o ∈ (run creates spends ds).known with (run creates spends ds).spender o = none, weight o =
      ∑ t ∈ ds.toFinset, (∑ o ∈ creates t, weight o -
        ∑ o ∈ spends t ∩ (run creates spends ds).known, weight o) := by
  have knownSum :
      ∑ o ∈ (run creates spends ds).known, weight o =
        ∑ t ∈ ds.toFinset, ∑ o ∈ creates t, weight o := by
    rw [known_run_eq_biUnion, Finset.sum_biUnion]
    intro t member t' member' distinct
    rw [Function.onFun, Finset.disjoint_left]
    intro o inFirst inSecond
    exact distinct (once o t (by simpa using member) t' (by simpa using member') inFirst inSecond)
  have markedSum :
      ∑ o ∈ (run creates spends ds).known with (run creates spends ds).spender o ≠ none, weight o =
        ∑ t ∈ ds.toFinset, ∑ o ∈ spends t ∩ (run creates spends ds).known, weight o := by
    rw [marked_eq_biUnion free ordered, Finset.sum_biUnion]
    intro t member t' member' distinct
    rw [Function.onFun, Finset.disjoint_left]
    intro o inFirst inSecond
    exact distinct (free o t (by simpa using member) t' (by simpa using member')
      (Finset.mem_inter.mp inFirst).1 (Finset.mem_inter.mp inSecond).1)
  have split := Finset.sum_filter_add_sum_filter_not (run creates spends ds).known
    (fun o => (run creates spends ds).spender o = none) weight
  rw [Finset.sum_sub_distrib, ← knownSum, ← markedSum, ← split]
  simp

end Conservation

end Marks

end Deliveries

end CoinMarks
