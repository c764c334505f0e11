/-
Module: TallyKeep.Library.KeysetPages
Layer: Library
Purpose: Walks over rows page by page, the largest key first, where the key of the last row of a page
  bounds the next one strictly and several rows may have one key.
Trusted boundary: none
Main exports: Arrangement, below, Page, page, walk, sortedKeys, EdgesDiffer, walk_shows
-/
import Mathlib.Data.List.Sort

namespace Paging

universe u v

variable {α : Type u} {κ : Type v} [LinearOrder κ]

/-! ### Pages -/

/-- An order of rows with the largest key first, which leaves open how rows of one key follow each
    other. -/
structure Arrangement (key : α → κ) where
  arrange : List α → List α
  perm : ∀ rows, (arrange rows).Perm rows
  sorted : ∀ rows, (arrange rows).Pairwise fun row later => key later ≤ key row

variable {key : α → κ}

/-- The rows under a bound. -/
def below (key : α → κ) (bound : Option κ) (rows : List α) : List α :=
  rows.filter fun row => bound.all fun b => decide (key row < b)

/-- One page, and whether there is more. -/
structure Page (α : Type u) where
  shown : List α
  hasMore : Bool

/-- A page asks for one row more than it shows. -/
def page (size : Nat) (arrangement : Arrangement key) (rows : List α) : Page α :=
  let found := (arrangement.arrange rows).take (size + 1)
  ⟨found.take size, decide (found.length = size + 1)⟩

/-- The walk from a bound on: what all pages show, one after the other.  Each request may arrange
    the rows in its own way. -/
def walk (size : Nat) (arrangements : Nat → Arrangement key) (rows : List α) :
    Nat → Nat → Option κ → Option (List α)
  | 0, _, _ => none
  | fuel + 1, request, bound =>
      let here := page size (arrangements request) (below key bound rows)
      if here.hasMore then
        (walk size arrangements rows fuel (request + 1) (here.shown.getLast?.map key)).map
          fun later => here.shown ++ later
      else some here.shown

/-! ### The keys in order -/

/-- The keys of the rows, the largest first. -/
def sortedKeys (key : α → κ) (rows : List α) : List κ :=
  (rows.map key).insertionSort fun k later => later ≤ k

/-- No page ends between two rows of one key. -/
def EdgesDiffer (size : Nat) (keys : List κ) : Prop :=
  ∀ j, size * (j + 1) < keys.length → keys[size * (j + 1) - 1]? ≠ keys[size * (j + 1)]?

theorem sortedKeys_eq {rows arranged : List α} (same : arranged.Perm rows)
    (sorted : arranged.Pairwise fun row later => key later ≤ key row) :
    sortedKeys key rows = arranged.map key := by
  refine List.Perm.eq_of_pairwise' (r := fun k later => later ≤ k) ?_ ?_ ?_
  · exact List.pairwise_insertionSort _ _
  · exact List.pairwise_map.mpr sorted
  · exact (List.perm_insertionSort _ _).trans (same.symm.map key)

omit [LinearOrder κ] in
/-- The edges behind a full page are that of the page and those of the rest. -/
theorem edgesDiffer_append {size : Nat} {first rest : List κ} (positive : 0 < size)
    (full : first.length = size) (more : rest ≠ []) :
    EdgesDiffer size (first ++ rest) ↔ first.getLast? ≠ rest.head? ∧ EdgesDiffer size rest := by
  have edge : (first ++ rest)[size - 1]? = first.getLast? := by
    rw [List.getElem?_append_left (by omega), List.getLast?_eq_getElem?, full]
  have next : ∀ k, (first ++ rest)[size + k]? = rest[k]? := by
    intro k
    rw [List.getElem?_append_right (by omega), full, Nat.add_sub_cancel_left]
  have head : (first ++ rest)[size]? = rest.head? := by
    rw [List.head?_eq_getElem?]
    exact next 0
  have behind : ∀ j, size * (j + 2) = size + size * (j + 1) ∧
      size * (j + 2) - 1 = size + (size * (j + 1) - 1) := by
    intro j
    have step : size * (j + 2) = size + size * (j + 1) := by rw [Nat.mul_succ, Nat.add_comm]
    have least : 0 < size * (j + 1) := Nat.mul_pos positive (Nat.succ_pos j)
    omega
  constructor
  · intro differ
    constructor
    · have here := differ 0 (by
        rw [Nat.zero_add, Nat.mul_one, List.length_append, full]
        exact Nat.lt_add_of_pos_right (List.length_pos_of_ne_nil more))
      rw [Nat.zero_add, Nat.mul_one, edge, head] at here
      exact here
    · intro j inside
      have there := differ (j + 1) (by
        rw [(behind j).1, List.length_append, full]
        exact Nat.add_lt_add_left inside size)
      rw [(behind j).2, (behind j).1, next, next] at there
      exact there
  · rintro ⟨here, there⟩ j inside
    cases j with
    | zero =>
        rw [Nat.zero_add, Nat.mul_one, edge, head]
        exact here
    | succ j =>
        rw [(behind j).1, List.length_append, full] at inside
        rw [(behind j).2, (behind j).1, next, next]
        exact there j (Nat.lt_of_add_lt_add_left inside)

/-! ### The walk -/

theorem page_last {size : Nat} (arrangement : Arrangement key) {rows : List α}
    (few : rows.length ≤ size) : page size arrangement rows = ⟨arrangement.arrange rows, false⟩ := by
  rw [← (arrangement.perm rows).length_eq] at few
  have all : (arrangement.arrange rows).take (size + 1) = arrangement.arrange rows :=
    List.take_of_length_le (by omega)
  rw [page, all, decide_eq_false (by omega), List.take_of_length_le few]

theorem page_more {size : Nat} (arrangement : Arrangement key) {rows : List α}
    (many : size < rows.length) :
    page size arrangement rows = ⟨(arrangement.arrange rows).take size, true⟩ := by
  rw [← (arrangement.perm rows).length_eq] at many
  have found : ((arrangement.arrange rows).take (size + 1)).length = size + 1 := by
    rw [List.length_take]
    omega
  rw [page, decide_eq_true found, List.take_take, Nat.min_eq_left (Nat.le_succ size)]

theorem below_below {bound t : κ} {rows : List α} (under : t ≤ bound) :
    below key (some t) (below key (some bound) rows) = below key (some t) rows := by
  rw [below, below, List.filter_filter]
  apply List.filter_congr
  intro row _
  rw [Option.all_some, Option.all_some]
  by_cases less : key row < t
  · simp [less, lt_of_lt_of_le less under]
  · simp [less]

theorem below_none (rows : List α) : below key none rows = rows := by
  rw [below]
  exact List.filter_eq_self.mpr fun _ _ => rfl

/-- What a walk over some rows shows: rows of them in order, none twice, and all of them when no page
    ends between two rows of one key. -/
structure Shows (size : Nat) (key : α → κ) (rows shown : List α) : Prop where
  sorted : shown.Pairwise fun row later => key later ≤ key row
  rowsOnce : shown.Subperm rows
  all : shown.Perm rows ↔ EdgesDiffer size (sortedKeys key rows)

/-- A page that shows all that is left. -/
theorem shows_last {size : Nat} {rows arranged : List α} (same : arranged.Perm rows)
    (sorted : arranged.Pairwise fun row later => key later ≤ key row)
    (few : arranged.length ≤ size) : Shows size key rows arranged := by
  refine ⟨sorted, same.subperm, fun _ j inside => ?_, fun _ => same⟩
  rw [sortedKeys_eq same sorted, List.length_map] at inside
  have least : size ≤ size * (j + 1) := Nat.le_mul_of_pos_right size (Nat.succ_pos j)
  omega

/-- A page before others, which show what is below the key of its last row. -/
theorem shows_more {size : Nat} {rows init rest later : List α} {last : α}
    (same : (init ++ [last] ++ rest).Perm rows)
    (sorted : (init ++ [last] ++ rest).Pairwise fun row later => key later ≤ key row)
    (full : (init ++ [last]).length = size) (more : rest ≠ [])
    (shows : Shows size key (below key (some (key last)) rows) later) :
    Shows size key rows (init ++ [last] ++ later) := by
  obtain ⟨sortedFirst, sortedRest, between⟩ := List.pairwise_append.mp sorted
  have least : ∀ row ∈ init ++ [last], key last ≤ key row := by
    intro row member
    rcases List.mem_append.mp member with before | here
    · exact (List.pairwise_append.mp sortedFirst).2.2 row before last (List.mem_singleton_self _)
    · exact le_of_eq (congrArg key (List.mem_singleton.mp here).symm)
  -- below the bound there is nothing of the page
  have left : (below key (some (key last)) rest).Perm (below key (some (key last)) rows) := by
    have split := same.filter fun row => (some (key last)).all fun b => decide (key row < b)
    rw [List.filter_append, List.filter_eq_nil_iff.mpr fun row member => by
      simpa using least row member] at split
    exact split
  have under : ∀ row ∈ later, key row < key last := by
    intro row member
    simpa [below] using (List.mem_filter.mp (shows.rowsOnce.subset member)).2
  refine ⟨?_, ?_, ?_⟩
  · refine List.pairwise_append.mpr ⟨sortedFirst, shows.sorted, ?_⟩
    intro row member other below
    exact le_of_lt (lt_of_lt_of_le (under other below) (least row member))
  · have few : later.Subperm rest :=
      (shows.rowsOnce.trans left.symm.subperm).trans List.filter_sublist.subperm
    exact ((List.subperm_append_left _).mpr few).trans same.subperm
  · obtain ⟨next, rest, rfl⟩ := List.exists_cons_of_ne_nil more
    have atMost : key next ≤ key last :=
      between last (List.mem_append_right _ (List.mem_singleton_self _)) next List.mem_cons_self
    have positive : 0 < size := by
      rw [← full, List.length_append]
      exact Nat.succ_pos _
    have edges : EdgesDiffer size (sortedKeys key rows) ↔
        key last ≠ key next ∧ EdgesDiffer size ((next :: rest).map key) := by
      have behind : (next :: rest).map key ≠ [] := List.cons_ne_nil _ _
      rw [sortedKeys_eq same sorted, List.map_append,
        edgesDiffer_append positive (by rw [List.length_map, full]) behind]
      simp
    rw [edges]
    by_cases tie : key last = key next
    · -- the next row has the key of the last one and is never shown
      refine ⟨fun shown => ?_, fun differ => absurd tie differ.1⟩
      have short : (below key (some (key last)) (next :: rest)).length < (next :: rest).length := by
        rw [below, List.length_filter_lt_length_iff_exists]
        exact ⟨next, List.mem_cons_self, by simp [tie]⟩
      have lengths := (shown.trans same.symm).length_eq
      have fewer := shows.rowsOnce.length_le
      rw [← left.length_eq] at fewer
      simp only [List.length_append] at lengths
      omega
    · have less : key next < key last := lt_of_le_of_ne atMost fun same => tie same.symm
      have kept : below key (some (key last)) (next :: rest) = next :: rest := by
        apply List.filter_eq_self.mpr
        intro row member
        have bounded : key row < key last := by
          rcases List.mem_cons.mp member with rfl | behind
          · exact less
          · exact lt_of_le_of_lt ((List.pairwise_cons.mp sortedRest).1 row behind) less
        simpa using bounded
      rw [kept] at left
      have behind := shows.all
      rw [sortedKeys_eq left sortedRest] at behind
      constructor
      · intro shown
        refine ⟨tie, behind.mp ?_⟩
        exact ((List.perm_append_left_iff _).mp (shown.trans same.symm)).trans left
      · rintro ⟨-, differ⟩
        exact ((behind.mpr differ).trans left.symm).append_left _ |>.trans same

/-- A walk ends, after no more requests than there are rows and one. -/
theorem walk_shows {size : Nat} (positive : 0 < size) (arrangements : Nat → Arrangement key)
    (rows : List α) {fuel : Nat} {bound : Option κ} (request : Nat)
    (enough : (below key bound rows).length < fuel) :
    ∃ shown, walk size arrangements rows fuel request bound = some shown ∧
      Shows size key (below key bound rows) shown := by
  induction fuel generalizing request bound with
  | zero => exact absurd enough (Nat.not_lt_zero _)
  | succ fuel ih =>
      rw [walk]
      by_cases few : (below key bound rows).length ≤ size
      · rw [page_last _ few]
        exact ⟨_, rfl, shows_last ((arrangements request).perm _) ((arrangements request).sorted _)
          (((arrangements request).perm _).length_eq.le.trans few)⟩
      · have many := Nat.lt_of_not_le few
        rw [page_more _ many]
        have same := (arrangements request).perm (below key bound rows)
        have sorted := (arrangements request).sorted (below key bound rows)
        rw [← same.length_eq] at many
        generalize (arrangements request).arrange (below key bound rows) = arranged at same sorted many ⊢
        have full : (arranged.take size).length = size := List.length_take_of_le (Nat.le_of_lt many)
        rcases List.eq_nil_or_concat (arranged.take size) with none | ⟨init, last, ends⟩
        · rw [none] at full
          exact absurd full (Nat.ne_of_lt positive)
        rw [List.concat_eq_append] at ends
        have split : init ++ [last] ++ arranged.drop size = arranged := by
          rw [← ends, List.take_append_drop]
        have more : arranged.drop size ≠ [] := by
          rw [Ne, List.drop_eq_nil_iff]
          exact Nat.not_le_of_lt many
        rw [ends] at full
        rw [← split] at same sorted
        have member : last ∈ below key bound rows := same.subset (by simp)
        have narrower : below key (some (key last)) (below key bound rows) =
            below key (some (key last)) rows := by
          cases bound with
          | none => rw [below_none]
          | some b =>
              apply below_below
              exact le_of_lt (by simpa [below] using (List.mem_filter.mp member).2)
        have fewer : (below key (some (key last)) rows).length < fuel := by
          have dropped : (below key (some (key last)) (below key bound rows)).length <
              (below key bound rows).length := by
            rw [below, List.length_filter_lt_length_iff_exists]
            exact ⟨last, member, by simp⟩
          rw [narrower] at dropped
          omega
        obtain ⟨later, walked, shows⟩ := ih (request + 1) fewer
        rw [if_pos rfl, ends, List.getLast?_concat, Option.map_some, walked]
        rw [← narrower] at shows
        exact ⟨_, rfl, shows_more same sorted full more shows⟩

end Paging
