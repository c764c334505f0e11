/-
Module: TallyKeep.Library.Transition
Layer: Library
Purpose: Labelled transition relations: runs, reachable states, and what steps preserve along them.
Trusted boundary: none
Main exports: Run, Reachable, guarded, Visits, Throughout, Along, Run.invariant, Run.along_iff,
  Run.simulated, Run.establishes_iff, Run.reaches, Run.throughout_iff, Reachable.invariant,
  Reachable.simulated
-/
import Mathlib.Logic.Relation

namespace Transition

universe u v

variable {σ τ : Type u} {α β : Type v}

/-- A finite run: the labels of its steps in order, from the first state to the last. -/
inductive Run (step : σ → α → σ → Prop) : σ → List α → σ → Prop where
  | stop (s : σ) : Run step s [] s
  | cons {s t u : σ} {a : α} {labels : List α} (first : step s a t) (rest : Run step t labels u) :
      Run step s (a :: labels) u

/-- The states some run leads to from an initial state. -/
def Reachable (initial : σ → Prop) (step : σ → α → σ → Prop) (s : σ) : Prop :=
  ∃ start labels, initial start ∧ Run step start labels s

/-- The steps that are taken only where a condition on the state and the label holds. -/
def guarded (step : σ → α → σ → Prop) (guard : σ → α → Prop) (s : σ) (a : α) (t : σ) : Prop :=
  guard s a ∧ step s a t

/-- The steps of a function. -/
def stepOf (f : σ → α → σ) (s : σ) (a : α) (t : σ) : Prop := t = f s a

/-- The runs in which some step is taken where a condition on the state and the label holds. -/
inductive Visits (step : σ → α → σ → Prop) (condition : σ → α → Prop) : σ → List α → σ → Prop where
  | here {s t u : σ} {a : α} {labels : List α} (met : condition s a) (first : step s a t)
      (rest : Run step t labels u) : Visits step condition s (a :: labels) u
  | later {s t u : σ} {a : α} {labels : List α} (first : step s a t)
      (rest : Visits step condition t labels u) : Visits step condition s (a :: labels) u

/-- The runs in which every state satisfies one condition and every step is taken where another
    holds. -/
def Throughout (step : σ → α → σ → Prop) (always : σ → Prop) (taken : σ → α → Prop) (s : σ)
    (labels : List α) (u : σ) : Prop :=
  Run (guarded step fun s a => always s ∧ taken s a) s labels u ∧ always u

/-- Each label is allowed after those before it. -/
def Along (allowed : List α → α → Prop) : List α → List α → Prop
  | _, [] => True
  | earlier, a :: labels => allowed earlier a ∧ Along allowed (earlier ++ [a]) labels

/-- A part of a list with one more item at its end ends there, or lies before it. -/
theorem append_singleton_eq_split {labels before later : List α} {a b : α} :
    labels ++ [b] = before ++ a :: later ↔
      (labels = before ∧ b = a ∧ later = []) ∨
        ∃ init, later = init ++ [b] ∧ labels = before ++ a :: init := by
  constructor
  · intro split
    rcases List.eq_nil_or_concat later with rfl | ⟨init, last, rfl⟩
    · obtain ⟨same, ends⟩ := List.append_inj' split rfl
      exact .inl ⟨same, List.singleton_inj.mp ends, rfl⟩
    · rw [List.concat_eq_append, ← List.cons_append, ← List.append_assoc] at split
      obtain ⟨same, ends⟩ := List.append_inj' split rfl
      rw [List.singleton_inj.mp ends]
      exact .inr ⟨init, List.concat_eq_append, same⟩
  · rintro (⟨rfl, rfl, rfl⟩ | ⟨init, rfl, rfl⟩)
    · rfl
    · simp

section Runs

variable {step step' : σ → α → σ → Prop} {s t u : σ} {a : α} {labels labels' : List α}

namespace Run

theorem single (taken : step s a t) : Run step s [a] t := .cons taken (.stop t)

theorem append (first : Run step s labels t) (second : Run step t labels' u) :
    Run step s (labels ++ labels') u := by
  induction first with
  | stop s => exact second
  | cons taken _ inductionHypothesis => exact .cons taken (inductionHypothesis second)

theorem mono (weaker : ∀ s a t, step s a t → step' s a t) (run : Run step s labels t) :
    Run step' s labels t := by
  induction run with
  | stop s => exact .stop s
  | cons taken _ inductionHypothesis => exact .cons (weaker _ _ _ taken) inductionHypothesis

/-- A step that leads back to its state can be taken any number of times. -/
theorem replicate (back : step s a s) (n : Nat) : Run step s (List.replicate n a) s := by
  induction n with
  | zero => exact .stop s
  | succ n inductionHypothesis => exact .cons back inductionHypothesis

/-- What every step preserves, a run preserves. -/
theorem invariant {I : σ → Prop} (preserved : ∀ s a t, I s → step s a t → I t)
    (run : Run step s labels t) (holds : I s) : I t := by
  induction run with
  | stop s => exact holds
  | cons taken _ inductionHypothesis => exact inductionHypothesis (preserved _ _ _ holds taken)

/-- Where every step is a run of another system, seen through a map of the states, every run is. -/
theorem simulated {base : τ → β → τ → Prop} (f : σ → τ)
    (matched : ∀ s a t, step s a t → ∃ labels', Run base (f s) labels' (f t))
    (run : Run step s labels t) : ∃ labels', Run base (f s) labels' (f t) := by
  induction run with
  | stop s => exact ⟨[], .stop (f s)⟩
  | cons taken _ inductionHypothesis =>
      obtain ⟨first, firstRun⟩ := matched _ _ _ taken
      obtain ⟨later, laterRun⟩ := inductionHypothesis
      exact ⟨first ++ later, firstRun.append laterRun⟩

/-- A function can be run on labels that all satisfy a guard. -/
theorem of_guarded (f : σ → α → σ) {guard : α → Prop} {labels : List α}
    (allowed : ∀ a ∈ labels, guard a) (s : σ) :
    Run (guarded (stepOf f) fun _ a => guard a) s labels (labels.foldl f s) := by
  induction labels generalizing s with
  | nil => exact .stop s
  | cons a labels inductionHypothesis =>
      exact .cons ⟨allowed a List.mem_cons_self, rfl⟩
        (inductionHypothesis (fun b member => allowed b (List.mem_cons_of_mem a member)) (f s a))

/-- A function can be run on any labels. -/
theorem of_steps (f : σ → α → σ) (labels : List α) (s : σ) :
    Run (stepOf f) s labels (labels.foldl f s) := by
  induction labels generalizing s with
  | nil => exact .stop s
  | cons a labels inductionHypothesis => exact .cons rfl (inductionHypothesis (f s a))

/-- What steps establish exactly where a condition holds, and never undo, holds after a run exactly
    when it held before or some step was taken where the condition holds. -/
theorem establishes_iff {I Q : σ → Prop} {condition : σ → α → Prop}
    (preserved : ∀ s a t, I s → step s a t → I t)
    (establishes : ∀ s a t, I s → step s a t → (Q t ↔ Q s ∨ condition s a))
    (run : Run step s labels u) (holds : I s) :
    Q u ↔ Q s ∨ Visits step condition s labels u := by
  have kept : ∀ s labels u, Run step s labels u → I s → Q s → Q u := by
    intro s labels u run holds before
    apply (run.invariant (I := fun s => I s ∧ Q s) _ ⟨holds, before⟩).2
    intro s a t ⟨holds, before⟩ taken
    exact ⟨preserved s a t holds taken, (establishes s a t holds taken).mpr (.inl before)⟩
  constructor
  · intro after
    induction run with
    | stop s => exact .inl after
    | cons taken rest inductionHypothesis =>
        rcases inductionHypothesis (preserved _ _ _ holds taken) after with before | visits
        · rcases (establishes _ _ _ holds taken).mp before with before | met
          · exact .inl before
          · exact .inr (.here met taken rest)
        · exact .inr (.later taken visits)
  · intro cause
    rcases cause with before | visits
    · exact kept s labels u run holds before
    · clear run
      induction visits with
      | here met taken rest =>
          exact kept _ _ _ rest (preserved _ _ _ holds taken)
            ((establishes _ _ _ holds taken).mpr (.inr met))
      | later taken _ inductionHypothesis =>
          exact inductionHypothesis (preserved _ _ _ holds taken)

/-- Where every step of some kind lowers a measure or reaches a goal, and no other step raises the
    one or gives up the other, the goal is reached by more such steps than the measure was high. -/
theorem reaches {I Q : σ → Prop} {measure : σ → Nat} {counts : α → Bool}
    (preserved : ∀ s a t, I s → step s a t → I t)
    (kept : ∀ s a t, I s → step s a t → Q s → Q t)
    (lowered : ∀ s a t, I s → step s a t →
      Q t ∨ measure t + (if counts a then 1 else 0) ≤ measure s)
    (run : Run step s labels u) (holds : I s) (enough : measure s < labels.countP counts) :
    Q u := by
  induction run with
  | stop s => simp at enough
  | cons taken rest inductionHypothesis =>
      have next := preserved _ _ _ holds taken
      rcases lowered _ _ _ holds taken with reached | lower
      · apply (rest.invariant (I := fun s => I s ∧ Q s) _ ⟨next, reached⟩).2
        intro s a t ⟨holds, reached⟩ taken
        exact ⟨preserved s a t holds taken, kept s a t holds taken reached⟩
      · apply inductionHypothesis next
        rw [List.countP_cons] at enough
        omega

/-- Conditions that one step meets exactly where a guard holds hold throughout a run exactly when
    the guard holds at each of its steps. -/
theorem throughout_iff {I always : σ → Prop} {taken guard : σ → α → Prop}
    (preserved : ∀ s a t, I s → step s a t → I t)
    (exact : ∀ s a t, I s → always s → step s a t → (taken s a ∧ always t ↔ guard s a))
    (holds : I s) (first : always s) :
    Throughout step always taken s labels u ↔ Run (guarded step guard) s labels u := by
  constructor
  · intro ⟨run, last⟩
    induction run with
    | stop s => exact .stop s
    | @cons s t u a labels step rest inductionHypothesis =>
        have next : always t := by
          cases rest with
          | stop => exact last
          | cons later _ => exact later.1.1
        have met := (exact s a t holds first step.2).mp ⟨step.1.2, next⟩
        exact .cons ⟨met, step.2⟩ (inductionHypothesis (preserved s a t holds step.2) next last)
  · intro run
    induction run with
    | stop s => exact ⟨.stop s, first⟩
    | @cons s t u a labels step _ inductionHypothesis =>
        obtain ⟨allowed, next⟩ := (exact s a t holds first step.2).mpr step.1
        obtain ⟨rest, last⟩ := inductionHypothesis (preserved s a t holds step.2) next
        exact ⟨.cons ⟨⟨first, allowed⟩, step.2⟩ rest, last⟩

/-- What steps preserve of a state and the labels so far, a run preserves. -/
theorem invariant_labels {I : σ → List α → Prop} {allowed : List α → α → Prop} {earlier : List α}
    (preserved : ∀ s earlier a t, I s earlier → allowed earlier a → step s a t →
      I t (earlier ++ [a]))
    (run : Run step s labels t) (along : Along allowed earlier labels) (holds : I s earlier) :
    I t (earlier ++ labels) := by
  induction run generalizing earlier with
  | stop s => simpa using holds
  | @cons s t u a labels taken _ inductionHypothesis =>
      have next := inductionHypothesis along.2 (preserved _ _ _ _ holds along.1 taken)
      simpa using next

/-- A law that one step meets exactly where a guard holds is met along a run exactly when the guard
    holds at each of its steps. -/
theorem along_iff {I : σ → List α → Prop} {allowed law : List α → α → Prop}
    {guard : σ → α → Prop} {earlier : List α}
    (deterministic : ∀ s a t t', step s a t → step s a t' → t' = t)
    (preserved : ∀ s earlier a t, I s earlier → allowed earlier a → step s a t →
      I t (earlier ++ [a]))
    (exact : ∀ s earlier a t, I s earlier → step s a t → (law earlier a ↔ guard s a))
    (run : Run step s labels t) (along : Along allowed earlier labels) (holds : I s earlier) :
    Along law earlier labels ↔ Run (guarded step guard) s labels t := by
  induction run generalizing earlier with
  | stop s => exact iff_of_true trivial (.stop s)
  | @cons s t u a labels taken _ inductionHypothesis =>
      have next := inductionHypothesis along.2 (preserved _ _ _ _ holds along.1 taken)
      constructor
      · intro lawful
        exact .cons ⟨(exact s earlier a t holds taken).mp lawful.1, taken⟩ (next.mp lawful.2)
      · intro guardedRun
        cases guardedRun with
        | cons first rest =>
            rw [deterministic _ _ _ _ taken first.2] at rest
            exact ⟨(exact s earlier a t holds taken).mpr first.1, next.mpr rest⟩

end Run

namespace Reachable

variable {initial : σ → Prop}

theorem of_initial (start : initial s) : Reachable initial step s := ⟨s, [], start, .stop s⟩

theorem snoc (reached : Reachable initial step s) (taken : step s a t) :
    Reachable initial step t := by
  obtain ⟨start, labels, isInitial, run⟩ := reached
  exact ⟨start, labels ++ [a], isInitial, run.append (.single taken)⟩

theorem run (reached : Reachable initial step s) (run : Run step s labels t) :
    Reachable initial step t := by
  obtain ⟨start, earlier, isInitial, first⟩ := reached
  exact ⟨start, earlier ++ labels, isInitial, first.append run⟩

/-- What holds initially and is preserved by every step holds in every reachable state. -/
theorem invariant {I : σ → Prop} (initially : ∀ s, initial s → I s)
    (preserved : ∀ s a t, I s → step s a t → I t) (reached : Reachable initial step s) : I s := by
  obtain ⟨start, labels, isInitial, run⟩ := reached
  exact run.invariant preserved (initially start isInitial)

/-- Where every step is a run of another system, the states that are reached are reached by it. -/
theorem simulated {initial' : τ → Prop} {base : τ → β → τ → Prop} (f : σ → τ)
    (initially : ∀ s, initial s → initial' (f s))
    (matched : ∀ s a t, step s a t → ∃ labels', Run base (f s) labels' (f t))
    (reached : Reachable initial step s) : Reachable initial' base (f s) := by
  obtain ⟨start, labels, isInitial, run⟩ := reached
  obtain ⟨labels', run'⟩ := run.simulated f matched
  exact ⟨f start, labels', initially start isInitial, run'⟩

end Reachable

end Runs

end Transition
