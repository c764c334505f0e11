/-
Module: TallyKeep.Library.Stepwise
Layer: Library
Purpose: Computations that change a state one step at a time and may be cut off between two of
  their steps.
Trusted boundary: none
Main exports: Stepwise, Stepwise.read, Stepwise.write, Stepwise.raise, Stepwise.within,
  Stepwise.result, Stepwise.final, Stepwise.stops, Stepwise.Keeps, Keeps.bind, Stepwise.Ensures,
  Ensures.bind, Stepwise.Shows, Shows.bind
-/
import Mathlib.Data.List.Basic

/-- A computation: from a state, the states it leaves behind one after another, and its result.  A
    raised exception undoes none of them. -/
def Stepwise (σ ε α : Type) : Type := σ → List σ × Except ε α

namespace Stepwise

variable {σ τ ε α β γ : Type}

/-- Where the computation ends. -/
def final (x : Stepwise σ ε α) (s : σ) : σ := (x s).1.getLastD s

/-- What the computation returns or raises. -/
def result (x : Stepwise σ ε α) (s : σ) : Except ε α := (x s).2

/-- The states a computation can be cut off in, from the one it starts in on. -/
def stops (x : Stepwise σ ε α) (s : σ) : List σ := s :: (x s).1

/-- Go on where a computation returned; a raised exception ends both. -/
def bind (x : Stepwise σ ε α) (f : α → Stepwise σ ε β) : Stepwise σ ε β := fun s =>
  match result x s with
  | .error error => ((x s).1, .error error)
  | .ok a => ((x s).1 ++ (f a (final x s)).1, result (f a) (final x s))

instance : Monad (Stepwise σ ε) where
  pure a := fun _ => ([], .ok a)
  bind := bind

/-- Read the state. -/
def read (f : σ → α) : Stepwise σ ε α := fun s => ([], .ok (f s))

/-- One step. -/
def write (f : σ → σ) : Stepwise σ ε PUnit := fun s => ([f s], .ok ⟨⟩)

def raise (error : ε) : Stepwise σ ε α := fun _ => ([], .error error)

/-- A computation that touches no state. -/
def lift (outcome : Except ε α) : Stepwise σ ε α := fun _ => ([], outcome)

/-- `try`: an exception becomes a value. -/
def attempt (x : Stepwise σ ε α) : Stepwise σ ε (Except ε α) := fun s => ((x s).1, .ok (x s).2)

/-- Run a computation on a part of a larger state. -/
def within (part : τ → σ) (replace : τ → σ → τ) (x : Stepwise σ ε α) : Stepwise τ ε α := fun t =>
  ((x (part t)).1.map (replace t), result x (part t))

/-! ### Execution -/

@[simp] theorem pure_apply (a : α) (s : σ) : (pure a : Stepwise σ ε α) s = ([], .ok a) := rfl

@[simp] theorem raise_apply (error : ε) (s : σ) :
    (raise error : Stepwise σ ε α) s = ([], .error error) := rfl

@[simp] theorem read_bind_apply (g : σ → α) (f : α → Stepwise σ ε β) (s : σ) :
    ((read g : Stepwise σ ε α) >>= f) s = f (g s) s := rfl

/-- After a value the rest runs on the state that is left, behind the states that were passed. -/
theorem bind_apply_of_ok {x : Stepwise σ ε α} {f : α → Stepwise σ ε β} {s : σ} {a : α}
    (returned : result x s = .ok a) :
    (x >>= f) s = ((x s).1 ++ (f a (final x s)).1, result (f a) (final x s)) := by
  change bind x f s = _
  simp only [bind, returned]

/-- After an error nothing more runs. -/
theorem bind_apply_of_error {x : Stepwise σ ε α} {f : α → Stepwise σ ε β} {s : σ} {error : ε}
    (raised : result x s = .error error) : (x >>= f) s = ((x s).1, .error error) := by
  change bind x f s = _
  simp only [bind, raised]

/-- The final state is the last one that was passed. -/
theorem final_of_states {x : Stepwise σ ε α} {s : σ} {states : List σ} {outcome : Except ε α}
    (went : x s = (states, outcome)) : final x s = states.getLastD s := by
  rw [final, went]

/-- After the states of the first part come those of the second. -/
theorem bind_apply_of_returns {x : Stepwise σ ε α} {f : α → Stepwise σ ε β} {s : σ}
    {states : List σ} {a : α} (went : x s = (states, .ok a)) :
    (x >>= f) s = (states ++ (f a (states.getLastD s)).1, (f a (states.getLastD s)).2) := by
  have returned : result x s = .ok a := congrArg Prod.snd went
  rw [bind_apply_of_ok returned, final_of_states went, congrArg Prod.fst went]
  rfl

/-- What reads only hands its value on. -/
theorem bind_apply_of_reads {x : Stepwise σ ε α} {f : α → Stepwise σ ε β} {s : σ} {a : α}
    (reads : x s = ([], .ok a)) : (x >>= f) s = f a s := by
  rw [bind_apply_of_returns reads]
  rfl

/-- A value made from what the first part returns. -/
theorem bind_pure_apply (x : Stepwise σ ε α) (f : α → β) (s : σ) :
    (x >>= fun a => (pure (f a) : Stepwise σ ε β)) s = ((x s).1, (x s).2.map f) := by
  cases outcome : result x s with
  | error error =>
      rw [bind_apply_of_error outcome, show (x s).2 = _ from outcome]
      rfl
  | ok a =>
      rw [bind_apply_of_ok outcome, show (x s).2 = _ from outcome, pure_apply, List.append_nil]
      rfl

/-- What refuses at once ends the sequence. -/
theorem bind_apply_of_refuses {x : Stepwise σ ε α} {f : α → Stepwise σ ε β} {s : σ} {error : ε}
    (refuses : x s = ([], .error error)) : (x >>= f) s = ([], .error error) := by
  have raised : result x s = .error error := congrArg Prod.snd refuses
  rw [bind_apply_of_error raised, congrArg Prod.fst refuses]

@[simp] theorem lift_ok_bind_apply (a : α) (f : α → Stepwise σ ε β) (s : σ) :
    ((lift (.ok a) : Stepwise σ ε α) >>= f) s = f a s := rfl

@[simp] theorem lift_error_bind_apply (error : ε) (f : α → Stepwise σ ε β) (s : σ) :
    ((lift (.error error) : Stepwise σ ε α) >>= f) s = ([], .error error) := rfl

/-- A sequence ends where its second part ends. -/
theorem final_bind_of_ok {x : Stepwise σ ε α} {f : α → Stepwise σ ε β} {s : σ} {a : α}
    (returned : result x s = .ok a) : final (x >>= f) s = final (f a) (final x s) := by
  rw [final, bind_apply_of_ok returned]
  simp only [final, List.getLastD_eq_getLast?, List.getLast?_append]
  cases (f a ((x s).1.getLast?.getD s)).1.getLast? <;> rfl

/-- The result of a sequence is the one of its rest. -/
theorem result_bind_of_ok {x : Stepwise σ ε α} {f : α → Stepwise σ ε β} {s : σ} {a : α}
    (returned : result x s = .ok a) : result (x >>= f) s = result (f a) (final x s) := by
  rw [result, bind_apply_of_ok returned]

/-- A sequence that is cut off ends where its first part did. -/
theorem final_bind_of_error {x : Stepwise σ ε α} {f : α → Stepwise σ ε β} {s : σ} {error : ε}
    (raised : result x s = .error error) : final (x >>= f) s = final x s := by
  rw [final, bind_apply_of_error raised, final]

/-- A sequence that is cut off raises the error of its first part. -/
theorem result_bind_of_error {x : Stepwise σ ε α} {f : α → Stepwise σ ε β} {s : σ} {error : ε}
    (raised : result x s = .error error) : result (x >>= f) s = .error error := by
  rw [result, bind_apply_of_error raised]

/-- Sequences associate. -/
theorem bind_assoc_eq (x : Stepwise σ ε α) (f : α → Stepwise σ ε β) (g : β → Stepwise σ ε γ) :
    (x >>= f) >>= g = x >>= fun a => f a >>= g := by
  funext s
  cases outcome : result x s with
  | error error =>
      rw [bind_apply_of_error outcome, bind_apply_of_error (result_bind_of_error outcome),
        bind_apply_of_error outcome]
  | ok a =>
      rw [bind_apply_of_ok (f := fun a => f a >>= g) outcome]
      cases next : result (f a) (final x s) with
      | error error =>
          rw [bind_apply_of_error ((result_bind_of_ok outcome).trans next),
            bind_apply_of_ok outcome, bind_apply_of_error next, result_bind_of_error next]
      | ok b =>
          rw [bind_apply_of_ok ((result_bind_of_ok outcome).trans next),
            final_bind_of_ok outcome, bind_apply_of_ok outcome, bind_apply_of_ok next,
            result_bind_of_ok next, List.append_assoc]

/-- The final state is one that a computation can be stopped in. -/
theorem final_mem_stops (x : Stepwise σ ε α) (s : σ) : final x s ∈ stops x s := by
  rw [final, stops]
  cases left : (x s).1 with
  | nil => exact List.mem_cons_self
  | cons first rest =>
      rw [List.getLastD_cons, List.getLastD_eq_getLast?]
      exact List.mem_cons_of_mem s (List.mem_of_getLast? List.getLast?_cons)

/-- A sequence is cut off in its first part, or goes on from the end of it. -/
theorem mem_stops_bind {x : Stepwise σ ε α} {f : α → Stepwise σ ε β} {s t : σ} :
    t ∈ stops (x >>= f) s ↔
      t ∈ stops x s ∨ ∃ a, result x s = .ok a ∧ t ∈ stops (f a) (final x s) := by
  have last := final_mem_stops x s
  cases outcome : result x s with
  | error error => simp [stops, bind_apply_of_error outcome]
  | ok a =>
      simp only [stops] at last ⊢
      rw [bind_apply_of_ok outcome]
      simp only [List.mem_cons, List.mem_append, Except.ok.injEq, exists_eq_left']
      constructor
      · rintro (start | early | late)
        · exact .inl (.inl start)
        · exact .inl (.inr early)
        · exact .inr (.inr late)
      · rintro ((start | early) | start | late)
        · exact .inl start
        · exact .inr (.inl early)
        · rw [start]
          rcases List.mem_cons.mp last with same | among
          · exact .inl same
          · exact .inr (.inl among)
        · exact .inr (.inr late)

/-- What only reads, and goes on with what only reads, only reads. -/
theorem states_bind_nil {x : Stepwise σ ε α} {f : α → Stepwise σ ε β} {s : σ}
    (first : (x s).1 = []) (next : ∀ a, (f a s).1 = []) : ((x >>= f) s).1 = [] := by
  cases outcome : result x s with
  | error error => rw [bind_apply_of_error outcome, first]
  | ok a =>
      have stayed : final x s = s := by
        rw [final, first]
        rfl
      rw [bind_apply_of_ok outcome, first, stayed, next a, List.append_nil]

/-! ### What every stop keeps -/

/-- Wherever the computation is cut off, the state it started in is related to the one it leaves. -/
def Keeps (r : σ → σ → Prop) (x : Stepwise σ ε α) : Prop := ∀ s, ∀ t ∈ stops x s, r s t

namespace Keeps

variable {r : σ → σ → Prop} {x : Stepwise σ ε α} {f : α → Stepwise σ ε β}

/-- A computation that passes no state keeps every reflexive relation. -/
theorem of_states_nil (reflexive : ∀ s, r s s) (none : ∀ s, (x s).1 = []) : Keeps r x := by
  intro s t cut
  rw [stops, none s, List.mem_singleton] at cut
  rw [cut]
  exact reflexive s

theorem pure (reflexive : ∀ s, r s s) (a : α) : Keeps r (Pure.pure a : Stepwise σ ε α) :=
  of_states_nil reflexive fun _ => rfl

theorem read (reflexive : ∀ s, r s s) (g : σ → α) : Keeps r (read g : Stepwise σ ε α) :=
  of_states_nil reflexive fun _ => rfl

theorem raise (reflexive : ∀ s, r s s) (error : ε) : Keeps r (raise error : Stepwise σ ε α) :=
  of_states_nil reflexive fun _ => rfl

theorem lift (reflexive : ∀ s, r s s) (outcome : Except ε α) :
    Keeps r (lift outcome : Stepwise σ ε α) :=
  of_states_nil reflexive fun _ => rfl

/-- A write keeps a relation that holds between every state and the written one. -/
theorem write (reflexive : ∀ s, r s s) {g : σ → σ} (kept : ∀ s, r s (g s)) :
    Keeps r (write g : Stepwise σ ε PUnit) := by
  intro s t cut
  rcases List.mem_cons.mp cut with rfl | written
  · exact reflexive t
  · rw [List.mem_singleton.mp written]
    exact kept s

/-- A relation that both parts keep is kept by their sequence, if it is transitive. -/
theorem bind (transitive : ∀ s t u, r s t → r t u → r s u) (first : Keeps r x)
    (next : ∀ a, Keeps r (f a)) : Keeps r (x >>= f) := by
  intro s t cut
  rcases mem_stops_bind.mp cut with early | ⟨a, _, late⟩
  · exact first s t early
  · exact transitive s _ t (first s _ (final_mem_stops x s)) (next a _ t late)

/-- What a computation keeps holds between its first state and its last. -/
theorem final (kept : Keeps r x) (s : σ) : r s (final x s) := kept s _ (final_mem_stops x s)

end Keeps

/-! ### Writes in a row -/

/-- The states some writes leave behind one after another. -/
def followed : List (σ → σ) → σ → List σ
  | [], _ => []
  | f :: rest, s => f s :: followed rest (f s)

/-- Where the first of some writes lead. -/
def led (writes : List (σ → σ)) (s : σ) : σ := writes.foldl (fun t f => f t) s

@[simp] theorem led_nil (s : σ) : led [] s = s := rfl

@[simp] theorem led_cons (f : σ → σ) (rest : List (σ → σ)) (s : σ) :
    led (f :: rest) s = led rest (f s) := rfl

/-- A list of writes runs part by part. -/
theorem led_append (first second : List (σ → σ)) (s : σ) :
    led (first ++ second) s = led second (led first s) := List.foldl_append

/-- The last state of the writes that were followed is the one that they lead to. -/
theorem getLastD_followed (writes : List (σ → σ)) (s : σ) :
    (followed writes s).getLastD s = led writes s := by
  induction writes generalizing s with
  | nil => rfl
  | cons f rest inductionHypothesis =>
      rw [followed, List.getLastD_cons, inductionHypothesis]
      rfl

/-- The states of two lists of writes are those of the first, then those of the second. -/
theorem followed_append (first second : List (σ → σ)) (s : σ) :
    followed (first ++ second) s = followed first s ++ followed second (led first s) := by
  induction first generalizing s with
  | nil => rfl
  | cons f rest inductionHypothesis =>
      rw [List.cons_append, followed, followed, inductionHypothesis]
      rfl

/-- A computation that makes some writes is cut off after the first so many of them. -/
theorem stop_of_followed {x : Stepwise σ ε α} {writes : List (σ → σ)} {s t : σ} {n : Nat}
    (went : (x s).1 = followed writes s) (cut : (stops x s)[n]? = some t) :
    n ≤ writes.length ∧ t = led (writes.take n) s := by
  rw [stops, went] at cut
  clear went
  induction n generalizing s writes with
  | zero => exact ⟨Nat.zero_le _, by simpa using cut.symm⟩
  | succ n inductionHypothesis =>
      cases writes with
      | nil => simp [followed] at cut
      | cons f rest =>
          rw [followed, List.getElem?_cons_succ] at cut
          obtain ⟨bounded, same⟩ := inductionHypothesis cut
          exact ⟨Nat.succ_le_succ bounded, same⟩

/-- What every one of some writes keeps, they keep together. -/
theorem led_keeps {I : σ → Prop} {writes : List (σ → σ)}
    (keeps : ∀ f ∈ writes, ∀ s, I s → I (f s)) {s : σ} (holds : I s) : I (led writes s) := by
  induction writes generalizing s with
  | nil => exact holds
  | cons f rest inductionHypothesis =>
      exact inductionHypothesis (fun g member => keeps g (List.mem_cons_of_mem f member))
        (keeps f List.mem_cons_self s holds)

/-! ### Before and after -/

/-- From a state of the first kind, a computation returns in a state of the second kind, or raises
    in one of the third. -/
def Ensures (before : σ → Prop) (x : Stepwise σ ε α) (after : α → σ → Prop) (raised : σ → Prop) :
    Prop :=
  ∀ s, before s → (∀ a, result x s = .ok a → after a (final x s)) ∧
    ∀ error, result x s = .error error → raised (final x s)

namespace Ensures

variable {before weaker : σ → Prop} {after stronger : α → σ → Prop} {last : β → σ → Prop}
  {raised : σ → Prop} {x : Stepwise σ ε α} {f : α → Stepwise σ ε β}

/-- A returned value ensures what holds of it. -/
theorem pure {a : α} (holds : ∀ s, before s → after a s) :
    Ensures before (Pure.pure a : Stepwise σ ε α) after raised := by
  intro s start
  refine ⟨fun b returned => ?_, fun error failed => ?_⟩
  · cases returned
    exact holds s start
  · cases failed

/-- A read ensures what holds of the value that is there. -/
theorem read {g : σ → α} (holds : ∀ s, before s → after (g s) s) :
    Ensures before (read g : Stepwise σ ε α) after raised := by
  intro s start
  refine ⟨fun b returned => ?_, fun error failed => ?_⟩
  · cases returned
    exact holds s start
  · cases failed

/-- A write ensures what holds of the written state. -/
theorem write {g : σ → σ} {after : PUnit → σ → Prop} (holds : ∀ s, before s → after ⟨⟩ (g s)) :
    Ensures before (write g : Stepwise σ ε PUnit) after raised := by
  intro s start
  refine ⟨fun b returned => ?_, fun error failed => ?_⟩
  · cases returned
    exact holds s start
  · cases failed

/-- An error ensures what holds when it is raised. -/
theorem raise {error : ε} (holds : ∀ s, before s → raised s) :
    Ensures before (raise error : Stepwise σ ε α) after raised := by
  intro s start
  refine ⟨fun b returned => ?_, fun error failed => ?_⟩
  · cases returned
  · exact holds s start

/-- A lifted outcome ensures what holds of its value, or of its error. -/
theorem lift {outcome : Except ε α} (holds : ∀ s, before s → ∀ a, outcome = .ok a → after a s)
    (fails : ∀ s, before s → raised s) :
    Ensures before (lift outcome : Stepwise σ ε α) after raised := by
  intro s start
  exact ⟨fun a returned => holds s start a returned, fun error _ => fails s start⟩

/-- One computation after another, with what holds between them. -/
theorem bind (after : α → σ → Prop) (first : Ensures before x after raised)
    (next : ∀ a, Ensures (after a) (f a) last raised) : Ensures before (x >>= f) last raised := by
  intro s start
  obtain ⟨returns, raises⟩ := first s start
  cases outcome : result x s with
  | error error =>
      rw [final_bind_of_error outcome, result_bind_of_error outcome]
      refine ⟨fun b returned => ?_, fun _ _ => raises error outcome⟩
      cases returned
  | ok a =>
      rw [final_bind_of_ok outcome, result_bind_of_ok outcome]
      exact next a (Stepwise.final x s) (returns a outcome)

/-- `try`: what is raised is returned. -/
theorem attempt (tried : Ensures before x after raised)
    {last : Except ε α → σ → Prop} (returned : ∀ a s, after a s → last (.ok a) s)
    (failed : ∀ error s, raised s → last (.error error) s) {raised' : σ → Prop} :
    Ensures before x.attempt last raised' := by
  intro s start
  obtain ⟨returns, raises⟩ := tried s start
  refine ⟨fun outcome same => ?_, fun error impossible => ?_⟩
  · cases same
    cases went : (x s).2 with
    | ok a => exact returned a _ (returns a went)
    | error error => exact failed error _ (raises error went)
  · cases impossible

/-- A stronger precondition ensures as much. -/
theorem weaken (ensured : Ensures weaker x after raised) (stronger : ∀ s, before s → weaker s) :
    Ensures before x after raised :=
  fun s start => ensured s (stronger s start)

/-- What only reads leaves the state alone. -/
theorem reads {s : σ} (quiet : (x s).1 = []) (start : raised s) :
    Ensures (fun t => t = s) x (fun a t => t = s ∧ result x s = .ok a) raised := by
  have stayed : Stepwise.final x s = s := by
    rw [Stepwise.final, quiet]
    rfl
  rintro _ rfl
  rw [stayed]
  exact ⟨fun _ returned => ⟨rfl, returned⟩, fun _ _ => start⟩

/-- What a part of the state does not matter for, a computation on that part keeps. -/
theorem within {P : τ → Prop} {part : τ → σ} {replace : τ → σ → τ}
    (unseen : ∀ t s, P t → P (replace t s)) (x : Stepwise σ ε α) :
    Ensures P (within part replace x) (fun _ => P) P := by
  intro t start
  have kept : P (Stepwise.final (Stepwise.within part replace x) t) := by
    change P (((x (part t)).1.map (replace t)).getLastD t)
    rw [List.getLastD_eq_getLast?, List.getLast?_map]
    cases (x (part t)).1.getLast? with
    | none => exact start
    | some last => exact unseen t last start
  exact ⟨fun _ _ => kept, fun _ _ => kept⟩

end Ensures

/-! ### What a part of the state shows -/

/-- Seen through a part of its state, a computation is another one, up to steps that change nothing
    there. -/
def Shows (part : τ → σ) (x : Stepwise τ ε α) (y : Stepwise σ ε α) : Prop :=
  ∀ t, result x t = result y (part t) ∧ part (final x t) = final y (part t)

namespace Shows

variable {part : τ → σ} {x : Stepwise τ ε α} {y : Stepwise σ ε α}

theorem pure (a : α) :
    Shows part (Pure.pure a : Stepwise τ ε α) (Pure.pure a : Stepwise σ ε α) :=
  fun _ => ⟨rfl, rfl⟩

theorem read (g : σ → α) :
    Shows part (read fun t => g (part t) : Stepwise τ ε α) (read g : Stepwise σ ε α) :=
  fun _ => ⟨rfl, rfl⟩

theorem raise (error : ε) :
    Shows part (raise error : Stepwise τ ε α) (raise error : Stepwise σ ε α) :=
  fun _ => ⟨rfl, rfl⟩

theorem lift (outcome : Except ε α) :
    Shows part (lift outcome : Stepwise τ ε α) (lift outcome : Stepwise σ ε α) :=
  fun _ => ⟨rfl, rfl⟩

/-- A write shows the write of the part that it makes. -/
theorem write {f : τ → τ} {g : σ → σ} (same : ∀ t, part (f t) = g (part t)) :
    Shows part (write f : Stepwise τ ε PUnit) (write g : Stepwise σ ε PUnit) :=
  fun t => ⟨rfl, same t⟩

/-- A sequence shows the sequence of what its parts show. -/
theorem bind {f : α → Stepwise τ ε β} {g : α → Stepwise σ ε β} (first : Shows part x y)
    (next : ∀ a, Shows part (f a) (g a)) : Shows part (x >>= f) (y >>= g) := by
  intro t
  obtain ⟨sameResult, sameFinal⟩ := first t
  cases outcome : result y (part t) with
  | error error =>
      rw [outcome] at sameResult
      rw [result_bind_of_error sameResult, result_bind_of_error outcome,
        final_bind_of_error sameResult, final_bind_of_error outcome]
      exact ⟨rfl, sameFinal⟩
  | ok a =>
      rw [outcome] at sameResult
      rw [result_bind_of_ok sameResult, result_bind_of_ok outcome, final_bind_of_ok sameResult,
        final_bind_of_ok outcome, ← sameFinal]
      exact next a (final x t)

/-- A step that changes nothing there does not show. -/
theorem hidden {f : τ → τ} {z : PUnit → Stepwise τ ε α} (same : ∀ t, part (f t) = part t)
    (shown : Shows part (z ⟨⟩) y) : Shows part (Stepwise.write f >>= z) y := by
  intro t
  have wrote : result (Stepwise.write f : Stepwise τ ε PUnit) t = .ok ⟨⟩ := rfl
  rw [result_bind_of_ok wrote, final_bind_of_ok wrote, ← same t]
  exact shown (f t)

/-- A computation on the part shows itself within the whole. -/
theorem within {replace : τ → σ → τ} (replaced : ∀ t s, part (replace t s) = s)
    (y : Stepwise σ ε α) : Shows part (within part replace y) y := by
  intro t
  refine ⟨rfl, ?_⟩
  change part (((y (part t)).1.map (replace t)).getLastD t) = (y (part t)).1.getLastD (part t)
  rw [List.getLastD_eq_getLast?, List.getLastD_eq_getLast?, List.getLast?_map]
  cases (y (part t)).1.getLast? with
  | none => rfl
  | some last => exact replaced t last

end Shows

end Stepwise
