/-
Module: TallyKeep.Library.Dispatch
Layer: Library
Purpose: Handlers that publish events while they handle one: which publications an event causes,
  in whatever order the pending ones are delivered.
Trusted boundary: none
Main exports: Bus, Delivers, Bus.published, Settles, settles_of_silent, published_le_of_silent,
  published_unbounded, not_settles
-/
import TallyKeep.Library.Transition

namespace Dispatch

open Transition

universe u

variable {σ ε : Type u}

/-- The state the handlers change, and the events that are published and not delivered yet. -/
structure Bus (σ ε : Type u) where
  state : σ
  pending : List ε

/-- One delivery.  Any pending event may be the next one: a bus that delivers inside `publish` takes
    the last, a queue takes the first. -/
inductive Delivers (handle : σ → ε → σ × List ε) : Bus σ ε → ε → Bus σ ε → Prop where
  | deliver (s : σ) (earlier : List ε) (event : ε) (later : List ε) :
      Delivers handle ⟨s, earlier ++ event :: later⟩ event
        ⟨(handle s event).1, earlier ++ later ++ (handle s event).2⟩

/-- The publications of a run that began with one pending event: those delivered, and those
    pending. -/
def Bus.published (bus : Bus σ ε) (delivered : List ε) : Nat := delivered.length + bus.pending.length

/-- The publications an event causes are bounded, whatever the order of the deliveries. -/
def Settles (handle : σ → ε → σ × List ε) (s : σ) (event : ε) : Prop :=
  ∃ bound, ∀ delivered bus, Run (Delivers handle) ⟨s, [event]⟩ delivered bus →
    bus.published delivered ≤ bound

variable {handle : σ → ε → σ × List ε} {s : σ} {event : ε}

/-- With one event pending, the next delivery is of this event. -/
theorem delivers_singleton {a : ε} {bus : Bus σ ε} (taken : Delivers handle ⟨s, [event]⟩ a bus) :
    bus = ⟨(handle s event).1, (handle s event).2⟩ := by
  generalize same : (⟨s, [event]⟩ : Bus σ ε) = start at taken
  cases taken with
  | deliver s' earlier a later =>
      cases earlier with
      | nil =>
          cases same
          rfl
      | cons head rest => simp at same

/-- With nothing pending, nothing is delivered. -/
theorem run_nil {delivered : List ε} {bus : Bus σ ε}
    (run : Run (Delivers handle) ⟨s, []⟩ delivered bus) : bus = ⟨s, []⟩ ∧ delivered = [] := by
  generalize same : (⟨s, []⟩ : Bus σ ε) = start at run
  cases run with
  | stop => exact ⟨rfl, rfl⟩
  | cons taken rest =>
      cases taken with
      | deliver s' earlier a later => simp at same

/-- An event whose handler publishes nothing is the only publication. -/
theorem published_le_of_silent (silent : (handle s event).2 = []) {delivered : List ε}
    {bus : Bus σ ε} (run : Run (Delivers handle) ⟨s, [event]⟩ delivered bus) :
    bus.published delivered ≤ 1 := by
  cases run with
  | stop => exact Nat.le_refl 1
  | cons taken rest =>
      rw [delivers_singleton taken, silent] at rest
      obtain ⟨last, nothing⟩ := run_nil rest
      rw [last, nothing]
      exact Nat.le_refl 1

theorem settles_of_silent (silent : (handle s event).2 = []) : Settles handle s event :=
  ⟨1, fun _ _ run => published_le_of_silent silent run⟩

/-- Where each event of some kind makes its handler publish one of that kind, deliveries go on as
    long as one likes. -/
theorem published_unbounded {I : σ → ε → Prop}
    (rekindled : ∀ s event, I s event →
      ∃ next, (handle s event).2 = [next] ∧ I (handle s event).1 next)
    (holds : I s event) (n : Nat) :
    ∃ delivered bus, Run (Delivers handle) ⟨s, [event]⟩ delivered bus ∧
      bus.published delivered = n + 1 := by
  induction n generalizing s event with
  | zero => exact ⟨[], ⟨s, [event]⟩, .stop _, rfl⟩
  | succ n inductionHypothesis =>
      obtain ⟨next, published, again⟩ := rekindled s event holds
      obtain ⟨delivered, bus, run, count⟩ := inductionHypothesis again
      have first : Delivers handle ⟨s, [event]⟩ event ⟨(handle s event).1, [next]⟩ := by
        rw [← published]
        exact .deliver s [] event []
      refine ⟨event :: delivered, bus, .cons first run, ?_⟩
      rw [Bus.published, List.length_cons]
      rw [Bus.published] at count
      omega

theorem not_settles {I : σ → ε → Prop}
    (rekindled : ∀ s event, I s event →
      ∃ next, (handle s event).2 = [next] ∧ I (handle s event).1 next)
    (holds : I s event) : ¬Settles handle s event := by
  rintro ⟨bound, bounded⟩
  obtain ⟨delivered, bus, run, count⟩ := published_unbounded rekindled holds bound
  have within := bounded delivered bus run
  omega

end Dispatch
