/-
Module: TallyKeep.Proofs.StreamAccounting
Layer: Proofs
Purpose: What becomes of the events that arrive at a stream, and the drops its client is told of.
Trusted boundary: none
Main exports: StreamHistory, Accounted, NoneDroppedMeanwhile, streamAccounting_iff,
  drops_during_comment_unreported
-/
import Mathlib.Algebra.GroupWithZero.Nat
import TallyKeep.Api.EventsStream
import TallyKeep.Library.Transition

namespace TallyKeep

open Transition

universe u

variable {ε : Type u}

/-! ### Histories -/

/-- A stream with what has arrived, what was dropped, and the frames that are sent: those whose
    `yield` the generator has come back from. -/
structure StreamHistory (ε : Type u) where
  stream : Stream ε
  arrived : List ε
  dropped : List ε
  sent : List (Frame ε)
deriving DecidableEq

def StreamHistory.opened : StreamHistory ε := ⟨.opened, [], [], []⟩

def StreamHistory.step (history : StreamHistory ε) : StreamEvent ε → StreamHistory ε
  | .arrive event =>
      { history with
        stream := history.stream.enqueue event
        arrived := history.arrived ++ [event]
        dropped := history.dropped ++ history.stream.evicted }
  | .resume =>
      { history with
        stream := history.stream.resume
        sent := history.sent ++ history.stream.position.frame }

/-- The stream of a history is the stream of its steps. -/
theorem stream_step (history : StreamHistory ε) (event : StreamEvent ε) :
    (history.step event).stream = history.stream.step event := by
  cases event <;> rfl

/-- The events among frames. -/
def eventsOf (frames : List (Frame ε)) : List ε :=
  frames.flatMap fun frame =>
    match frame with
    | .event event => [event]
    | _ => []

/-- The drops that frames report. -/
def reported (frames : List (Frame ε)) : Nat :=
  (frames.map fun frame =>
    match frame with
    | .dropped count => count
    | _ => 0).sum

@[simp] theorem eventsOf_append (first second : List (Frame ε)) :
    eventsOf (first ++ second) = eventsOf first ++ eventsOf second := List.flatMap_append

@[simp] theorem reported_append (first second : List (Frame ε)) :
    reported (first ++ second) = reported first + reported second := by
  simp [reported]

/-- The event that is being delivered. -/
def StreamPosition.event : StreamPosition ε → List ε
  | .handshake => []
  | .waiting => []
  | .reporting _ event => [event]
  | .sending event => [event]

/-- The accounting of a backlog. -/
structure Accounted (history : StreamHistory ε) : Prop where
  capped : history.stream.queue.length ≤ queueMax
  /-- What is delivered, being delivered and queued arrived in this order, each once. -/
  ordered : (eventsOf history.sent ++ history.stream.position.event ++
    history.stream.queue).Sublist history.arrived
  counted : history.arrived.length = (eventsOf history.sent).length +
    history.stream.queue.length + history.dropped.length + history.stream.position.event.length
  told : reported history.sent + history.stream.droppedSinceLast = history.dropped.length

/-! ### One step -/

/-- No event was dropped while the generator was suspended at the comment on earlier drops. -/
def NoneDroppedMeanwhile (history : StreamHistory ε) : StreamEvent ε → Prop
  | .arrive _ => True
  | .resume => ∀ count event, history.stream.position = .reporting count event →
      history.stream.droppedSinceLast = count

theorem accounted_opened : Accounted (StreamHistory.opened (ε := ε)) :=
  ⟨Nat.zero_le _, List.Sublist.refl _, rfl, rfl⟩

theorem accounted_arrive {history : StreamHistory ε} (accounted : Accounted history) (event : ε) :
    Accounted (history.step (.arrive event)) := by
  obtain ⟨capped, ordered, counted, told⟩ := accounted
  by_cases room : history.stream.queue.length < queueMax
  · refine ⟨?_, ?_, ?_, ?_⟩ <;>
      simp only [StreamHistory.step, Stream.enqueue, Stream.evicted, room]
    · simp only [if_true, List.length_append, List.length_singleton]
      omega
    · simpa [← List.append_assoc] using ordered.append (List.Sublist.refl [event])
    · simp only [if_true, List.append_nil, List.length_append, List.length_singleton]
      omega
    · simpa using told
  · obtain ⟨oldest, rest, queue⟩ : ∃ oldest rest, history.stream.queue = oldest :: rest := by
      cases queue : history.stream.queue with
      | nil => simp [queue, queueMax] at room
      | cons oldest rest => exact ⟨oldest, rest, rfl⟩
    have kept : (eventsOf history.sent ++ history.stream.position.event ++ rest).Sublist
        history.arrived := by
      refine List.Sublist.trans ?_ ordered
      rw [queue]
      exact (List.Sublist.refl _).append (List.sublist_cons_self oldest rest)
    rw [queue] at capped counted room
    refine ⟨?_, ?_, ?_, ?_⟩ <;>
      simp only [StreamHistory.step, Stream.enqueue, Stream.evicted, queue, room]
    · simpa using capped
    · simpa [← List.append_assoc] using kept.append (List.Sublist.refl [event])
    · simp at counted ⊢
      omega
    · simp
      omega

/-- A turn of the loop moves the oldest event of the queue to the one that is being delivered. -/
theorem next_moves (stream : Stream ε) :
    stream.next.position.event ++ stream.next.queue = stream.queue ∧
      stream.next.droppedSinceLast = stream.droppedSinceLast := by
  unfold Stream.next
  cases stream.queue with
  | nil => exact ⟨rfl, rfl⟩
  | cons event rest =>
      by_cases pending : stream.droppedSinceLast ≠ 0
      · simp [pending, StreamPosition.event]
      · simp [pending, StreamPosition.event]

theorem accounted_next {history : StreamHistory ε} (accounted : Accounted history)
    (calm : history.stream.resume = history.stream.next)
    (delivered : eventsOf history.stream.position.frame = history.stream.position.event)
    (silent : reported history.stream.position.frame = 0) :
    Accounted (history.step .resume) := by
  obtain ⟨capped, ordered, counted, told⟩ := accounted
  obtain ⟨moved, kept⟩ := next_moves history.stream
  have lengths := congrArg List.length moved
  rw [List.length_append] at lengths
  refine ⟨?_, ?_, ?_, ?_⟩ <;> simp only [StreamHistory.step, calm]
  · omega
  · rw [eventsOf_append, delivered, List.append_assoc, moved]
    exact ordered
  · rw [eventsOf_append, delivered, List.length_append]
    omega
  · rw [reported_append, silent, kept]
    exact told

/-- Coming back from the comment, the accounts stay right exactly when nothing was dropped since. -/
theorem accounted_reporting_iff {history : StreamHistory ε} {count : Nat} {event : ε}
    (accounted : Accounted history)
    (position : history.stream.position = .reporting count event) :
    Accounted (history.step .resume) ↔ history.stream.droppedSinceLast = count := by
  obtain ⟨capped, ordered, counted, told⟩ := accounted
  rw [position] at ordered counted
  have resumed : history.step .resume =
      { history with
        stream := { history.stream with droppedSinceLast := 0, position := .sending event }
        sent := history.sent ++ [.dropped count] } := by
    simp [StreamHistory.step, Stream.resume, position, StreamPosition.frame]
  rw [resumed]
  constructor
  · intro after
    have told' := after.told
    simp [reported] at told' told
    omega
  · intro same
    refine ⟨capped, ?_, ?_, ?_⟩
    · simpa [eventsOf, StreamPosition.event] using ordered
    · simpa [eventsOf, StreamPosition.event] using counted
    · simp [reported] at told ⊢
      omega

theorem accounted_step_iff {history : StreamHistory ε} (accounted : Accounted history)
    (event : StreamEvent ε) :
    Accounted (history.step event) ↔ NoneDroppedMeanwhile history event := by
  cases event with
  | arrive event => exact iff_of_true (accounted_arrive accounted event) trivial
  | resume =>
      cases position : history.stream.position with
      | reporting count event =>
          rw [accounted_reporting_iff accounted position]
          simp [NoneDroppedMeanwhile, position]
      | handshake =>
          refine iff_of_true (accounted_next accounted ?_ ?_ ?_) ?_ <;>
            simp [NoneDroppedMeanwhile, position, Stream.resume, eventsOf, reported,
              StreamPosition.frame, StreamPosition.event]
      | waiting =>
          refine iff_of_true (accounted_next accounted ?_ ?_ ?_) ?_ <;>
            simp [NoneDroppedMeanwhile, position, Stream.resume, eventsOf, reported,
              StreamPosition.frame, StreamPosition.event]
      | sending event =>
          refine iff_of_true (accounted_next accounted ?_ ?_ ?_) ?_ <;>
            simp [NoneDroppedMeanwhile, position, Stream.resume, eventsOf, reported,
              StreamPosition.frame, StreamPosition.event]

/-! ### Runs -/

/-- From the start, the accounts are right in every state of a run exactly when the generator never
    comes back from a comment with events dropped since it was written. -/
theorem streamAccounting_iff {labels : List (StreamEvent ε)} {history : StreamHistory ε} :
    Throughout (stepOf StreamHistory.step) Accounted (fun _ _ => True) .opened labels history ↔
      Run (guarded (stepOf StreamHistory.step) NoneDroppedMeanwhile) .opened labels history := by
  apply Run.throughout_iff (I := fun _ => True) (fun _ _ _ _ _ => trivial) _ trivial
    accounted_opened
  intro history event after _ accounted taken
  rw [taken, accounted_step_iff accounted event]
  exact and_iff_right trivial

/-- A queue with room takes in what arrives. -/
theorem arrivals_queued (history : StreamHistory ε) (events : List ε)
    (room : history.stream.queue.length + events.length ≤ queueMax) :
    (events.map StreamEvent.arrive).foldl StreamHistory.step history =
      { history with
        stream := { history.stream with queue := history.stream.queue ++ events }
        arrived := history.arrived ++ events } := by
  induction events generalizing history with
  | nil => simp
  | cons event events inductionHypothesis =>
      rw [List.length_cons] at room
      rw [List.map_cons, List.foldl_cons, inductionHypothesis]
      · simp [StreamHistory.step, Stream.enqueue, Stream.evicted,
          show history.stream.queue.length < queueMax by omega]
      · simp only [StreamHistory.step, Stream.enqueue,
          show history.stream.queue.length < queueMax by omega, if_true, List.length_append,
          List.length_singleton]
        omega

/-- With a full backlog and the comment on one drop under way, two more events arrive: the second
    drop is never reported. -/
theorem drops_during_comment_unreported :
    ∃ labels : List (StreamEvent Nat), ∃ history,
      Run (stepOf StreamHistory.step) .opened labels history ∧
        reported history.sent + history.stream.droppedSinceLast = 1 ∧
          history.dropped.length = 2 ∧ ¬ Accounted history := by
  obtain ⟨rest, long⟩ : ∃ rest : List Nat, rest.length = 997 :=
    ⟨List.replicate 997 6, List.length_replicate⟩
  refine ⟨(0 :: 1 :: 2 :: rest).map .arrive ++
    [.arrive 3, .resume, .arrive 4, .arrive 5, .resume], _, Run.of_steps _ _ _, ?_⟩
  have filled : ((0 :: 1 :: 2 :: rest).map StreamEvent.arrive).foldl StreamHistory.step .opened =
      ⟨⟨0 :: 1 :: 2 :: rest, 0, .handshake⟩, 0 :: 1 :: 2 :: rest, [], []⟩ := by
    apply arrivals_queued
    simp [StreamHistory.opened, Stream.opened, queueMax, long]
  have last : [StreamEvent.arrive 3, .resume, .arrive 4, .arrive 5, .resume].foldl
      StreamHistory.step
        ⟨⟨0 :: 1 :: 2 :: rest, 0, .handshake⟩, 0 :: 1 :: 2 :: rest, [], []⟩ =
        ⟨⟨rest ++ [3, 4, 5], 0, .sending 1⟩, 0 :: 1 :: 2 :: rest ++ [3, 4, 5], [0, 2],
          [.handshake, .dropped 1]⟩ := by
    simp [StreamHistory.step, Stream.enqueue, Stream.evicted, Stream.resume, Stream.next,
      queueMax, StreamPosition.frame, long]
  rw [List.foldl_append, filled, last]
  refine ⟨rfl, rfl, ?_⟩
  intro accounted
  have told : 1 + 0 = 2 := accounted.told
  contradiction

end TallyKeep
