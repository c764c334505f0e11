/-
Module: TallyKeep.Api.EventsStream
Layer: Api
Purpose: The event stream of one client: its bounded backlog, and the generator that empties it.
Trusted boundary: translation of `_stream_events` in `api/v1/events_stream.py`.  The
  loop runs one callback or one stretch of the generator between two suspension points at a time.  A
  frame is what is yielded, without its text; the end of the connection is left out
Main exports: queueMax, Frame, StreamPosition, Stream, Stream.enqueue, Stream.resume, StreamEvent
-/
import Mathlib.Logic.Relation

namespace TallyKeep

universe u

variable {ε : Type u}

/-- `_QUEUE_MAX`. -/
def queueMax : Nat := 1000

/-- What the generator yields: the handshake, the comment on dropped events, or an event. -/
inductive Frame (ε : Type u) where
  | handshake
  | dropped (count : Nat)
  | event (event : ε)
deriving DecidableEq

/-- Where the generator is suspended: at a `yield`, or at `await queue.get()`. -/
inductive StreamPosition (ε : Type u) where
  | handshake
  | waiting
  | reporting (count : Nat) (event : ε)
  | sending (event : ε)
deriving DecidableEq

/-- The frame that is being yielded. -/
def StreamPosition.frame : StreamPosition ε → List (Frame ε)
  | .handshake => [.handshake]
  | .waiting => []
  | .reporting count _ => [.dropped count]
  | .sending event => [.event event]

structure Stream (ε : Type u) where
  queue : List ε
  droppedSinceLast : Nat
  position : StreamPosition ε
deriving DecidableEq

/-- The generator is at its first `yield`. -/
def Stream.opened : Stream ε := ⟨[], 0, .handshake⟩

/-- What `_enqueue` drops: the oldest event of a full queue. -/
def Stream.evicted (stream : Stream ε) : List ε :=
  if stream.queue.length < queueMax then [] else stream.queue.take 1

/-- `_enqueue`. -/
def Stream.enqueue (stream : Stream ε) (event : ε) : Stream ε :=
  if stream.queue.length < queueMax then { stream with queue := stream.queue ++ [event] }
  else
    { stream with
      queue := stream.queue.tail ++ [event]
      droppedSinceLast := stream.droppedSinceLast + 1 }

/-- One turn of the loop, up to its next suspension point. -/
def Stream.next (stream : Stream ε) : Stream ε :=
  match stream.queue with
  | [] => { stream with position := .waiting }
  | event :: rest =>
      if stream.droppedSinceLast ≠ 0 then
        { stream with queue := rest, position := .reporting stream.droppedSinceLast event }
      else { stream with queue := rest, position := .sending event }

/-- The generator goes on from where it is suspended.  The counter is reset only here, after the
    comment, whatever it has come to in the meantime. -/
def Stream.resume (stream : Stream ε) : Stream ε :=
  match stream.position with
  | .reporting _ event => { stream with droppedSinceLast := 0, position := .sending event }
  | _ => stream.next

/-- What the loop runs: an arrival, or the generator. -/
inductive StreamEvent (ε : Type u) where
  | arrive (event : ε)
  | resume
deriving DecidableEq

def Stream.step (stream : Stream ε) : StreamEvent ε → Stream ε
  | .arrive event => stream.enqueue event
  | .resume => stream.resume

end TallyKeep
