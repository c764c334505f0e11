/-
Module: TallyKeep.Infrastructure.EventEmission
Layer: Infrastructure
Purpose: The log of critical events, their emission, acknowledgement and replay, and the
  interleavings of these.
Trusted boundary: translation of `infrastructure/event_emission.py`.  Each database
  session is one step, as is each publish; a payload holds its JSON values by their text.  The bus
  is what it is asked to publish, and whether that succeeds.  Ephemeral events and what
  `emit_critical` returns are left out
Main exports: EmissionPayload, EventEmissionLogRow, EmittedEvent, persistCritical, acknowledge,
  replayCandidates, EventEmissionLogRow.replayed, ReplayRun, EmissionSystem, EmissionLabel,
  emissionStep
-/
import TallyKeep.Domain
import TallyKeep.Library.Table

namespace TallyKeep

open Relational

/-! ### Events and their log -/

/-- A value of a payload: a truth value, or any other by its JSON text. -/
inductive PayloadValue where
  | flag (value : Bool)
  | json (text : String)
deriving DecidableEq

/-- A payload: a `dict`, its keys in insertion order. -/
abbrev EmissionPayload := List (String × PayloadValue)

/-- `payload[key] = value`. -/
def setKey (payload : EmissionPayload) (key : String) (value : PayloadValue) : EmissionPayload :=
  if payload.any fun entry => decide (entry.1 = key) then
    payload.map fun entry => if entry.1 = key then (key, value) else entry
  else payload ++ [(key, value)]

/-- `REPLAY_MARKER_KEY`. -/
def replayMarkerKey : String := "__replay__"

/-- What the bus is asked to publish. -/
structure EmittedEvent where
  id : Uuid
  topic : String
  payload : EmissionPayload
deriving DecidableEq

structure EventEmissionLogRow where
  id : Uuid
  topic : String
  payload : EmissionPayload
  isCritical : Bool
  emittedAt : Timestamp
  acknowledgedAt : Option Timestamp
deriving DecidableEq

instance : Keyed EventEmissionLogRow Uuid := ⟨EventEmissionLogRow.id⟩

/-- The event a row was persisted for. -/
def EventEmissionLogRow.event (row : EventEmissionLogRow) : EmittedEvent :=
  ⟨row.id, row.topic, row.payload⟩

/-! ### Emission and acknowledgement -/

/-- The row `emit_critical` persists. -/
def EmittedEvent.logRow (event : EmittedEvent) (now : Timestamp) : EventEmissionLogRow :=
  ⟨event.id, event.topic, event.payload, true, now, none⟩

/-- The session of `emit_critical`; an id that is in use is refused. -/
def persistCritical (log : Table EventEmissionLogRow) (event : EmittedEvent) (now : Timestamp) :
    Option (Table EventEmissionLogRow) :=
  if (log.get? event.id).isSome then none
  else some (log.insert (event.logRow now))

/-- A row after `acknowledge`: only the first acknowledgement is written. -/
def EventEmissionLogRow.acknowledged (row : EventEmissionLogRow) (eventId : Uuid)
    (now : Timestamp) : EventEmissionLogRow :=
  if row.id = eventId ∧ row.acknowledgedAt = none then { row with acknowledgedAt := some now }
  else row

/-- `acknowledge`: the log it leaves, and whether a row was updated. -/
def acknowledge (log : Table EventEmissionLogRow) (eventId : Uuid) (now : Timestamp) :
    Table EventEmissionLogRow × Bool :=
  (log.updateAll (fun row => row.acknowledged eventId now)
    (by intro row; unfold EventEmissionLogRow.acknowledged; split <;> rfl),
    log.rows.any fun row => decide (row.id = eventId ∧ row.acknowledgedAt = none))

/-! ### Replay -/

/-- What `run_once` selects. -/
def EventEmissionLogRow.isCandidate (cutoff : Timestamp) (row : EventEmissionLogRow) : Bool :=
  decide (row.isCritical = true ∧ row.acknowledgedAt = none ∧ row.emittedAt < cutoff)

def replayCandidates (log : Table EventEmissionLogRow) (cutoff : Timestamp) :
    List EventEmissionLogRow := log.select (EventEmissionLogRow.isCandidate cutoff)

/-- What `run_once` publishes of a row. -/
def EventEmissionLogRow.replayed (row : EventEmissionLogRow) : EmittedEvent :=
  ⟨row.id, row.topic, setKey row.payload replayMarkerKey (.flag true)⟩

/-- A call of `run_once`: the log it read, the rows older than what it selected, and those of them
    it has not come to. -/
structure ReplayRun where
  log : Table EventEmissionLogRow
  cutoff : Timestamp
  remaining : List EventEmissionLogRow

/-- `run_once` up to its loop. -/
def beginReplay (log : Table EventEmissionLogRow) (gracePeriod clock : Timestamp) : ReplayRun :=
  ⟨log, clock - gracePeriod, replayCandidates log (clock - gracePeriod)⟩

/-! ### Interleavings -/

/-- Which call publishes: an `emit_critical`, or a `run_once` by its number. -/
inductive PublicationSource where
  | emission
  | replay (run : Nat)
deriving DecidableEq

/-- A call of `bus.publish`, and whether it returned. -/
structure Publication where
  source : PublicationSource
  event : EmittedEvent
  delivered : Bool
deriving DecidableEq

/-- The committed log, the events between their commit and their publish, the calls of `run_once`
    so far, and the trace of the bus. -/
structure EmissionSystem where
  log : Table EventEmissionLogRow
  emitting : List EmittedEvent
  runs : List ReplayRun
  published : List Publication

/-- A log, and no call under way. -/
def EmissionSystem.started (log : Table EventEmissionLogRow) : EmissionSystem := ⟨log, [], [], []⟩

inductive EmissionLabel where
  | persist (event : EmittedEvent) (now : Timestamp) (commits : Bool)
  | publish (index : Nat) (delivered : Bool)
  | acknowledge (eventId : Uuid) (now : Timestamp)
  | beginReplay (gracePeriod clock : Timestamp)
  | replay (run : Nat) (delivered : Bool)
deriving DecidableEq

/-- The first half of `emit_critical`; where it fails, the call raises. -/
def EmissionSystem.persist (system : EmissionSystem) (event : EmittedEvent) (now : Timestamp) :
    EmissionSystem :=
  match persistCritical system.log event now with
  | none => system
  | some log => { system with log := log, emitting := system.emitting ++ [event] }

/-- The second half of `emit_critical`; an exception is logged. -/
def EmissionSystem.publish (system : EmissionSystem) (index : Nat) (delivered : Bool) :
    EmissionSystem :=
  match system.emitting[index]? with
  | none => system
  | some event =>
      { system with
        emitting := system.emitting.eraseIdx index
        published := system.published ++ [⟨.emission, event, delivered⟩] }

/-- One round of the loop of `run_once`; an exception is logged. -/
def EmissionSystem.replay (system : EmissionSystem) (run : Nat) (delivered : Bool) :
    EmissionSystem :=
  match system.runs[run]? with
  | none => system
  | some replay =>
      match replay.remaining with
      | [] => system
      | row :: rest =>
          { system with
            runs := system.runs.set run { replay with remaining := rest }
            published := system.published ++ [⟨.replay run, row.replayed, delivered⟩] }

def emissionStep (system : EmissionSystem) : EmissionLabel → EmissionSystem
  | .persist event now commits => if commits then system.persist event now else system
  | .publish index delivered => system.publish index delivered
  | .acknowledge eventId now => { system with log := (acknowledge system.log eventId now).1 }
  | .beginReplay gracePeriod clock =>
      { system with runs := system.runs ++ [TallyKeep.beginReplay system.log gracePeriod clock] }
  | .replay run delivered => system.replay run delivered

end TallyKeep
