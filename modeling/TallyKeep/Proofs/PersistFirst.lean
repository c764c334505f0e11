/-
Module: TallyKeep.Proofs.PersistFirst
Layer: Proofs
Purpose: What the log of critical events and the bus have to do with each other, over every
  interleaving of emissions, acknowledgements and replays.
Trusted boundary: none
Main exports: Publication.BackedBy, acknowledgedIn, EmissionInvariant, callsBegun, PersistFirst,
  emissionInvariant_run, persistFirst_run
-/
import TallyKeep.Infrastructure.EventEmission
import TallyKeep.Library.Transition

namespace TallyKeep

open Relational

/-! ### Rows over time -/

/-- What a step does to a row that is there. -/
def acknowledgedBy (label : EmissionLabel) (row : EventEmissionLogRow) : EventEmissionLogRow :=
  match label with
  | .acknowledge eventId now => row.acknowledged eventId now
  | _ => row

/-- The time of a step, where it is an acknowledgement of an event. -/
def acknowledgement (eventId : Uuid) : EmissionLabel → Option Timestamp
  | .acknowledge acknowledgedId now => if acknowledgedId = eventId then some now else none
  | _ => none

/-- The first acknowledgement of an event. -/
def firstAcknowledgement (labels : List EmissionLabel) (eventId : Uuid) : Option Timestamp :=
  labels.findSome? (acknowledgement eventId)

/-- What steps do to a row that is there: it takes the first acknowledgement if it has none. -/
def acknowledgedIn (labels : List EmissionLabel) (row : EventEmissionLogRow) :
    EventEmissionLogRow :=
  { row with acknowledgedAt := row.acknowledgedAt.or (firstAcknowledgement labels row.id) }

/-- An acknowledgement may be counted with the row or with the calls. -/
theorem acknowledgedIn_cons (label : EmissionLabel) (labels : List EmissionLabel)
    (row : EventEmissionLogRow) :
    acknowledgedIn labels (acknowledgedBy label row) = acknowledgedIn (label :: labels) row := by
  cases label with
  | acknowledge eventId now =>
      obtain ⟨id, topic, payload, isCritical, emittedAt, acknowledgedAt⟩ := row
      by_cases same : id = eventId
      · cases acknowledgedAt <;>
          simp [acknowledgedIn, acknowledgedBy, EventEmissionLogRow.acknowledged,
            firstAcknowledgement, acknowledgement, same]
      · simp [acknowledgedIn, acknowledgedBy, EventEmissionLogRow.acknowledged,
          firstAcknowledgement, acknowledgement, same, Ne.symm same]
  | _ => rfl

/-- A critical event is persisted as the last row of the log. -/
theorem rows_persistCritical {log log' : Table EventEmissionLogRow} {event : EmittedEvent}
    {now : Timestamp} (persisted : persistCritical log event now = some log') :
    log'.rows = log.rows ++ [event.logRow now] := by
  unfold persistCritical at persisted
  split at persisted
  · cases persisted
  · next fresh =>
    cases persisted
    have absent : log.get? event.id = none := by simpa using fresh
    exact Table.rows_insert_of_fresh absent

@[simp] theorem log_publish (system : EmissionSystem) (index : Nat) (delivered : Bool) :
    (system.publish index delivered).log = system.log := by
  unfold EmissionSystem.publish
  split <;> rfl

@[simp] theorem log_replay (system : EmissionSystem) (run : Nat) (delivered : Bool) :
    (system.replay run delivered).log = system.log := by
  unfold EmissionSystem.replay
  split
  · rfl
  · split <;> rfl

/-- A step leaves the rows that are there, but for the acknowledgement it may be. -/
theorem rows_emissionStep (system : EmissionSystem) (label : EmissionLabel) :
    ∃ added, (emissionStep system label).log.rows =
      system.log.rows.map (acknowledgedBy label) ++ added := by
  have unchanged : ∀ label : EmissionLabel, acknowledgedBy label = id →
      system.log.rows.map (acknowledgedBy label) = system.log.rows := by
    intro label same
    rw [same, List.map_id]
  cases label with
  | acknowledge eventId now => exact ⟨[], (List.append_nil _).symm⟩
  | persist event now commits =>
      rw [unchanged _ rfl]
      cases commits with
      | false => exact ⟨[], (List.append_nil _).symm⟩
      | true =>
          simp only [emissionStep, if_true, EmissionSystem.persist]
          cases persisted : persistCritical system.log event now with
          | none => exact ⟨[], (List.append_nil _).symm⟩
          | some log => exact ⟨_, rows_persistCritical persisted⟩
  | publish index delivered =>
      rw [unchanged _ rfl]
      exact ⟨[], by simp [emissionStep]⟩
  | beginReplay gracePeriod clock =>
      rw [unchanged _ rfl]
      exact ⟨[], (List.append_nil _).symm⟩
  | replay run delivered =>
      rw [unchanged _ rfl]
      exact ⟨[], by simp [emissionStep]⟩

/-- Steps leave the rows that are there, but for their first acknowledgements. -/
theorem rows_run (system : EmissionSystem) (labels : List EmissionLabel) :
    ∃ added, (labels.foldl emissionStep system).log.rows =
      system.log.rows.map (acknowledgedIn labels) ++ added := by
  induction labels generalizing system with
  | nil =>
      refine ⟨[], ?_⟩
      have same : acknowledgedIn [] = id := by
        funext row
        simp [acknowledgedIn, firstAcknowledgement]
      rw [same, List.map_id, List.append_nil, List.foldl_nil]
  | cons label labels inductionHypothesis =>
      obtain ⟨first, firstRows⟩ := rows_emissionStep system label
      obtain ⟨later, laterRows⟩ := inductionHypothesis (emissionStep system label)
      refine ⟨first.map (acknowledgedIn labels) ++ later, ?_⟩
      have composed : acknowledgedIn labels ∘ acknowledgedBy label =
          acknowledgedIn (label :: labels) := by
        funext row
        exact acknowledgedIn_cons label labels row
      rw [List.foldl_cons, laterRows, firstRows, List.map_append, List.map_map, composed,
        List.append_assoc]

/-! ### Logs over time -/

/-- A later form of a row: its event stays, and so does an acknowledgement. -/
structure RowKept (row row' : EventEmissionLogRow) : Prop where
  event : row'.event = row.event
  critical : row'.isCritical = row.isCritical
  acknowledged : row.acknowledgedAt ≠ none → row'.acknowledgedAt = row.acknowledgedAt

/-- Every row of a log is there later on. -/
def LogKept (log log' : Table EventEmissionLogRow) : Prop :=
  ∀ row ∈ log.rows, ∃ row' ∈ log'.rows, RowKept row row'

theorem LogKept.refl (log : Table EventEmissionLogRow) : LogKept log log := by
  intro row member
  exact ⟨row, member, rfl, rfl, fun _ => rfl⟩

/-- What two changes of the log keep, one after the other. -/
theorem LogKept.trans {log log' log'' : Table EventEmissionLogRow} (first : LogKept log log')
    (second : LogKept log' log'') : LogKept log log'' := by
  intro row member
  obtain ⟨row', member', kept⟩ := first row member
  obtain ⟨row'', member'', kept'⟩ := second row' member'
  refine ⟨row'', member'', kept'.event.trans kept.event, kept'.critical.trans kept.critical, ?_⟩
  intro acknowledged
  have first := kept.acknowledged acknowledged
  rw [kept'.acknowledged (first ▸ acknowledged), first]

theorem rowKept_acknowledgedBy (label : EmissionLabel) (row : EventEmissionLogRow) :
    RowKept row (acknowledgedBy label row) := by
  cases label with
  | acknowledge eventId now =>
      unfold acknowledgedBy EventEmissionLogRow.acknowledged
      dsimp only
      split
      · next first => exact ⟨rfl, rfl, fun acknowledged => absurd first.2 acknowledged⟩
      · exact ⟨rfl, rfl, fun _ => rfl⟩
  | _ => exact ⟨rfl, rfl, fun _ => rfl⟩

/-- A step changes no row of the log but for acknowledging it. -/
theorem logKept_emissionStep (system : EmissionSystem) (label : EmissionLabel) :
    LogKept system.log (emissionStep system label).log := by
  obtain ⟨added, rows⟩ := rows_emissionStep system label
  intro row member
  refine ⟨acknowledgedBy label row, ?_, rowKept_acknowledgedBy label row⟩
  rw [rows]
  exact List.mem_append_left _ (List.mem_map_of_mem member)

/-! ### The invariant -/

/-- The row a publication is of: the event as it was persisted, or its replay. -/
structure Publication.BackedBy (publication : Publication) (row : EventEmissionLogRow) : Prop where
  critical : row.isCritical = true
  event : publication.event =
    if publication.source = .emission then row.event else row.replayed

/-- A publication stays backed by a row that is kept. -/
theorem Publication.BackedBy.kept {publication : Publication} {row row' : EventEmissionLogRow}
    (backed : publication.BackedBy row) (kept : RowKept row row') : publication.BackedBy row' := by
  constructor
  · rw [kept.critical, backed.critical]
  · have replayed : row'.replayed = row.replayed := by
      have ids := congrArg EmittedEvent.id kept.event
      have topics := congrArg EmittedEvent.topic kept.event
      have payloads := congrArg EmittedEvent.payload kept.event
      simp only [EventEmissionLogRow.event] at ids topics payloads
      simp only [EventEmissionLogRow.replayed, ids, topics, payloads]
    rw [backed.event, kept.event, replayed]

/-- What one call of `run_once` has published. -/
def replaysOf (published : List Publication) (run : Nat) : List EmittedEvent :=
  (published.filter fun publication => decide (publication.source = .replay run)).map
    Publication.event

/-- The replays of a run, of one stretch of publications after another. -/
@[simp] theorem replaysOf_append (published more : List Publication) (run : Nat) :
    replaysOf (published ++ more) run = replaysOf published run ++ replaysOf more run := by
  simp [replaysOf]

@[simp] theorem replaysOf_emission (event : EmittedEvent) (delivered : Bool) (run : Nat) :
    replaysOf [⟨.emission, event, delivered⟩] run = [] := rfl

@[simp] theorem replaysOf_replay (event : EmittedEvent) (delivered : Bool) (run other : Nat) :
    replaysOf [⟨.replay other, event, delivered⟩] run = if other = run then [event] else [] := by
  by_cases same : other = run
  · simp [replaysOf, same]
  · simp [replaysOf, same]

structure EmissionInvariant (system : EmissionSystem) : Prop where
  emitting : ∀ event ∈ system.emitting, ∃ row ∈ system.log.rows,
    row.isCritical = true ∧ row.event = event
  backed : ∀ publication ∈ system.published, ∃ row ∈ system.log.rows, publication.BackedBy row
  /-- What a call has published and what it has left are what it selected. -/
  progress : ∀ n run, system.runs[n]? = some run →
    replaysOf system.published n ++ run.remaining.map EventEmissionLogRow.replayed =
      (replayCandidates run.log run.cutoff).map EventEmissionLogRow.replayed
  remaining : ∀ run ∈ system.runs, ∀ row ∈ run.remaining,
    row ∈ replayCandidates run.log run.cutoff
  unbegun : ∀ n, system.runs.length ≤ n → replaysOf system.published n = []
  past : ∀ log ∈ system.runs.map ReplayRun.log, LogKept log system.log
  ordered : (system.runs.map ReplayRun.log).Pairwise LogKept

section Invariant

variable {system : EmissionSystem}

/-- At the start everything published is backed by the log. -/
theorem emissionInvariant_started (log : Table EventEmissionLogRow) :
    EmissionInvariant (.started log) := by
  constructor <;> simp [EmissionSystem.started, replaysOf]

/-- The rest of the state stays while the log grows. -/
theorem EmissionInvariant.grow (invariant : EmissionInvariant system)
    {log : Table EventEmissionLogRow} (kept : LogKept system.log log) :
    EmissionInvariant { system with log := log } where
  emitting event member := by
    obtain ⟨row, rowMember, critical, same⟩ := invariant.emitting event member
    obtain ⟨row', member', rowKept⟩ := kept row rowMember
    exact ⟨row', member', rowKept.critical.trans critical, rowKept.event.trans same⟩
  backed publication member := by
    obtain ⟨row, rowMember, backed⟩ := invariant.backed publication member
    obtain ⟨row', member', rowKept⟩ := kept row rowMember
    exact ⟨row', member', backed.kept rowKept⟩
  progress := invariant.progress
  remaining := invariant.remaining
  unbegun := invariant.unbegun
  past past member := (invariant.past past member).trans kept
  ordered := invariant.ordered

/-- Persisting keeps that what was published is backed. -/
theorem emissionInvariant_persist (invariant : EmissionInvariant system) (event : EmittedEvent)
    (now : Timestamp) : EmissionInvariant (system.persist event now) := by
  unfold EmissionSystem.persist
  split
  · exact invariant
  · next log persisted =>
    have rows := rows_persistCritical persisted
    have kept : LogKept system.log log := by
      intro row member
      refine ⟨row, ?_, rfl, rfl, fun _ => rfl⟩
      rw [rows]
      exact List.mem_append_left _ member
    have grown := invariant.grow kept
    refine ⟨?_, grown.backed, grown.progress, grown.remaining, grown.unbegun, grown.past,
      grown.ordered⟩
    intro other member
    rcases List.mem_append.mp member with old | new
    · exact grown.emitting other old
    · rw [List.mem_singleton.mp new]
      refine ⟨event.logRow now, ?_, rfl, rfl⟩
      change _ ∈ log.rows
      rw [rows]
      exact List.mem_append_right _ (List.mem_singleton_self _)

/-- Publishing an emission keeps that what was published is backed. -/
theorem emissionInvariant_publish (invariant : EmissionInvariant system) (index : Nat)
    (delivered : Bool) : EmissionInvariant (system.publish index delivered) := by
  unfold EmissionSystem.publish
  split
  · exact invariant
  · next event found =>
    refine ⟨?_, ?_, ?_, invariant.remaining, ?_, invariant.past, invariant.ordered⟩
    · intro other member
      exact invariant.emitting other (List.mem_of_mem_eraseIdx member)
    · intro publication member
      rcases List.mem_append.mp member with old | new
      · exact invariant.backed publication old
      · rw [List.mem_singleton.mp new]
        obtain ⟨row, rowMember, critical, same⟩ :=
          invariant.emitting event (List.mem_of_getElem? found)
        exact ⟨row, rowMember, critical, by simp [same]⟩
    · intro n run begun
      simpa using invariant.progress n run begun
    · intro n beyond
      simpa using invariant.unbegun n beyond

/-- A run that begins has replayed nothing yet. -/
theorem emissionInvariant_beginReplay (invariant : EmissionInvariant system)
    (gracePeriod clock : Timestamp) :
    EmissionInvariant (emissionStep system (.beginReplay gracePeriod clock)) := by
  refine ⟨invariant.emitting, invariant.backed, ?_, ?_, ?_, ?_, ?_⟩
  · intro n run begun
    simp only [emissionStep] at begun ⊢
    by_cases old : n < system.runs.length
    · rw [List.getElem?_append_left old] at begun
      exact invariant.progress n run begun
    · have beyond : system.runs.length ≤ n := Nat.le_of_not_lt old
      rw [List.getElem?_append_right beyond] at begun
      rw [invariant.unbegun n beyond, List.nil_append]
      cases List.mem_singleton.mp (List.mem_of_getElem? begun)
      rfl
  · intro run member row inside
    rcases List.mem_append.mp member with old | new
    · exact invariant.remaining run old row inside
    · cases List.mem_singleton.mp new
      exact inside
  · intro n beyond
    simp only [emissionStep, List.length_append, List.length_singleton] at beyond
    exact invariant.unbegun n (by omega)
  · intro log member
    simp only [emissionStep, List.map_append, List.mem_append] at member
    rcases member with old | new
    · exact invariant.past log old
    · cases List.mem_singleton.mp new
      exact LogKept.refl system.log
  · simp only [emissionStep, List.map_append]
    rw [List.pairwise_append]
    refine ⟨invariant.ordered, List.pairwise_singleton _ _, ?_⟩
    intro log member other new
    cases List.mem_singleton.mp new
    exact invariant.past log member

/-- Publishing a replay keeps that what was published is backed. -/
theorem emissionInvariant_replay (invariant : EmissionInvariant system) (run : Nat)
    (delivered : Bool) : EmissionInvariant (system.replay run delivered) := by
  unfold EmissionSystem.replay
  split
  · exact invariant
  · next current begun =>
    split
    · exact invariant
    · next row rest remaining =>
      have inRange : run < system.runs.length := (List.getElem?_eq_some_iff.mp begun).1
      have isRun : current ∈ system.runs := List.mem_of_getElem? begun
      have logs : (system.runs.set run { current with remaining := rest }).map ReplayRun.log =
          system.runs.map ReplayRun.log := by
        apply List.ext_getElem?
        intro n
        by_cases same : run = n
        · cases same
          rw [List.getElem?_map, List.getElem?_map, List.getElem?_set_self inRange, begun]
          rfl
        · rw [List.getElem?_map, List.getElem?_map, List.getElem?_set_ne same]
      refine ⟨invariant.emitting, ?_, ?_, ?_, ?_, ?_, ?_⟩
      · intro publication member
        rcases List.mem_append.mp member with old | new
        · exact invariant.backed publication old
        · rw [List.mem_singleton.mp new]
          have candidate := invariant.remaining current isRun row (by simp [remaining])
          obtain ⟨inLog, selected⟩ := Table.mem_select.mp candidate
          obtain ⟨row', member', kept⟩ :=
            invariant.past current.log (List.mem_map_of_mem isRun) row inLog
          have backed : Publication.BackedBy ⟨.replay run, row.replayed, delivered⟩ row :=
            ⟨(of_decide_eq_true selected).1, rfl⟩
          exact ⟨row', member', backed.kept kept⟩
      · intro n other found
        dsimp only at found ⊢
        rw [replaysOf_append, replaysOf_replay]
        by_cases same : run = n
        · cases same
          rw [List.getElem?_set_self inRange] at found
          cases found
          rw [if_pos rfl, ← invariant.progress run current begun, remaining, List.map_cons,
            List.append_assoc, List.singleton_append]
        · rw [List.getElem?_set_ne same] at found
          rw [if_neg same, List.append_nil]
          exact invariant.progress n other found
      · intro other member row' inside
        rcases List.mem_or_eq_of_mem_set member with old | new
        · exact invariant.remaining other old row' inside
        · rw [new] at inside ⊢
          exact invariant.remaining current isRun row' (by simp [remaining, inside])
      · intro n beyond
        rw [List.length_set] at beyond
        rw [replaysOf_append, replaysOf_replay, if_neg (by omega), List.append_nil]
        exact invariant.unbegun n beyond
      · rw [logs]
        exact invariant.past
      · rw [logs]
        exact invariant.ordered

/-- Every step keeps the invariant. -/
theorem emissionInvariant_step (invariant : EmissionInvariant system) (label : EmissionLabel) :
    EmissionInvariant (emissionStep system label) := by
  cases label with
  | persist event now commits =>
      cases commits with
      | false => exact invariant
      | true => exact emissionInvariant_persist invariant event now
  | publish index delivered => exact emissionInvariant_publish invariant index delivered
  | acknowledge eventId now =>
      exact invariant.grow (logKept_emissionStep system (.acknowledge eventId now))
  | beginReplay gracePeriod clock =>
      exact emissionInvariant_beginReplay invariant gracePeriod clock
  | replay run delivered => exact emissionInvariant_replay invariant run delivered

/-- Every run keeps the invariant. -/
theorem emissionInvariant_run (log : Table EventEmissionLogRow) (labels : List EmissionLabel) :
    EmissionInvariant (labels.foldl emissionStep (.started log)) := by
  have run := Transition.Run.of_steps emissionStep labels (.started log)
  refine run.invariant ?_ (emissionInvariant_started log)
  intro before label after invariant taken
  rw [taken]
  exact emissionInvariant_step invariant label

end Invariant

/-! ### Calls of `run_once` in a history -/

/-- The state that steps lead to, from a log and no call under way. -/
def emissionsAfter (log : Table EventEmissionLogRow) (labels : List EmissionLabel) :
    EmissionSystem := labels.foldl emissionStep (.started log)

/-- How many calls of `run_once` have begun. -/
def callsBegun : List EmissionLabel → Nat
  | [] => 0
  | .beginReplay _ _ :: labels => callsBegun labels + 1
  | _ :: labels => callsBegun labels

section Calls

variable {system : EmissionSystem} {n : Nat} {run : ReplayRun}

@[simp] theorem runs_persist (system : EmissionSystem) (event : EmittedEvent) (now : Timestamp) :
    (system.persist event now).runs = system.runs := by
  unfold EmissionSystem.persist
  split <;> rfl

@[simp] theorem runs_publish (system : EmissionSystem) (index : Nat) (delivered : Bool) :
    (system.publish index delivered).runs = system.runs := by
  unfold EmissionSystem.publish
  split <;> rfl

/-- A replay begins no run. -/
theorem length_runs_replay (system : EmissionSystem) (run : Nat) (delivered : Bool) :
    (system.replay run delivered).runs.length = system.runs.length := by
  unfold EmissionSystem.replay
  split
  · rfl
  · split
    · rfl
    · exact List.length_set

/-- There are as many runs as calls that began one. -/
theorem length_runs (system : EmissionSystem) (labels : List EmissionLabel) :
    (labels.foldl emissionStep system).runs.length = system.runs.length + callsBegun labels := by
  induction labels generalizing system with
  | nil => rfl
  | cons label labels inductionHypothesis =>
      rw [List.foldl_cons, inductionHypothesis]
      cases label with
      | persist event now commits => cases commits <;> simp [emissionStep, callsBegun]
      | publish index delivered => simp [emissionStep, callsBegun]
      | acknowledge eventId now => rfl
      | beginReplay gracePeriod clock =>
          simp only [emissionStep, callsBegun, List.length_append, List.length_singleton]
          omega
      | replay run delivered =>
          simp only [emissionStep, callsBegun]
          rw [length_runs_replay]

/-- A step leaves a call of `run_once` the log it has read and its cutoff. -/
theorem run_of_step (begun : system.runs[n]? = some run) (label : EmissionLabel) :
    ∃ run', (emissionStep system label).runs[n]? = some run' ∧ run'.log = run.log ∧
      run'.cutoff = run.cutoff := by
  cases label with
  | persist event now commits =>
      refine ⟨run, ?_, rfl, rfl⟩
      cases commits with
      | false => exact begun
      | true => simpa [emissionStep] using begun
  | publish index delivered => exact ⟨run, by simpa [emissionStep] using begun, rfl, rfl⟩
  | acknowledge eventId now => exact ⟨run, begun, rfl, rfl⟩
  | beginReplay gracePeriod clock =>
      have inRange := (List.getElem?_eq_some_iff.mp begun).1
      exact ⟨run, (List.getElem?_append_left inRange).trans begun, rfl, rfl⟩
  | replay number delivered =>
      simp only [emissionStep, EmissionSystem.replay]
      split
      · exact ⟨run, begun, rfl, rfl⟩
      · next current found =>
        split
        · exact ⟨run, begun, rfl, rfl⟩
        · next row rest remaining =>
          by_cases same : number = n
          · cases same
            cases found.symm.trans begun
            have inRange := (List.getElem?_eq_some_iff.mp begun).1
            exact ⟨_, List.getElem?_set_self inRange, rfl, rfl⟩
          · exact ⟨run, (List.getElem?_set_ne same).trans begun, rfl, rfl⟩

/-- The log and the cutoff of a run stay what they were when it began. -/
theorem run_of_steps (begun : system.runs[n]? = some run) (labels : List EmissionLabel) :
    ∃ run', (labels.foldl emissionStep system).runs[n]? = some run' ∧ run'.log = run.log ∧
      run'.cutoff = run.cutoff := by
  induction labels generalizing system run with
  | nil => exact ⟨run, begun, rfl, rfl⟩
  | cons label labels inductionHypothesis =>
      obtain ⟨next, found, sameLog, sameCutoff⟩ := run_of_step begun label
      obtain ⟨last, foundLast, lastLog, lastCutoff⟩ := inductionHypothesis found
      exact ⟨last, foundLast, lastLog.trans sameLog, lastCutoff.trans sameCutoff⟩

/-- A call that begins selects from the log that is committed then. -/
theorem run_of_begun (log : Table EventEmissionLogRow) {before after : List EmissionLabel}
    {gracePeriod clock : Timestamp} :
    ∃ run, (emissionsAfter log (before ++ .beginReplay gracePeriod clock :: after)).runs[
        callsBegun before]? = some run ∧
      run.log = (emissionsAfter log before).log ∧ run.cutoff = clock - gracePeriod := by
  have number : (emissionsAfter log before).runs.length = callsBegun before := by
    rw [emissionsAfter, length_runs]
    exact Nat.zero_add _
  have begins : (emissionStep (emissionsAfter log before)
      (.beginReplay gracePeriod clock)).runs[callsBegun before]? =
        some (TallyKeep.beginReplay (emissionsAfter log before).log gracePeriod clock) := by
    rw [← number]
    exact List.getElem?_concat_length
  obtain ⟨run, found, sameLog, sameCutoff⟩ := run_of_steps begins after
  refine ⟨run, ?_, sameLog, sameCutoff⟩
  rw [emissionsAfter, List.foldl_append, List.foldl_cons]
  exact found

end Calls

/-! ### The law -/

/-- Persist first: whatever is published has its row; a call of `run_once` that has come to its end
    has published each row once that was critical, unacknowledged and older than the grace period in
    the log committed when it began; and neither it nor a later call has published a row that was
    acknowledged then. -/
structure PersistFirst (log : Table EventEmissionLogRow) (labels : List EmissionLabel) : Prop where
  backed : ∀ publication ∈ (emissionsAfter log labels).published,
    ∃ row ∈ (emissionsAfter log labels).log.rows, publication.BackedBy row
  replayed : ∀ before gracePeriod clock after,
    labels = before ++ .beginReplay gracePeriod clock :: after →
      ∃ run, (emissionsAfter log labels).runs[callsBegun before]? = some run ∧
        (run.remaining = [] → ∀ row ∈ (emissionsAfter log before).log.rows,
          row.isCritical = true → row.acknowledgedAt = none → row.emittedAt < clock - gracePeriod →
            (replaysOf (emissionsAfter log labels).published (callsBegun before)).filter
              (fun event => decide (event.id = row.id)) = [row.replayed])
  silent : ∀ before gracePeriod clock after,
    labels = before ++ .beginReplay gracePeriod clock :: after →
      ∀ m, callsBegun before ≤ m → ∀ row ∈ (emissionsAfter log before).log.rows,
        row.acknowledgedAt ≠ none →
          ∀ event ∈ replaysOf (emissionsAfter log labels).published m, event.id ≠ row.id

/-- A row that a condition selects is the only one of its key that it selects. -/
theorem filter_select_of_mem {log : Table EventEmissionLogRow} {p : EventEmissionLogRow → Bool}
    {row : EventEmissionLogRow} (member : row ∈ log.select p) :
    (log.select p).filter (fun other => decide (other.id = row.id)) = [row] := by
  obtain ⟨inLog, selected⟩ := Table.mem_select.mp member
  calc (log.select p).filter (fun other => decide (other.id = row.id))
      = (log.rows.filter fun other => decide (other.id = row.id)).filter p := List.filter_comm ..
    _ = [row].filter p := congrArg (List.filter p) (Table.filter_key_eq inLog)
    _ = [row] := List.filter_cons_of_pos selected

/-- What a run replayed was among its candidates. -/
theorem mem_replays {system : EmissionSystem} (invariant : EmissionInvariant system) {n : Nat}
    {run : ReplayRun} (begun : system.runs[n]? = some run) {event : EmittedEvent}
    (member : event ∈ replaysOf system.published n) :
    ∃ row ∈ replayCandidates run.log run.cutoff, row.replayed = event := by
  have selected : event ∈ (replayCandidates run.log run.cutoff).map
      EventEmissionLogRow.replayed := by
    rw [← invariant.progress n run begun]
    exact List.mem_append_left _ member
  exact List.mem_map.mp selected

/-- What is acknowledged in the log of one call is so in the logs of later ones. -/
theorem acknowledged_later {system : EmissionSystem} (invariant : EmissionInvariant system)
    {n m : Nat} {run later : ReplayRun} (order : n ≤ m) (begun : system.runs[n]? = some run)
    (begunLater : system.runs[m]? = some later) : LogKept run.log later.log := by
  rcases Nat.eq_or_lt_of_le order with rfl | before
  · cases begun.symm.trans begunLater
    exact LogKept.refl run.log
  · obtain ⟨nBound, nRun⟩ := List.getElem?_eq_some_iff.mp begun
    obtain ⟨mBound, mRun⟩ := List.getElem?_eq_some_iff.mp begunLater
    have ordered := List.pairwise_iff_getElem.mp invariant.ordered n m
      (by simpa using nBound) (by simpa using mBound) before
    rw [List.getElem_map, List.getElem_map, nRun, mRun] at ordered
    exact ordered

/-- The calls of a history publish what was there to publish when they began. -/
theorem persistFirst_of_invariant {log : Table EventEmissionLogRow} {labels : List EmissionLabel}
    (invariant : EmissionInvariant (emissionsAfter log labels)) : PersistFirst log labels := by
  refine ⟨invariant.backed, ?_, ?_⟩
  · rintro before gracePeriod clock after rfl
    obtain ⟨run, begun, sameLog, sameCutoff⟩ := run_of_begun log
    refine ⟨run, begun, ?_⟩
    intro ended row member critical unacknowledged old
    rw [← sameLog] at member
    rw [← sameCutoff] at old
    have candidate : row ∈ replayCandidates run.log run.cutoff :=
      Table.mem_select.mpr ⟨member, decide_eq_true ⟨critical, unacknowledged, old⟩⟩
    have all := invariant.progress _ run begun
    rw [ended, List.map_nil, List.append_nil] at all
    rw [all, List.filter_map]
    exact congrArg (List.map EventEmissionLogRow.replayed) (filter_select_of_mem candidate)
  · rintro before gracePeriod clock after rfl m order row member acknowledged event replayed same
    obtain ⟨run, begun, sameLog, -⟩ := run_of_begun log
    rw [← sameLog] at member
    cases begunLater : (emissionsAfter log
        (before ++ .beginReplay gracePeriod clock :: after)).runs[m]? with
    | none =>
        rw [invariant.unbegun m (List.getElem?_eq_none_iff.mp begunLater)] at replayed
        cases replayed
    | some later =>
        obtain ⟨candidate, selected, rfl⟩ := mem_replays invariant begunLater replayed
        obtain ⟨inLog, asked⟩ := Table.mem_select.mp selected
        obtain ⟨row', member', kept⟩ :=
          acknowledged_later invariant order begun begunLater row member
        have ids : row'.id = row.id := congrArg EmittedEvent.id kept.event
        have equal : candidate = row' := Table.eq_of_key_eq inLog member' (same.trans ids.symm)
        have asIs := kept.acknowledged acknowledged
        rw [← equal, (of_decide_eq_true asked).2.1] at asIs
        exact acknowledged asIs.symm

/-- A call of `run_once` comes to its end, whatever becomes of its publishes. -/
theorem replay_ends (system : EmissionSystem) {n : Nat} {run : ReplayRun}
    (begun : system.runs[n]? = some run) (outcomes : List Bool)
    (enough : outcomes.length = run.remaining.length) :
    ((outcomes.map (EmissionLabel.replay n)).foldl emissionStep system).runs[n]? =
      some { run with remaining := [] } := by
  induction outcomes generalizing system run with
  | nil =>
      have ended : run.remaining = [] := List.eq_nil_of_length_eq_zero enough.symm
      rw [List.map_nil, List.foldl_nil, begun, ← ended]
  | cons delivered outcomes inductionHypothesis =>
      cases remaining : run.remaining with
      | nil =>
          rw [remaining] at enough
          cases enough
      | cons row rest =>
          have inRange : n < system.runs.length := (List.getElem?_eq_some_iff.mp begun).1
          have next : (emissionStep system (.replay n delivered)).runs[n]? =
              some { run with remaining := rest } := by
            simp only [emissionStep, EmissionSystem.replay, begun, remaining]
            exact List.getElem?_set_self inRange
          rw [remaining] at enough
          rw [List.map_cons, List.foldl_cons]
          have ended := inductionHypothesis _ next (Nat.succ_injective enough)
          exact ended

/-- Two critical events, the first of which is not published, and the second acknowledged. -/
def sampleEmissions : List EmissionLabel :=
  [.persist ⟨1, "holding.utxo.received", []⟩ 5 true, .publish 0 false,
    .persist ⟨2, "invoice.paid", []⟩ 6 true, .publish 0 true, .acknowledge 2 7]

/-- A replay whose one publish fails too, and another one. -/
def sampleReplays : List EmissionLabel :=
  [.beginReplay 10 100, .replay 0 false, .beginReplay 10 200, .replay 1 true]

end TallyKeep
