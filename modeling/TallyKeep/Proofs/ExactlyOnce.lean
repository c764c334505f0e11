/-
Module: TallyKeep.Proofs.ExactlyOnce
Layer: Proofs
Purpose: How often a published event reaches a subscription on the two buses.
Trusted boundary: none
Main exports: ExactlyOnce, SingleMessage, exactlyOnce_dispatchEvent, handedTo_redisPublish,
  exactlyOnce_iff, overlapping_patterns_twice
-/
import TallyKeep.Infrastructure.EventDelivery

namespace TallyKeep

open Relational

variable {Payload : Type}

/-! ### Handler calls -/

/-- The events a subscription's handler is called with. -/
def handedTo (subId : Uuid) (calls : List (Uuid × Event Payload)) : List (Event Payload) :=
  (calls.filter fun call => decide (call.1 = subId)).map Prod.snd

/-- Each subscription that matches gets the event once, and nobody else gets it. -/
structure ExactlyOnce (subs : Table BusSubscription) (event : Event Payload)
    (calls : List (Uuid × Event Payload)) : Prop where
  once : ∀ sub ∈ subs.rows,
    handedTo sub.id calls = if anyMatches sub.patterns event.topic then [event] else []
  only : ∀ call ∈ calls, ∃ sub ∈ subs.rows, sub.id = call.1

section Dispatch

variable {subs : Table BusSubscription} {event : Event Payload}

theorem handedTo_dispatchEvent {sub : BusSubscription} (member : sub ∈ subs.rows) :
    handedTo sub.id (dispatchEvent subs event) =
      if anyMatches sub.patterns event.topic then [event] else [] := by
  have own : (subs.select fun other => anyMatches other.patterns event.topic).filter
      (fun other => decide (other.id = sub.id)) =
        [sub].filter fun other => anyMatches other.patterns event.topic := by
    rw [Table.select, List.filter_comm]
    exact congrArg (List.filter _) (Table.filter_key_eq member)
  have calls : ((dispatchEvent subs event).filter fun call => decide (call.1 = sub.id)) =
      ((subs.select fun other => anyMatches other.patterns event.topic).filter
        fun other => decide (other.id = sub.id)).map fun other => (other.id, event) := by
    rw [dispatchEvent, List.filter_map]
    rfl
  rw [handedTo, calls, own]
  by_cases hit : anyMatches sub.patterns event.topic = true
  · simp [hit]
  · simp [hit]

theorem exactlyOnce_dispatchEvent : ExactlyOnce subs event (dispatchEvent subs event) := by
  constructor
  · intro sub member
    exact handedTo_dispatchEvent member
  · intro call member
    obtain ⟨sub, selected, rfl⟩ := List.mem_map.mp member
    exact ⟨sub, (Table.mem_select.mp selected).1, rfl⟩

end Dispatch

/-! ### Messages -/

section Redis

variable {globMatches : String → String → Bool} {bus : RedisBus} {event : Event Payload}

/-- The active patterns that match a channel. -/
def matchingPatterns (globMatches : String → String → Bool) (bus : RedisBus) (topic : String) :
    List String :=
  bus.activePatterns.filter fun pattern => globMatches (patternToRedis pattern) topic

/-- Each matching pattern has the event dispatched once more. -/
theorem redisPublish_eq (notControl : event.topic ≠ controlChannel) :
    redisPublish globMatches bus event =
      (matchingPatterns globMatches bus event.topic).flatMap fun _ =>
        dispatchEvent bus.subs event := by
  rw [redisPublish, readLoop, redisMessages, if_neg notControl, List.nil_append, List.flatMap_map]
  simp only [notControl, if_false, matchingPatterns]

/-- An event on the control channel is taken for a signal. -/
theorem redisPublish_control (control : event.topic = controlChannel) :
    redisPublish globMatches bus event = [] := by
  have channels : ∀ message ∈ redisMessages globMatches bus event,
      message.channel = controlChannel := by
    intro message member
    rcases List.mem_append.mp member with direct | matched
    · rw [if_pos control] at direct
      rw [List.mem_singleton.mp direct, control]
    · obtain ⟨_, _, rfl⟩ := List.mem_map.mp matched
      exact control
  apply List.flatMap_eq_nil_iff.mpr
  intro message member
  exact if_pos (channels message member)

theorem handedTo_flatMap {α : Type} (items : List α) (calls : List (Uuid × Event Payload))
    (subId : Uuid) :
    handedTo subId (items.flatMap fun _ => calls) =
      items.flatMap fun _ => handedTo subId calls := by
  simp [handedTo, List.filter_flatMap, List.map_flatMap]

/-- A subscription that matches gets the event once for each active pattern that matches. -/
theorem handedTo_redisPublish {sub : BusSubscription} (member : sub ∈ bus.subs.rows)
    (notControl : event.topic ≠ controlChannel) :
    handedTo sub.id (redisPublish globMatches bus event) =
      (matchingPatterns globMatches bus event.topic).flatMap fun _ =>
        if anyMatches sub.patterns event.topic then [event] else [] := by
  rw [redisPublish_eq notControl, handedTo_flatMap, handedTo_dispatchEvent member]

/-- Where some subscription matches a topic, exactly one active pattern matches it for Redis, and it
    is not the control channel. -/
def SingleMessage (globMatches : String → String → Bool) (bus : RedisBus) (topic : String) :
    Prop :=
  (∃ sub ∈ bus.subs.rows, anyMatches sub.patterns topic = true) →
    topic ≠ controlChannel ∧ (matchingPatterns globMatches bus topic).length = 1

theorem exactlyOnce_redisPublish_iff :
    ExactlyOnce bus.subs event (redisPublish globMatches bus event) ↔
      SingleMessage globMatches bus event.topic := by
  constructor
  · rintro ⟨once, -⟩ ⟨sub, member, hit⟩
    have got := once sub member
    rw [if_pos hit] at got
    by_cases control : event.topic = controlChannel
    · rw [redisPublish_control control] at got
      cases got
    · rw [handedTo_redisPublish member control, if_pos hit, ← List.map_eq_flatMap] at got
      have counted := congrArg List.length got
      rw [List.length_map] at counted
      exact ⟨control, counted⟩
  · intro single
    constructor
    · intro sub member
      by_cases hit : anyMatches sub.patterns event.topic = true
      · obtain ⟨notControl, one⟩ := single ⟨sub, member, hit⟩
        obtain ⟨pattern, only⟩ := List.length_eq_one_iff.mp one
        rw [handedTo_redisPublish member notControl, only, List.flatMap_singleton]
      · rw [if_neg hit]
        by_cases control : event.topic = controlChannel
        · rw [redisPublish_control control]
          rfl
        · rw [handedTo_redisPublish member control, if_neg hit]
          simp
    · intro call member
      by_cases control : event.topic = controlChannel
      · rw [redisPublish_control control] at member
        cases member
      · rw [redisPublish_eq control] at member
        obtain ⟨_, _, inside⟩ := List.mem_flatMap.mp member
        exact exactlyOnce_dispatchEvent.only call inside

end Redis

/-! ### Both buses -/

/-- The two buses keep the same subscriptions. -/
theorem subs_redisAfter (operations : List BusOperation) :
    (redisAfter operations).subs = inMemoryAfter operations := by
  have step : ∀ (bus : RedisBus) (operations : List BusOperation),
      (operations.foldl redisStep bus).subs = operations.foldl inMemoryStep bus.subs := by
    intro bus operations
    induction operations generalizing bus with
    | nil => rfl
    | cons operation operations inductionHypothesis =>
        rw [List.foldl_cons, List.foldl_cons, inductionHypothesis]
        congr 1
        cases operation with
        | unsubscribe subId => rfl
        | subscribe subId patterns =>
            simp only [redisStep, inMemoryStep, RedisBus.subscribe]
            cases addSubscription bus.subs subId patterns <;> rfl
  exact step _ operations

/-- After any subscriptions and removals, an event reaches each subscription that matches exactly
    once and no other on both buses, exactly when Redis sends a single message for it, if any
    subscription matches. -/
theorem exactlyOnce_iff (globMatches : String → String → Bool) (operations : List BusOperation)
    (event : Event Payload) :
    ExactlyOnce (inMemoryAfter operations) event (dispatchEvent (inMemoryAfter operations) event) ∧
        ExactlyOnce (inMemoryAfter operations) event
          (redisPublish globMatches (redisAfter operations) event) ↔
      SingleMessage globMatches (redisAfter operations) event.topic := by
  rw [← subs_redisAfter, exactlyOnce_redisPublish_iff]
  exact and_iff_right exactlyOnce_dispatchEvent

/-- On patterns of letters, dots and `*`, Redis matches as the bus does. -/
def starGlob (pattern channel : String) : Bool := topicMatchesPattern channel pattern

/-- Two subscribers with overlapping patterns: each gets one event twice. -/
theorem overlapping_patterns_twice :
    handedTo 1 (redisPublish starGlob
      (redisAfter [.subscribe 1 ["*"], .subscribe 2 ["chain.*"]])
        (⟨"chain.block", ()⟩ : Event Unit)) = [⟨"chain.block", ()⟩, ⟨"chain.block", ()⟩] ∧
      ¬ExactlyOnce (inMemoryAfter [.subscribe 1 ["*"], .subscribe 2 ["chain.*"]])
        (⟨"chain.block", ()⟩ : Event Unit)
        (redisPublish starGlob (redisAfter [.subscribe 1 ["*"], .subscribe 2 ["chain.*"]])
          ⟨"chain.block", ()⟩) := by
  refine ⟨by decide, ?_⟩
  intro exactly
  have first : (⟨1, ["*"]⟩ : BusSubscription) ∈
      (inMemoryAfter [.subscribe 1 ["*"], .subscribe 2 ["chain.*"]]).rows := by decide
  exact absurd (exactly.once _ first) (by decide)

end TallyKeep
