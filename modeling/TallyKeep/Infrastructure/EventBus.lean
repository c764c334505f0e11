/-
Module: TallyKeep.Infrastructure.EventBus
Layer: Infrastructure
Purpose: The event bus: topics, patterns, and which published events reach a subscription.
Trusted boundary: translation of `infrastructure/event_bus.py`.  A handler that
  raises is logged and passed over by the bus: what it committed is what it leaves.  Redis may send
  a message more than once to a process that has subscribed several matching patterns
Main exports: matchesFrom, topicMatchesPattern, Event, anyMatches, Delivered, handedOver,
  topicMatchesPattern_of_literal, anyMatches_singleton
-/
import Mathlib.Data.List.Basic

namespace TallyKeep

/-! ### Patterns -/

/-- What `.*` can leave of a text: it does not pass a line break. -/
def afterWildcard : List Char → List (List Char)
  | [] => [[]]
  | c :: rest => (c :: rest) :: if c = '\n' then [] else afterWildcard rest

/-- A match of the compiled pattern from the start of a text.  The final `$` matches before a
    closing line break, too. -/
def matchesFrom : List Char → List Char → Bool
  | [], text => decide (text = [] ∨ text = ['\n'])
  | '*' :: pattern, text => (afterWildcard text).any (matchesFrom pattern)
  | _ :: _, [] => false
  | c :: pattern, d :: text => decide (c = d) && matchesFrom pattern text

/-- `topic_matches_pattern`. -/
def topicMatchesPattern (topic pattern : String) : Bool := matchesFrom pattern.toList topic.toList

/-- A pattern without a wildcard matches its own text, with or without a closing line break. -/
theorem matchesFrom_of_literal {pattern : List Char} (literal : '*' ∉ pattern) (text : List Char) :
    matchesFrom pattern text = true ↔ text = pattern ∨ text = pattern ++ ['\n'] := by
  induction pattern generalizing text with
  | nil => simp [matchesFrom]
  | cons c pattern inductionHypothesis =>
      have plain : c ≠ '*' := fun same => literal (same ▸ List.mem_cons_self)
      have rest : '*' ∉ pattern := fun member => literal (List.mem_cons_of_mem c member)
      cases text with
      | nil =>
          rw [matchesFrom]
          · simp
          · exact plain
      | cons d text =>
          rw [matchesFrom, Bool.and_eq_true, decide_eq_true_iff, inductionHypothesis rest]
          · constructor
            · intro ⟨same, tail⟩
              rw [same]
              rcases tail with rfl | rfl
              · exact .inl rfl
              · exact .inr rfl
            · intro whole
              rcases whole with whole | whole
              · cases whole
                exact ⟨rfl, .inl rfl⟩
              · cases whole
                exact ⟨rfl, .inr rfl⟩
          · exact plain

theorem topicMatchesPattern_of_literal {topic pattern : String} (literal : '*' ∉ pattern.toList) :
    topicMatchesPattern topic pattern = true ↔
      topic.toList = pattern.toList ∨ topic.toList = pattern.toList ++ ['\n'] :=
  matchesFrom_of_literal literal topic.toList

/-! ### Events -/

/-- An event on the bus. -/
structure Event (Payload : Type) where
  topic : String
  payload : Payload
deriving DecidableEq

/-- The patterns of a subscription, one of which a topic has to match. -/
def anyMatches (patterns : List String) (topic : String) : Bool :=
  patterns.any fun pattern => topicMatchesPattern topic pattern

/-- A subscription to one topic gets the events of that topic. -/
theorem anyMatches_singleton {topic pattern : String} (literal : '*' ∉ pattern.toList)
    (plain : '\n' ∉ topic.toList) : anyMatches [pattern] topic = decide (topic = pattern) := by
  rw [Bool.eq_iff_iff, decide_eq_true_iff, anyMatches, List.any_cons, List.any_nil, Bool.or_false,
    topicMatchesPattern_of_literal literal]
  constructor
  · intro whole
    cases whole with
    | inl same => exact String.toList_injective same
    | inr closed =>
        rw [closed] at plain
        exact absurd (List.mem_append_right _ List.mem_cons_self) plain
  · intro same
    exact .inl (congrArg String.toList same)

/-- The events that reach a subscription once all of some published ones are delivered: those that
    match, all of them, and each at least once. -/
structure Delivered {Payload : Type} (patterns : List String) (published delivered : List (Event Payload)) :
    Prop where
  sound : ∀ event ∈ delivered, event ∈ published ∧ anyMatches patterns event.topic = true
  complete : ∀ event ∈ published, anyMatches patterns event.topic = true → event ∈ delivered

/-- What `InMemoryEventBus.publish` hands to the handler of a subscription, event by event. -/
def handedOver {Payload : Type} (patterns : List String) (published : List (Event Payload)) :
    List (Event Payload) :=
  published.filter fun event => anyMatches patterns event.topic

theorem handedOver_delivered {Payload : Type} (patterns : List String)
    (published : List (Event Payload)) :
    Delivered patterns published (handedOver patterns published) := by
  constructor
  · intro event member
    exact List.mem_filter.mp member
  · intro event member hit
    exact List.mem_filter.mpr ⟨member, hit⟩

end TallyKeep
