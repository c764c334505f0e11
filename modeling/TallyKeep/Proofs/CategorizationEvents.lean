/-
Module: TallyKeep.Proofs.CategorizationEvents
Layer: Proofs
Purpose: Which events about uncategorized entries settle: those for which the categorizer has no
  suggestion.  Any other event is answered by one that draws the same suggestion again.
Trusted boundary: none
Main exports: DrawsSuggestion, suggestCategory_eq_some_iff, onEvent_of_draws, onEvent_of_not_draws,
  CategorizationSettles, categorizationSettles_iff
-/
import TallyKeep.Library.Dispatch
import TallyKeep.Workers.CategorizerSuggester

namespace TallyKeep

open Dispatch Relational Transition

/-! ### Suggestions -/

/-- The service has a suggestion for the entry a payload names: one that is stored, or the one for
    transfers between the user's own holdings. -/
def DrawsSuggestion (db : CategorizerDatabase) (payload : CategorizationPayload) : Prop :=
  ∃ entryId row category, payload.ledgerEntryId = some (.entry entryId) ∧
    db.ledgerEntries.get? entryId = some row ∧
    (db.suggestedCategory entryId = some (LedgerCategory.value category) ∨
      db.suggestedCategory entryId = none ∧ row.direction = .internal)

/-- The only heuristic that fires is the one on the direction. -/
theorem heuristics_eq (db : CategorizerDatabase) (row : LedgerEntryRow) :
    heuristics db row = if row.direction = .internal then some .internalTransfer else none := by
  have silent : custodialMatch db row = none := by
    simp [custodialMatch]
  rw [heuristics, silent, paymentRequestMatch, Option.or_none, Option.or_none]

namespace LedgerCategory

/-- A text that is read as a category is its wire value. -/
theorem eq_value_of_ofValue {text : String} {category : LedgerCategory}
    (read : ofValue text = .ok category) : text = category.value := by
  rw [ofValue] at read
  split at read
  next found heading =>
    cases read
    have matched := List.find?_some heading
    exact (of_decide_eq_true matched).symm
  next => cases read

end LedgerCategory

/-- An entry with a stored suggestion, or one of an internal transfer, gets a suggestion that is
    stored afterwards. -/
theorem suggestCategory_of_draws {db : CategorizerDatabase} {entryId : Uuid} {row : LedgerEntryRow}
    {category : LedgerCategory} (entry : db.ledgerEntries.get? entryId = some row)
    (drawn : db.suggestedCategory entryId = some category.value ∨
      db.suggestedCategory entryId = none ∧ row.direction = .internal) :
    ∃ committed suggestion, suggestCategory db entryId true = .ok (committed, some suggestion) ∧
      committed.ledgerEntries.get? entryId = some row ∧
      committed.suggestedCategory entryId = some (LedgerCategory.value suggestion) := by
  rcases drawn with stored | ⟨fresh, internal⟩
  · refine ⟨db, category, ?_, entry, stored⟩
    rw [suggestCategory, entry]
    simp only [stored, LedgerCategory.ofValue_value]
    rfl
  · refine ⟨db.withSuggestion entryId .internalTransfer, .internalTransfer, ?_, entry,
      Function.update_self ..⟩
    rw [suggestCategory, entry]
    simp only [fresh, heuristics_eq, if_pos internal, if_true]

/-- A suggestion the service returns was stored or is the one for internal transfers. -/
theorem draws_of_suggestCategory {db committed : CategorizerDatabase} {entryId : Uuid}
    {suggestion : LedgerCategory} {writeToDb : Bool}
    (suggested : suggestCategory db entryId writeToDb = .ok (committed, some suggestion)) :
    ∃ row category, db.ledgerEntries.get? entryId = some row ∧
      (db.suggestedCategory entryId = some (LedgerCategory.value category) ∨
        db.suggestedCategory entryId = none ∧ row.direction = .internal) := by
  rw [suggestCategory] at suggested
  cases entry : db.ledgerEntries.get? entryId with
  | none =>
      rw [entry] at suggested
      cases suggested
  | some row =>
      rw [entry] at suggested
      cases stored : db.suggestedCategory entryId with
      | some text =>
          simp only [stored] at suggested
          cases read : LedgerCategory.ofValue text with
          | error raised =>
              rw [read] at suggested
              cases suggested
          | ok category =>
              exact ⟨row, category, rfl,
                .inl (congrArg some (LedgerCategory.eq_value_of_ofValue read))⟩
      | none =>
          simp only [stored, heuristics_eq] at suggested
          by_cases internal : row.direction = .internal
          · exact ⟨row, suggestion, rfl, .inr ⟨rfl, internal⟩⟩
          · rw [if_neg internal] at suggested
            cases suggested

/-! ### What the suggester publishes -/

namespace CategorizerSuggester

/-- The suggester gets the events of its own topic. -/
theorem handle_topic (db : CategorizerDatabase) (payload : CategorizationPayload) :
    handle db ⟨topic, payload⟩ = onEvent db ⟨topic, payload⟩ := by
  have matched : anyMatches [topic] topic = true := by
    rw [anyMatches_singleton (by decide) (by decide)]
    exact decide_eq_true rfl
  rw [handle, if_pos matched]

/-- An event that draws a suggestion is answered by one event, which draws a suggestion again. -/
theorem onEvent_of_draws {db : CategorizerDatabase} {payload : CategorizationPayload}
    (draws : DrawsSuggestion db payload) :
    ∃ next, (onEvent db ⟨topic, payload⟩).2 = [⟨topic, next⟩] ∧
      DrawsSuggestion (onEvent db ⟨topic, payload⟩).1 next := by
  obtain ⟨entryId, row, category, named, entry, drawn⟩ := draws
  obtain ⟨committed, suggestion, suggested, kept, stored⟩ := suggestCategory_of_draws entry drawn
  have published : onEvent db ⟨topic, payload⟩ =
      (committed, [⟨topic, ⟨some (.entry entryId), some suggestion.value⟩⟩]) := by
    simp only [onEvent, named, suggested]
  rw [published]
  exact ⟨_, rfl, entryId, row, suggestion, rfl, kept, .inl stored⟩

/-- An event that draws no suggestion is not answered. -/
theorem onEvent_of_not_draws {db : CategorizerDatabase} {payload : CategorizationPayload}
    (none : ¬DrawsSuggestion db payload) : (onEvent db ⟨topic, payload⟩).2 = [] := by
  rw [onEvent]
  split
  next => rfl
  next => rfl
  next entryId named =>
    split
    next => rfl
    next => rfl
    next committed suggestion suggested =>
      obtain ⟨row, category, entry, drawn⟩ := draws_of_suggestCategory suggested
      exact absurd ⟨entryId, row, category, named, entry, drawn⟩ none

end CategorizerSuggester

/-! ### Events settle -/

/-- What is asked of a published event: the publications it causes are bounded, and the suggester
    adds at most one to the event itself. -/
def CategorizationSettles (db : CategorizerDatabase) (payload : CategorizationPayload) : Prop :=
  Settles CategorizerSuggester.handle db ⟨CategorizerSuggester.topic, payload⟩ ∧
    ∀ delivered bus,
      Run (Delivers CategorizerSuggester.handle) ⟨db, [⟨CategorizerSuggester.topic, payload⟩]⟩
        delivered bus →
      bus.published delivered ≤ 1 + 1

/-- The events of the suggester's topic that draw a suggestion. -/
def Rekindling (db : CategorizerDatabase) (event : Event CategorizationPayload) : Prop :=
  event.topic = CategorizerSuggester.topic ∧ DrawsSuggestion db event.payload

theorem rekindled (db : CategorizerDatabase) (event : Event CategorizationPayload)
    (rekindling : Rekindling db event) :
    ∃ next, (CategorizerSuggester.handle db event).2 = [next] ∧
      Rekindling (CategorizerSuggester.handle db event).1 next := by
  obtain ⟨topic, payload⟩ := event
  obtain ⟨rfl, draws⟩ := rekindling
  rw [CategorizerSuggester.handle_topic]
  obtain ⟨next, published, again⟩ := CategorizerSuggester.onEvent_of_draws draws
  exact ⟨⟨_, next⟩, published, rfl, again⟩

/-- An event settles exactly when it draws no suggestion. -/
theorem categorizationSettles_iff (db : CategorizerDatabase) (payload : CategorizationPayload) :
    CategorizationSettles db payload ↔ ¬DrawsSuggestion db payload := by
  constructor
  · rintro ⟨settles, -⟩ draws
    exact not_settles rekindled ⟨rfl, draws⟩ settles
  · intro none
    have silent : (CategorizerSuggester.handle db ⟨CategorizerSuggester.topic, payload⟩).2 = [] := by
      rw [CategorizerSuggester.handle_topic]
      exact CategorizerSuggester.onEvent_of_not_draws none
    refine ⟨settles_of_silent silent, ?_⟩
    intro delivered bus run
    exact Nat.le_succ_of_le (published_le_of_silent silent run)

/-- One entry of an internal transfer, without a suggestion. -/
def internalEntryDatabase : CategorizerDatabase :=
  { Database.empty with
    ledgerEntries := Table.empty.insert
      ⟨7, .internal, 0, 0, .onchainTransaction, "0000"⟩
    sweepPolicies := .empty
    custodialProviders := .empty
    suggestedCategory := fun _ => none
    whitelistAddress := fun _ => none }

/-- The listener's event about an internal transfer does not settle. -/
theorem internalTransfer_not_settles :
    ¬∀ db payload, CategorizationSettles db payload := by
  intro settles
  apply not_settles rekindled _ (settles internalEntryDatabase ⟨some (.entry 7), none⟩).1
  exact ⟨rfl, 7, ⟨7, .internal, 0, 0, .onchainTransaction, "0000"⟩, .other, rfl, by decide,
    .inr ⟨rfl, rfl⟩⟩

end TallyKeep
