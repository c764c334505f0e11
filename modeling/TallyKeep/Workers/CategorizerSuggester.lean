/-
Module: TallyKeep.Workers.CategorizerSuggester
Layer: Workers
Purpose: `CategorizerSuggester` and `categorizer_service`: what an event about an entry without a
  category writes and publishes.
Trusted boundary: translation.  A payload holds, under `ledger_entry_id`, what
  `UUID(str(value))` makes of the value; an exception inside the session leaves nothing committed
Main exports: LedgerCategory, CategorizerDatabase, suggestCategory, CategorizationPayload,
  CategorizerSuggester.onEvent, CategorizerSuggester.handle
-/
import TallyKeep.Infrastructure.EventBus
import TallyKeep.Models

namespace TallyKeep

open Relational

/-! ### Categories -/

inductive LedgerCategory where
  | custodialWithdrawal
  | p2pReceive
  | salary
  | merchantReceipt
  | merchantPayment
  | p2pSend
  | custodialDeposit
  | internalTransfer
  | consolidation
  | other
deriving Repr, DecidableEq

namespace LedgerCategory

/-- The wire value of a category, which is what the columns hold. -/
def value : LedgerCategory → String
  | custodialWithdrawal => "custodial_withdrawal"
  | p2pReceive => "p2p_receive"
  | salary => "salary"
  | merchantReceipt => "merchant_receipt"
  | merchantPayment => "merchant_payment"
  | p2pSend => "p2p_send"
  | custodialDeposit => "custodial_deposit"
  | internalTransfer => "internal_transfer"
  | consolidation => "consolidation"
  | other => "other"

def all : List LedgerCategory :=
  [custodialWithdrawal, p2pReceive, salary, merchantReceipt, merchantPayment, p2pSend,
    custodialDeposit, internalTransfer, consolidation, other]

/-- `LedgerCategory(text)`: a text that is no wire value raises. -/
def ofValue (text : String) : Except PyError LedgerCategory :=
  match all.find? fun category => decide (category.value = text) with
  | some category => .ok category
  | none => .error ⟨.valueError, "'" ++ text ++ "' is not a valid LedgerCategory"⟩

/-- A category is read back from its wire value. -/
@[simp] theorem ofValue_value (category : LedgerCategory) : ofValue category.value = .ok category := by
  cases category <;> decide

end LedgerCategory

/-! ### The service -/

/-- The committed database with the columns the categorizer reads and writes: `suggested_category`
    of an entry, `whitelist_address` of a provider. -/
structure CategorizerDatabase extends TreasuryDatabase where
  suggestedCategory : Uuid → Option String
  whitelistAddress : Uuid → Option String

/-- The write of `row.suggested_category`. -/
def CategorizerDatabase.withSuggestion (db : CategorizerDatabase) (ledgerEntryId : Uuid)
    (suggestion : LedgerCategory) : CategorizerDatabase :=
  { db with
    suggestedCategory := Function.update db.suggestedCategory ledgerEntryId (some suggestion.value) }

/-- `_custodial_match`: wired, and without effect so far. -/
def custodialMatch (db : CategorizerDatabase) (row : LedgerEntryRow) : Option LedgerCategory :=
  if row.source ≠ .onchainTransaction then none
  else if (db.custodialProviders.rows.filterMap fun row => db.whitelistAddress row.id) = [] then none
  else none

/-- `_payment_request_match`: not implemented. -/
def paymentRequestMatch (_db : CategorizerDatabase) (_row : LedgerEntryRow) :
    Option LedgerCategory := none

/-- The first heuristic that fires. -/
def heuristics (db : CategorizerDatabase) (row : LedgerEntryRow) : Option LedgerCategory :=
  let suggestion := if row.direction = .internal then some LedgerCategory.internalTransfer else none
  (suggestion.or (custodialMatch db row)).or (paymentRequestMatch db row)

/-- `suggest_category`. -/
def suggestCategory (db : CategorizerDatabase) (ledgerEntryId : Uuid) (writeToDb : Bool) :
    Except PyError (CategorizerDatabase × Option LedgerCategory) :=
  match db.ledgerEntries.get? ledgerEntryId with
  | none => .ok (db, none)
  | some row =>
      match db.suggestedCategory ledgerEntryId with
      | some stored => (LedgerCategory.ofValue stored).map fun category => (db, some category)
      | none =>
          match heuristics db row with
          | none => .ok (db, none)
          | some suggestion =>
              if writeToDb then
                .ok (db.withSuggestion ledgerEntryId suggestion, some suggestion)
              else .ok (db, some suggestion)

/-! ### The subscriber -/

/-- What `UUID(str(value))` makes of a value under `ledger_entry_id`: an id, or a `ValueError`. -/
inductive EntryReference where
  | malformed (text : String)
  | entry (id : Uuid)
deriving DecidableEq

/-- The payload of `ledger_entry.requires_categorization`; an absent key is `none`. -/
structure CategorizationPayload where
  ledgerEntryId : Option EntryReference
  suggestedCategory : Option String
deriving DecidableEq

namespace CategorizerSuggester

/-- The topic the suggester subscribes to, and the one it publishes on. -/
def topic : String := "ledger_entry.requires_categorization"

/-- `_on_event`: the database it leaves, and what it publishes. -/
def onEvent (db : CategorizerDatabase) (event : Event CategorizationPayload) :
    CategorizerDatabase × List (Event CategorizationPayload) :=
  match event.payload.ledgerEntryId with
  | none => (db, [])
  | some (.malformed _) => (db, [])
  | some (.entry entryId) =>
      match suggestCategory db entryId true with
      -- Logged: one bad entry must not end the loop.
      | .error _ => (db, [])
      | .ok (committed, none) => (committed, [])
      | .ok (committed, some suggestion) =>
          (committed, [⟨topic, ⟨some (.entry entryId), some suggestion.value⟩⟩])

/-- What an event on the bus does while the suggester is subscribed. -/
def handle (db : CategorizerDatabase) (event : Event CategorizationPayload) :
    CategorizerDatabase × List (Event CategorizationPayload) :=
  if anyMatches [topic] event.topic then onEvent db event else (db, [])

end CategorizerSuggester

end TallyKeep
