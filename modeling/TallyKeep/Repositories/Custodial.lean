/-
Module: TallyKeep.Repositories.Custodial
Layer: Repositories
Purpose: The queries and writes of a poll cycle and of the reconciler on providers, on the ledger
  mirror and on executions.
Trusted boundary: translation of `repositories/custodial_provider.py`,
  `custodial_ledger_entry.py` and of `list_executions`.  `updated_at` is not modelled
Main exports: ConnectedProviderRepo, EntryField, CustodialLedgerEntryRepo, ExecutionListing,
  SweepExecutionRepo.listRequested
-/
import TallyKeep.Models.Custodial
import TallyKeep.Repositories.Treasury

namespace TallyKeep

open Relational

/-! ### Custodial providers -/

/-- The row after `update_balance`. -/
def ConnectedProviderRow.withBalance (row : ConnectedProviderRow) (balanceSats : Int)
    (polledAt : Timestamp) : ConnectedProviderRow :=
  { row with
    lastKnownBalanceSats := some balanceSats
    lastPolledAt := some polledAt
    lastError := none }

namespace ConnectedProviderRepo

/-- `get`. -/
def get (db : CustodialDatabase) (providerId : Uuid) :
    Except PyError (Option ConnectedProviderRow) :=
  match db.custodialProviders.get? providerId with
  | none => .ok none
  | some row => row.postInit.map fun _ => some row

/-- `list_active`. -/
def listActive (db : CustodialDatabase) : Except PyError (List ConnectedProviderRow) :=
  (db.custodialProviders.select ConnectedProviderRow.isActive).mapM fun row =>
    row.postInit.map fun _ => row

/-- The write behind each update of one provider. -/
def modify (db : CustodialDatabase) (providerId : Uuid)
    (f : ConnectedProviderRow → ConnectedProviderRow)
    (keeps : ∀ row, (f row).id = row.id := by intro; rfl) : CustodialDatabase :=
  { db with custodialProviders := db.custodialProviders.update providerId f keeps }

/-- `update_balance`, which loads the provider it has written. -/
def updateBalance (db : CustodialDatabase) (providerId : Uuid) (balanceSats : Int)
    (polledAt : Timestamp) : Except PyError CustodialDatabase :=
  match db.custodialProviders.get? providerId with
  | none => .ok db
  | some row =>
      (row.withBalance balanceSats polledAt).postInit.map fun _ =>
        modify db providerId fun row => row.withBalance balanceSats polledAt

/-- `update_connection_status`. -/
def updateConnectionStatus (db : CustodialDatabase) (providerId : Uuid) (status : ConnectionStatus)
    (consecutiveErrorCount : Nat) (polledAt : Timestamp) (error : Option String) :
    CustodialDatabase :=
  modify db providerId fun row =>
    { row with
      connectionStatus := status
      consecutiveErrorCount := consecutiveErrorCount
      lastPolledAt := some polledAt
      lastError := error.or row.lastError }

/-- `update_ledger_cursor`. -/
def updateLedgerCursor (db : CustodialDatabase) (providerId : Uuid) (cursorAt : Timestamp) :
    CustodialDatabase :=
  modify db providerId fun row => { row with ledgerCursorAt := some cursorAt }

/-- `get_ledger_cursor`. -/
def getLedgerCursor (db : CustodialDatabase) (providerId : Uuid) : Option Timestamp :=
  (db.custodialProviders.get? providerId).bind ConnectedProviderRow.ledgerCursorAt

/-- `update_non_btc_balances`. -/
def updateNonBtcBalances (db : CustodialDatabase) (providerId : Uuid)
    (balances : List (String × String)) : CustodialDatabase :=
  modify db providerId fun row => { row with nonBtcBalances := balances }

end ConnectedProviderRepo

/-! ### The ledger mirror -/

/-- The fields of an entry that an upsert overwrites. -/
inductive EntryField where
  | kind
  | amountSats
  | feeSats
  | status
  | rawPayload
deriving Repr, DecidableEq

/-- `mutable_fields`, in their order. -/
def EntryField.mutableFields : List EntryField :=
  [.kind, .amountSats, .feeSats, .status, .rawPayload]

/-- The two rows have another value in the field. -/
def EntryField.differs (field : EntryField) (existing row : CustodialLedgerEntryRow) : Bool :=
  match field with
  | .kind => existing.kind != row.kind
  | .amountSats => existing.amountSats != row.amountSats
  | .feeSats => existing.feeSats != row.feeSats
  | .status => existing.status != row.status
  | .rawPayload => existing.rawPayload != row.rawPayload

namespace CustodialLedgerEntryRow

/-- The stored row with the mutable fields of another. -/
def overwritten (existing row : CustodialLedgerEntryRow) : CustodialLedgerEntryRow :=
  { existing with
    kind := row.kind
    amountSats := row.amountSats
    feeSats := row.feeSats
    status := row.status
    rawPayload := row.rawPayload }

/-- The row after `set_reconciled`. -/
def reconciled (row : CustodialLedgerEntryRow)
    (sweepExecutionId counterpartyHoldingId chainLedgerEntryId : Option Uuid) (now : Timestamp) :
    CustodialLedgerEntryRow :=
  { row with
    linkedSweepExecutionId := sweepExecutionId
    linkedCounterpartyHoldingId := counterpartyHoldingId
    linkedChainLedgerEntryId := chainLedgerEntryId
    reconciledAt := some now }

/-- The row after `mark_unmatched`, which leaves the links as they are. -/
def unmatched (row : CustodialLedgerEntryRow) (now : Timestamp) : CustodialLedgerEntryRow :=
  { row with reconciledAt := some now }

end CustodialLedgerEntryRow

namespace CustodialLedgerEntryRepo

/-- `get_by_refid`. -/
def getByRefid (ledger : LedgerMirror) (custodialProviderId : Uuid) (providerEntryId : String) :
    Option CustodialLedgerEntryRow :=
  ledger.find? (custodialProviderId, providerEntryId)

/-- `changed`: what an upsert overwrites with another value. -/
def changedFields (existing row : CustodialLedgerEntryRow) : List EntryField :=
  EntryField.mutableFields.filter fun field => field.differs existing row

/-- The rows a session with `autoflush=False` has of the mirror: the stored ones, with what was
    written to them, and the added ones, which its queries do not find. -/
structure MirrorSession where
  stored : LedgerMirror
  added : List CustodialLedgerEntryRow

/-- What an upsert answers.  The row is the one in the session, so its id is all there is to it. -/
structure UpsertResult where
  rowId : Uuid
  isNew : Bool
  changedFields : List EntryField

/-- `upsert`. -/
def upsert (session : MirrorSession) (row : CustodialLedgerEntryRow) :
    MirrorSession × UpsertResult :=
  match getByRefid session.stored row.custodialProviderId row.providerEntryId with
  | none => ({ session with added := session.added ++ [row] }, ⟨row.id, true, []⟩)
  | some existing =>
      ({ session with
          stored := session.stored.update existing.id fun stored => stored.overwritten row },
        ⟨existing.id, false, changedFields existing row⟩)

/-- The commit of the session: one violated constraint refuses all that was added. -/
def commit (session : MirrorSession) : Except PyError LedgerMirror :=
  match session.stored.insertAll? session.added with
  | none => .error ⟨.integrityError, "uq_custodial_ledger_entry_provider_entry"⟩
  | some ledger => .ok ledger

/-- The writes to one entry. -/
def modify (db : CustodialDatabase) (entryId : Uuid)
    (f : CustodialLedgerEntryRow → CustodialLedgerEntryRow)
    (keeps : ∀ row, (f row).id = row.id := by intro; rfl)
    (keepsRefid : ∀ row, (f row).refid = row.refid := by intro; rfl) : CustodialDatabase :=
  { db with custodialLedger := db.custodialLedger.update entryId f keeps keepsRefid }

/-- `set_reconciled`. -/
def setReconciled (db : CustodialDatabase) (entryId : Uuid)
    (linkedSweepExecutionId linkedCounterpartyHoldingId linkedChainLedgerEntryId : Option Uuid)
    (now : Timestamp) : CustodialDatabase :=
  modify db entryId fun row =>
    row.reconciled linkedSweepExecutionId linkedCounterpartyHoldingId linkedChainLedgerEntryId now

/-- `mark_unmatched`. -/
def markUnmatched (db : CustodialDatabase) (entryId : Uuid) (now : Timestamp) :
    CustodialDatabase :=
  modify db entryId fun row => row.unmatched now

end CustodialLedgerEntryRepo

/-! ### Executions -/

/-- `ORDER BY triggered_at DESC`, which leaves the order of equal times to the database. -/
structure ExecutionListing where
  arrange : List SweepExecutionRow → List SweepExecutionRow
  perm : ∀ rows, (arrange rows).Perm rows
  sorted : ∀ rows, (arrange rows).Pairwise fun row later => later.triggeredAt ≤ row.triggeredAt

namespace SweepExecutionRepo

/-- `list_executions(status=REQUESTED, limit=limit)`. -/
def listRequested (listing : ExecutionListing) (db : CustodialDatabase) (limit : Nat) :
    List SweepExecutionRow :=
  (listing.arrange (db.sweepExecutions.select fun row =>
    decide (row.status = .requested))).take limit

end SweepExecutionRepo

end TallyKeep
