/-
Module: TallyKeep.Api.InternalCustodial
Layer: Api
Purpose: `poll_cycle`: what one cycle stores, publishes and answers, and the check of the
  withdrawals that follows it.
Trusted boundary: translation of `api/v1/internal_custodial.py` with a bus.  The
  details of the HTTP errors stand for their status codes; publishing does not fail.
  `BitstampAdapter` defines no `fetch_ledger_since`, which is abstract in its base class
Main exports: EntryPayload, CustodialPayload, PollEnv, Observation, CycleOutcome,
  handleAuthError, handleTransientError, cycleEvents, observe, reportedTxid, txidUpdates,
  recordTxids, checkWithdrawalTxids, pollCycle
-/
import TallyKeep.Adapters.Kraken
import TallyKeep.Infrastructure.EventBus
import TallyKeep.Repositories.Custodial
import TallyKeep.Services.Treasury

namespace TallyKeep

open Relational

/-! ### Events -/

/-- `_entry_payload`. -/
structure EntryPayload where
  id : Uuid
  providerEntryId : String
  kind : CustodialLedgerKind
  asset : String
  amountSats : Int
  feeSats : Option Int
  status : String
  timestamp : Timestamp
deriving DecidableEq

def CustodialLedgerEntryRow.payload (row : CustodialLedgerEntryRow) : EntryPayload :=
  ⟨row.id, row.providerEntryId, row.kind, row.asset, row.amountSats, row.feeSats, row.status,
    row.timestamp⟩

/-- The payloads of the events of a cycle. -/
inductive CustodialPayload where
  | cycleCompleted (holdingId providerId : Uuid) (observedAt : Timestamp) (balanceSats : Int)
      (newLedgerEntries : List EntryPayload)
  | ledgerEntryAdded (holdingId providerId : Uuid) (observedAt : Timestamp) (balanceSats : Int)
      (entry : EntryPayload)
  | ledgerEntryUpdated (holdingId providerId : Uuid) (observedAt : Timestamp)
      (entry : EntryPayload) (changedFields : List EntryField)
  | connectionStateChanged (holdingId providerId : Uuid) (oldStatus newStatus : ConnectionStatus)
deriving DecidableEq

namespace CustodialPayload

/-- `payload.get("holding_id")`. -/
def holdingId : CustodialPayload → Uuid
  | cycleCompleted holdingId _ _ _ _ => holdingId
  | ledgerEntryAdded holdingId _ _ _ _ => holdingId
  | ledgerEntryUpdated holdingId _ _ _ _ => holdingId
  | connectionStateChanged holdingId _ _ _ => holdingId

/-- `payload.get("balance_sats")`. -/
def balanceSats : CustodialPayload → Option Int
  | cycleCompleted _ _ _ balanceSats _ => some balanceSats
  | ledgerEntryAdded _ _ _ balanceSats _ => some balanceSats
  | ledgerEntryUpdated _ _ _ _ _ => none
  | connectionStateChanged _ _ _ _ => none

/-- `payload.get("entry")`. -/
def entry : CustodialPayload → Option EntryPayload
  | cycleCompleted _ _ _ _ _ => none
  | ledgerEntryAdded _ _ _ _ entry => some entry
  | ledgerEntryUpdated _ _ _ entry _ => some entry
  | connectionStateChanged _ _ _ _ => none

end CustodialPayload

abbrev CustodialEvent := Event CustodialPayload

/-- `_emit_connection_state_changed`, for the provider as the cycle has read it. -/
def connectionStateChanged (provider : ConnectedProviderRow) (newStatus : ConnectionStatus) :
    CustodialEvent :=
  ⟨"treasury.custodial.connection_state_changed",
    .connectionStateChanged provider.holdingId provider.id provider.connectionStatus newStatus⟩

/-! ### Asking the provider -/

/-- What one cycle finds outside the database: the secret store and the registry, the answers of the
    exchange, the clock, and the order in which executions are listed. -/
structure PollEnv where
  custody : Custody
  exchange : Exchange
  polledAt : Timestamp
  checkedAt : Timestamp
  listing : ExecutionListing

/-- `build_adapter`: of the two classes of the registry one is abstract. -/
def constructAdapter (env : PollEnv) (adapterId : String) (credentials : Credentials) :
    Except PyError Exchange :=
  if adapterId = "bitstamp" then
    .error ⟨.typeError, "Can't instantiate abstract class BitstampAdapter without an " ++
      "implementation for abstract method 'fetch_ledger_since'"⟩
  else (buildAdapter env.custody adapterId credentials).map fun _ => env.exchange

/-- What a provider has told a cycle. -/
structure Observation where
  balanceSats : Int
  otherBalances : List (String × String)
  newEntries : List CustodialLedgerEntry
  newestTs : Option Timestamp

/-- The calls of a cycle to the provider. -/
def askProvider (env : PollEnv) (db : CustodialDatabase) (provider : ConnectedProviderRow)
    (credentials : Credentials) : Except PyError Observation := do
  let exchange ← constructAdapter env provider.adapterId credentials
  let balanceSats ← Kraken.getBalance exchange
  let otherBalances ← Kraken.getOtherBalances exchange
  let cursor := ConnectedProviderRepo.getLedgerCursor db provider.id
  let (newEntries, newestTs) ← Kraken.fetchLedgerSince exchange cursor
  return ⟨balanceSats, otherBalances, newEntries, newestTs⟩

/-! ### A cycle that fails -/

/-- `_N_UNREACHABLE`. -/
def nUnreachable : Nat := 5

/-- `_handle_auth_error`. -/
def handleAuthError (db : CustodialDatabase) (provider : ConnectedProviderRow) (error : String)
    (polledAt : Timestamp) : CustodialDatabase :=
  if provider.connectionStatus = .authFailed then db
  else
    ConnectedProviderRepo.updateConnectionStatus db provider.id .authFailed 0 polledAt (some error)

/-- The status after one more transient error. -/
def ConnectedProviderRow.statusAfterError (provider : ConnectedProviderRow) : ConnectionStatus :=
  if nUnreachable ≤ provider.consecutiveErrorCount + 1 then .unreachable
  else if provider.connectionStatus = .healthy then .degraded
  else provider.connectionStatus

/-- `_handle_transient_error`. -/
def handleTransientError (db : CustodialDatabase) (provider : ConnectedProviderRow)
    (error : String) (polledAt : Timestamp) : CustodialDatabase × ConnectionStatus :=
  if provider.connectionStatus = .authFailed then (db, .authFailed)
  else
    (ConnectedProviderRepo.updateConnectionStatus db provider.id provider.statusAfterError
        (provider.consecutiveErrorCount + 1) polledAt (some error),
      provider.statusAfterError)

/-- The body of the answer. -/
structure PollCycleOut where
  rowsAdded : Nat
  rowsUpdated : Nat
  rowsUnchanged : Nat
  lastPolledAt : Timestamp
  connectionStatus : ConnectionStatus
deriving DecidableEq

/-- How a cycle ends: the committed database, the published events, the answer. -/
structure CycleOutcome where
  db : CustodialDatabase
  events : List CustodialEvent
  answer : Except PyError PollCycleOut

/-- A cycle whose calls to the provider have raised; an exception of a class that is not caught
    leaves everything as it is. -/
def failedCycle (env : PollEnv) (db : CustodialDatabase) (provider : ConnectedProviderRow)
    (error : PyError) : CycleOutcome :=
  if error.cls = .providerAuthError then
    ⟨handleAuthError db provider error.message env.polledAt,
      [connectionStateChanged provider .authFailed],
      .error ⟨.httpException, "Provider auth error: " ++ error.message⟩⟩
  else if error.cls = .providerError ∨ error.cls = .unsupportedAdapterError then
    let (db, newStatus) := handleTransientError db provider error.message env.polledAt
    ⟨db,
      if provider.connectionStatus ≠ newStatus then [connectionStateChanged provider newStatus]
      else [],
      .error ⟨.httpException, "Provider error: " ++ error.message⟩⟩
  else ⟨db, [], .error error⟩

/-! ### A cycle that succeeds -/

/-- The row of an entry; the links are set later. -/
def entryRow (provider : ConnectedProviderRow) (entryId : Uuid) (entry : CustodialLedgerEntry) :
    CustodialLedgerEntryRow where
  id := entryId
  holdingId := provider.holdingId
  custodialProviderId := provider.id
  providerEntryId := entry.providerEntryId
  kind := entry.kind
  asset := entry.asset
  amountSats := satsOf entry.amount
  feeSats := entry.fee.map satsOf
  status := entry.status
  timestamp := entry.timestamp
  rawPayload := entry.raw
  linkedSweepExecutionId := none
  linkedCounterpartyHoldingId := none
  linkedChainLedgerEntryId := none
  reconciledAt := none

/-- The session of a cycle, and the entries it has changed. -/
structure CycleSession where
  mirror : CustodialLedgerEntryRepo.MirrorSession
  updated : List (Uuid × List EntryField)

/-- One round of the loop over the new entries. -/
def persistEntry (provider : ConnectedProviderRow) (session : CycleSession)
    (entry : CustodialLedgerEntry) : CycleSession :=
  let entryId := session.mirror.stored.table.freshKey + session.mirror.added.length
  let (mirror, result) :=
    CustodialLedgerEntryRepo.upsert session.mirror (entryRow provider entryId entry)
  ⟨mirror,
    if result.changedFields = [] then session.updated
    else session.updated ++ [(result.rowId, result.changedFields)]⟩

/-- The writes to the provider. -/
def recordObservation (env : PollEnv) (db : CustodialDatabase) (providerId : Uuid)
    (seen : Observation) : Except PyError CustodialDatabase := do
  let db ← ConnectedProviderRepo.updateBalance db providerId seen.balanceSats env.polledAt
  let db := ConnectedProviderRepo.updateNonBtcBalances db providerId seen.otherBalances
  let db :=
    match seen.newestTs with
    | none => db
    | some newestTs => ConnectedProviderRepo.updateLedgerCursor db providerId newestTs
  return ConnectedProviderRepo.updateConnectionStatus db providerId .healthy 0 env.polledAt none

/-- `_emit_cycle_events`. -/
def cycleEvents (provider : ConnectedProviderRow) (balanceSats : Int)
    (added : List EntryPayload) (updated : List (EntryPayload × List EntryField))
    (polledAt : Timestamp) : List CustodialEvent :=
  ⟨"treasury.custodial.cycle_completed",
      .cycleCompleted provider.holdingId provider.id polledAt balanceSats added⟩ ::
    (added.map fun entry => ⟨"treasury.custodial.ledger_entry_added",
      .ledgerEntryAdded provider.holdingId provider.id polledAt balanceSats entry⟩) ++
    (updated.map fun (entry, changed) => ⟨"treasury.custodial.ledger_entry_updated",
      .ledgerEntryUpdated provider.holdingId provider.id polledAt entry changed⟩) ++
    if provider.connectionStatus ≠ .healthy then [connectionStateChanged provider .healthy] else []

/-- The payloads of changed entries, which show what the session has made of the rows. -/
def updatedPayloads (ledger : LedgerMirror) (updated : List (Uuid × List EntryField)) :
    List (EntryPayload × List EntryField) :=
  updated.filterMap fun (entryId, changed) =>
    (ledger.get? entryId).map fun row => (row.payload, changed)

/-- What a cycle does with an observation, up to its events. -/
def successfulCycle (env : PollEnv) (db : CustodialDatabase) (provider : ConnectedProviderRow)
    (seen : Observation) : Except PyError CycleOutcome := do
  let session := seen.newEntries.foldl (persistEntry provider) ⟨⟨db.custodialLedger, []⟩, []⟩
  let recorded ← recordObservation env db provider.id seen
  let ledger ← CustodialLedgerEntryRepo.commit session.mirror
  let added := session.mirror.added.map CustodialLedgerEntryRow.payload
  let answer : PollCycleOut :=
    { rowsAdded := session.mirror.added.length
      rowsUpdated := session.updated.length
      rowsUnchanged :=
        seen.newEntries.length - session.mirror.added.length - session.updated.length
      lastPolledAt := env.polledAt
      connectionStatus := .healthy }
  return ⟨{ recorded with custodialLedger := ledger },
    cycleEvents provider seen.balanceSats added (updatedPayloads ledger session.updated)
      env.polledAt, .ok answer⟩

/-- A cycle of a provider whose credentials are there. -/
def pollProvider (env : PollEnv) (db : CustodialDatabase) (provider : ConnectedProviderRow)
    (credentials : Credentials) : CycleOutcome :=
  match askProvider env db provider credentials with
  | .error error => failedCycle env db provider error
  | .ok seen =>
      match successfulCycle env db provider seen with
      | .error error => ⟨db, [], .error error⟩
      | .ok outcome => outcome

/-- The provider a cycle polls. -/
def activeProvider (db : CustodialDatabase) (providerId : Uuid) :
    Except PyError ConnectedProviderRow := do
  match ← ConnectedProviderRepo.get db providerId with
  | none => throw ⟨.httpException, "Provider not found or archived"⟩
  | some provider =>
      if provider.isActive then return provider
      else throw ⟨.httpException, "Provider not found or archived"⟩

/-- The credentials of a provider; a store that has not got them or is locked is reported. -/
def pollCredentials (env : PollEnv) (provider : ConnectedProviderRow) :
    Except PyError Credentials :=
  match readCredentials env.custody provider.toCustodialProviderRow with
  | .ok credentials => .ok credentials
  | .error error =>
      if error.cls = .keyError ∨ error.cls = .lockedError then
        .error ⟨.httpException, "Secrets unavailable"⟩
      else .error error

/-- `poll_cycle` up to the check of the withdrawals. -/
def observe (env : PollEnv) (db : CustodialDatabase) (providerId : Uuid) : CycleOutcome :=
  match activeProvider db providerId with
  | .error error => ⟨db, [], .error error⟩
  | .ok provider =>
      match pollCredentials env provider with
      | .error error => ⟨db, [], .error error⟩
      | .ok credentials => pollProvider env db provider credentials

/-! ### The check of the withdrawals -/

/-- `txid_by_withdrawal_id.get(withdrawal_id)`: of several reports on one id the last counts. -/
def reportedTxid (withdrawals : List Withdrawal) (withdrawalId : String) : Option String :=
  withdrawals.reverse.findSome? fun withdrawal =>
    if withdrawal.id = some withdrawalId then nonEmpty withdrawal.txid else none

/-- The executions a check has something to record for, among the 100 it lists. -/
def txidUpdates (listing : ExecutionListing) (db : CustodialDatabase)
    (withdrawals : List Withdrawal) : List (Uuid × String) :=
  (SweepExecutionRepo.listRequested listing db 100).filterMap fun execution =>
    (execution.providerWithdrawalId.bind (reportedTxid withdrawals)).map fun txid =>
      (execution.id, txid)

/-- The write to one execution. -/
def recordTxid (db : CustodialDatabase) (update : Uuid × String) : CustodialDatabase :=
  { db with
    toDatabase := SweepExecutionRepo.updateStatus db.toDatabase update.1 .onchainPending none
      (some update.2) none none none }

/-- The commit of a check. -/
def recordTxids (db : CustodialDatabase) (updates : List (Uuid × String)) : CustodialDatabase :=
  updates.foldl recordTxid db

/-- `timedelta(days=7)`. -/
def week : Timestamp := 7 * 24 * hour

/-- `_check_withdrawal_txids`, and the `except` around its call: a check that raises writes
    nothing. -/
def checkWithdrawalTxids (env : PollEnv) (db : CustodialDatabase) : CustodialDatabase :=
  match Kraken.getRecentWithdrawals env.exchange (env.checkedAt - week) with
  | .error _ => db
  | .ok withdrawals => recordTxids db (txidUpdates env.listing db withdrawals)

/-- `poll_cycle`. -/
def pollCycle (env : PollEnv) (db : CustodialDatabase) (providerId : Uuid) : CycleOutcome :=
  let cycle := observe env db providerId
  match cycle.answer with
  | .error _ => cycle
  | .ok _ => { cycle with db := checkWithdrawalTxids env cycle.db }

end TallyKeep
