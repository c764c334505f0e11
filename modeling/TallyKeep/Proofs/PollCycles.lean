/-
Module: TallyKeep.Proofs.PollCycles
Layer: Proofs
Purpose: The specification of `poll_cycle`: what a cycle that succeeds has read, stored and
  published, and what the check of the withdrawals leaves alone.
Trusted boundary: none
Main exports: ConnectedProviderRow.observed, recordObservation_ok, ObservedCycle,
  observedCycle_of_ok, checkWithdrawalTxids_frame
-/
import TallyKeep.Api.InternalCustodial
import TallyKeep.Proofs.DryRuns

namespace TallyKeep

open Relational

/-! ### The provider that is polled -/

theorem activeProvider_ok {db : CustodialDatabase} {providerId : Uuid}
    {provider : ConnectedProviderRow} (run : activeProvider db providerId = .ok provider) :
    db.custodialProviders.get? providerId = some provider ∧ provider.isActive = true := by
  rw [activeProvider, ConnectedProviderRepo.get] at run
  cases found : db.custodialProviders.get? providerId with
  | none => simp [found, bind, Except.bind, throw, throwThe, MonadExceptOf.throw] at run
  | some row =>
      simp only [found] at run
      cases loads : row.postInit with
      | error error => simp [loads, bind, Except.bind, Except.map] at run
      | ok checked =>
          simp only [loads, Except.map, bind, Except.bind] at run
          split at run
          · next active =>
              cases run
              exact ⟨rfl, active⟩
          · cases run

/-- The provider after a cycle that has succeeded. -/
def ConnectedProviderRow.observed (row : ConnectedProviderRow) (seen : Observation)
    (polledAt : Timestamp) : ConnectedProviderRow :=
  { row with
    lastKnownBalanceSats := some seen.balanceSats
    lastPolledAt := some polledAt
    lastError := none
    nonBtcBalances := seen.otherBalances
    ledgerCursorAt := seen.newestTs.or row.ledgerCursorAt
    connectionStatus := .healthy
    consecutiveErrorCount := 0 }

theorem get?_modify (db : CustodialDatabase) (providerId : Uuid)
    (f : ConnectedProviderRow → ConnectedProviderRow) (keeps : ∀ row, (f row).id = row.id) :
    (ConnectedProviderRepo.modify db providerId f keeps).custodialProviders.get? providerId =
      (db.custodialProviders.get? providerId).map f := by
  have updated := Table.get?_update db.custodialProviders providerId providerId f keeps
  rw [if_pos rfl] at updated
  exact updated

/-- Only the row of the provider is written by a cycle that succeeds, besides the mirror. -/
theorem recordObservation_ok {env : PollEnv} {db db' : CustodialDatabase} {providerId : Uuid}
    {seen : Observation} {row : ConnectedProviderRow}
    (found : db.custodialProviders.get? providerId = some row)
    (run : recordObservation env db providerId seen = .ok db') :
    db' = { db with custodialProviders := db'.custodialProviders } ∧
      db'.custodialProviders.get? providerId = some (row.observed seen env.polledAt) := by
  rw [recordObservation, bind_ok_iff] at run
  obtain ⟨balanced, first, rest⟩ := run
  rw [ConnectedProviderRepo.updateBalance, found] at first
  cases loads : (row.withBalance seen.balanceSats env.polledAt).postInit with
  | error error =>
      simp only [loads, Except.map] at first
      cases first
  | ok checked =>
      simp only [loads, Except.map, Except.ok.injEq] at first
      subst first
      cases newest : seen.newestTs with
      | none =>
          simp only [newest] at rest
          cases rest
          refine ⟨rfl, ?_⟩
          simp [ConnectedProviderRepo.updateConnectionStatus,
            ConnectedProviderRepo.updateNonBtcBalances, get?_modify, found,
            ConnectedProviderRow.observed, ConnectedProviderRow.withBalance, newest]
      | some newestTs =>
          simp only [newest] at rest
          cases rest
          refine ⟨rfl, ?_⟩
          simp [ConnectedProviderRepo.updateConnectionStatus,
            ConnectedProviderRepo.updateNonBtcBalances, ConnectedProviderRepo.updateLedgerCursor,
            get?_modify, found, ConnectedProviderRow.observed, ConnectedProviderRow.withBalance,
            newest]

/-! ### A cycle that succeeds -/

/-- The session in which a cycle has gone through the entries of an observation. -/
def cycleSession (db : CustodialDatabase) (provider : ConnectedProviderRow) (seen : Observation) :
    CycleSession :=
  seen.newEntries.foldl (persistEntry provider) ⟨⟨db.custodialLedger, []⟩, []⟩

/-- A cycle of the provider has succeeded up to the check of the withdrawals. -/
structure ObservedCycle (env : PollEnv) (db : CustodialDatabase) (providerId : Uuid)
    (outcome : CycleOutcome) (provider : ConnectedProviderRow) (seen : Observation) : Prop where
  stored : db.custodialProviders.get? providerId = some provider
  active : provider.isActive = true
  asked : ∃ credentials, askProvider env db provider credentials = .ok seen
  tables : outcome.db =
    { db with
      custodialProviders := outcome.db.custodialProviders
      custodialLedger := outcome.db.custodialLedger }
  committed : CustodialLedgerEntryRepo.commit (cycleSession db provider seen).mirror =
    .ok outcome.db.custodialLedger
  recorded : outcome.db.custodialProviders.get? providerId =
    some (provider.observed seen env.polledAt)
  events : outcome.events = cycleEvents provider seen.balanceSats
    ((cycleSession db provider seen).mirror.added.map CustodialLedgerEntryRow.payload)
    (updatedPayloads outcome.db.custodialLedger (cycleSession db provider seen).updated)
    env.polledAt

section Cycles

variable {env : PollEnv} {db : CustodialDatabase} {providerId : Uuid}

theorem observedCycle_of_successful {provider : ConnectedProviderRow} {seen : Observation}
    {outcome : CycleOutcome} (stored : db.custodialProviders.get? providerId = some provider)
    (active : provider.isActive = true) {credentials : Credentials}
    (asked : askProvider env db provider credentials = .ok seen)
    (run : successfulCycle env db provider seen = .ok outcome) :
    ObservedCycle env db providerId outcome provider seen := by
  have sameId : provider.id = providerId := Table.key_of_get? stored
  rw [successfulCycle, bind_ok_iff] at run
  obtain ⟨recorded, written, rest⟩ := run
  rw [bind_ok_iff] at rest
  obtain ⟨ledger, committed, rest⟩ := rest
  rw [sameId] at written
  obtain ⟨tables, row⟩ := recordObservation_ok stored written
  cases rest
  refine ⟨stored, active, ⟨credentials, asked⟩, ?_, committed, row, rfl⟩
  rw [tables]

/-- The cycle is one that has asked a stored provider and committed what it was told. -/
theorem observedCycle_of_ok {out : PollCycleOut}
    (run : (observe env db providerId).answer = .ok out) :
    ∃ provider seen, ObservedCycle env db providerId (observe env db providerId) provider seen := by
  rw [observe] at run ⊢
  cases found : activeProvider db providerId with
  | error error =>
      simp only [found] at run
      cases run
  | ok provider =>
      obtain ⟨stored, active⟩ := activeProvider_ok found
      simp only [found] at run ⊢
      cases secrets : pollCredentials env provider with
      | error error =>
          simp only [secrets] at run
          cases run
      | ok credentials =>
          simp only [secrets, pollProvider] at run ⊢
          cases asked : askProvider env db provider credentials with
          | error error =>
              simp only [asked, failedCycle] at run
              split at run
              · cases run
              · split at run <;> cases run
          | ok seen =>
              simp only [asked] at run ⊢
              cases done : successfulCycle env db provider seen with
              | error error =>
                  simp only [done] at run
                  cases run
              | ok outcome =>
                  exact ⟨provider, seen, observedCycle_of_successful stored active asked done⟩

/-- A cycle that fails has recorded the failure, or nothing. -/
theorem observe_of_error {error : PyError}
    (failed : (observe env db providerId).answer = .error error) :
    (observe env db providerId).db = db ∨
      ∃ provider error, (observe env db providerId).db = (failedCycle env db provider error).db := by
  rw [observe] at failed ⊢
  cases found : activeProvider db providerId with
  | error error => exact .inl rfl
  | ok provider =>
      simp only [found] at failed ⊢
      cases secrets : pollCredentials env provider with
      | error error => exact .inl rfl
      | ok credentials =>
          simp only [secrets, pollProvider] at failed ⊢
          cases asked : askProvider env db provider credentials with
          | error error => exact .inr ⟨provider, error, rfl⟩
          | ok seen =>
              simp only [asked] at failed ⊢
              cases done : successfulCycle env db provider seen with
              | error error => exact .inl rfl
              | ok outcome =>
                  rw [done] at failed
                  rw [successfulCycle, bind_ok_iff] at done
                  obtain ⟨_, _, done⟩ := done
                  rw [bind_ok_iff] at done
                  obtain ⟨_, _, done⟩ := done
                  cases done
                  cases failed

/-- A failure is recorded with the provider. -/
theorem failedCycle_tables (env : PollEnv) (db : CustodialDatabase)
    (provider : ConnectedProviderRow) (error : PyError) :
    (failedCycle env db provider error).db =
      { db with
        custodialProviders := (failedCycle env db provider error).db.custodialProviders } := by
  simp only [failedCycle, handleAuthError, handleTransientError]
  repeat' split
  all_goals rfl

/-- Up to the check of the withdrawals a cycle writes providers and the mirror only. -/
theorem observe_tables (env : PollEnv) (db : CustodialDatabase) (providerId : Uuid) :
    (observe env db providerId).db =
      { db with
        custodialProviders := (observe env db providerId).db.custodialProviders
        custodialLedger := (observe env db providerId).db.custodialLedger } := by
  cases run : (observe env db providerId).answer with
  | ok out =>
      obtain ⟨provider, seen, cycle⟩ := observedCycle_of_ok run
      exact cycle.tables
  | error error =>
      rcases observe_of_error run with same | ⟨provider, error, same⟩
      · rw [same]
      · rw [same, failedCycle_tables]

/-! ### The check of the withdrawals -/

/-- A check writes executions only. -/
theorem recordTxids_frame (db : CustodialDatabase) (updates : List (Uuid × String)) :
    recordTxids db updates =
      { db with sweepExecutions := (recordTxids db updates).sweepExecutions } := by
  rw [recordTxids]
  induction updates generalizing db with
  | nil => rfl
  | cons update rest inductionHypothesis =>
      rw [List.foldl_cons, inductionHypothesis]
      rfl

theorem checkWithdrawalTxids_frame (env : PollEnv) (db : CustodialDatabase) :
    checkWithdrawalTxids env db =
      { db with sweepExecutions := (checkWithdrawalTxids env db).sweepExecutions } := by
  rw [checkWithdrawalTxids]
  split
  · rfl
  · exact recordTxids_frame db _

/-- A check creates and deletes no execution. -/
theorem recordTxids_ids (db : CustodialDatabase) (updates : List (Uuid × String)) :
    (recordTxids db updates).sweepExecutions.rows.map SweepExecutionRow.id =
      db.sweepExecutions.rows.map SweepExecutionRow.id := by
  rw [recordTxids]
  induction updates generalizing db with
  | nil => rfl
  | cons update rest inductionHypothesis =>
      rw [List.foldl_cons, inductionHypothesis]
      simp only [recordTxid, SweepExecutionRepo.updateStatus, Table.update, Table.rows_updateAll,
        List.map_map]
      apply List.map_congr_left
      intro row _
      simp only [Function.comp_apply]
      split <;> rfl

theorem checkWithdrawalTxids_ids (env : PollEnv) (db : CustodialDatabase) :
    (checkWithdrawalTxids env db).sweepExecutions.rows.map SweepExecutionRow.id =
      db.sweepExecutions.rows.map SweepExecutionRow.id := by
  rw [checkWithdrawalTxids]
  split
  · rfl
  · exact recordTxids_ids db _

@[simp] theorem pollCycle_answer (env : PollEnv) (db : CustodialDatabase) (providerId : Uuid) :
    (pollCycle env db providerId).answer = (observe env db providerId).answer := by
  simp only [pollCycle]
  split <;> rfl

@[simp] theorem pollCycle_events (env : PollEnv) (db : CustodialDatabase) (providerId : Uuid) :
    (pollCycle env db providerId).events = (observe env db providerId).events := by
  simp only [pollCycle]
  split <;> rfl

theorem pollCycle_db_of_ok {out : PollCycleOut}
    (run : (observe env db providerId).answer = .ok out) :
    (pollCycle env db providerId).db =
      checkWithdrawalTxids env (observe env db providerId).db := by
  simp only [pollCycle, run]

theorem pollCycle_db_of_error {error : PyError}
    (run : (observe env db providerId).answer = .error error) :
    (pollCycle env db providerId).db = (observe env db providerId).db := by
  simp only [pollCycle, run]

/-- The check leaves the providers and the mirror as the cycle has committed them. -/
theorem pollCycle_tables (env : PollEnv) (db : CustodialDatabase) (providerId : Uuid) :
    (pollCycle env db providerId).db.custodialProviders =
        (observe env db providerId).db.custodialProviders ∧
      (pollCycle env db providerId).db.custodialLedger =
        (observe env db providerId).db.custodialLedger := by
  cases run : (observe env db providerId).answer with
  | error error =>
      rw [pollCycle_db_of_error run]
      exact ⟨rfl, rfl⟩
  | ok out =>
      rw [pollCycle_db_of_ok run, checkWithdrawalTxids_frame]
      exact ⟨rfl, rfl⟩

end Cycles

/-! ### A sample provider -/

/-- The latest first, and what was triggered at one time in the order of the table. -/
def ExecutionListing.latestFirst : ExecutionListing where
  arrange rows := rows.insertionSort fun row later => later.triggeredAt ≤ row.triggeredAt
  perm rows := List.perm_insertionSort _ rows
  sorted rows :=
    have : Std.Total fun row later : SweepExecutionRow => later.triggeredAt ≤ row.triggeredAt :=
      ⟨fun row later => Nat.le_total later.triggeredAt row.triggeredAt⟩
    have : IsTrans SweepExecutionRow fun row later => later.triggeredAt ≤ row.triggeredAt :=
      ⟨fun _ _ _ first second => Nat.le_trans second first⟩
    List.pairwise_insertionSort _ rows

/-- The sample provider, which was never polled. -/
def sampleConnected : ConnectedProviderRow where
  toCustodialProviderRow := sampleProvider
  isActive := true
  lastPolledAt := none
  lastError := none
  connectionStatus := .healthy
  consecutiveErrorCount := 0
  ledgerCursorAt := none
  nonBtcBalances := []

/-- The sample provider beside the tables of a treasury, with nothing mirrored. -/
def sampleConnectedTo (treasury : TreasuryDatabase) : CustodialDatabase where
  toDatabase := treasury.toDatabase
  sweepPolicies := treasury.sweepPolicies
  custodialProviders := ⟨[sampleConnected], by decide⟩
  custodialLedger := .empty

/-- An exchange with 100,000 satoshis, whose ledger is one page. -/
def sampleExchange (page : List RawLedgerItem) : Exchange where
  fetchFreeBtc := .ok (some (1 / 1000))
  fetchTotals := .ok []
  fetchLedger _ _ := .ok (some page)
  fetchTransactions _ _ := .ok none

/-- A withdrawal of satoshis as ccxt reports it, without a fee. -/
def sampleItem (id : String) (amountSats timestamp : Nat) : RawLedgerItem where
  id := some id
  referenceId := some ("ref " ++ id)
  currency := some "BTC"
  type := some "withdrawal"
  direction := some "out"
  amount := some (Binary64.toDouble (amountSats / 100000000))
  fee := none
  timestamp := some timestamp
  status := some "ok"
  others := ""

/-- The sample treasury after a manual execution of an hour's age that has asked for a withdrawal. -/
def sampleSwept (amountSats : Int) : TreasuryDatabase :=
  treasuryStep sampleBdk (sampleEnabled 30 false)
    (.executeSweepNow sampleCustody sampleMetadata 1 (some amountSats) hour)

/-- A cycle of the sample provider. -/
def samplePollEnv (exchange : Exchange) : PollEnv where
  custody := sampleCustody
  exchange := exchange
  polledAt := hour
  checkedAt := hour
  listing := .latestFirst

end TallyKeep
