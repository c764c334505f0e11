/-
Module: TallyKeep.Proofs.ConnectionStates
Layer: Proofs
Purpose: The connection of a provider along any sequence of poll cycles: the machine that the
  cycles run, its state as a function of what has happened since the last success, and when the
  stored status and the events follow the errors.
Trusted boundary: none
Main exports: CycleResult, cycleResult, Connection.next, Connection.announces,
  pollCycle_connection, connectionAfter_eq, statusOf, ConnectionStep, connectionTracked_iff
-/
import TallyKeep.Library.Transition
import TallyKeep.Proofs.PollCycles

namespace TallyKeep

open Relational Transition

/-! ### How a cycle ends -/

inductive CycleResult where
  | success
  | authError
  | rateLimitError
  | providerError
deriving Repr, DecidableEq

/-- The error of a provider, when it is one of the kinds a cycle can end with. -/
def CycleResult.ofError (error : PyError) : Option CycleResult :=
  match error.cls with
  | .providerAuthError => some .authError
  | .providerRateLimitError => some .rateLimitError
  | .providerError => some .providerError
  | .unsupportedAdapterError => some .providerError
  | _ => none

/-- How the cycle of a provider ends: with an observation that is stored, or with one of the errors
    of providers. -/
def cycleResult (env : PollEnv) (db : CustodialDatabase) (providerId : Uuid) : Option CycleResult :=
  match activeProvider db providerId with
  | .error _ => none
  | .ok provider =>
      match pollCredentials env provider with
      | .error _ => none
      | .ok credentials =>
          match askProvider env db provider credentials with
          | .error error => CycleResult.ofError error
          | .ok seen =>
              match successfulCycle env db provider seen with
              | .error _ => none
              | .ok _ => some .success

/-! ### The machine -/

/-- The two columns of a connection. -/
structure Connection where
  status : ConnectionStatus
  errors : Nat
deriving DecidableEq

def ConnectedProviderRow.connection (row : ConnectedProviderRow) : Connection :=
  ⟨row.connectionStatus, row.consecutiveErrorCount⟩

namespace Connection

/-- A provider that was never polled. -/
def new : Connection := ⟨.healthy, 0⟩

/-- The status after one more error of the provider. -/
def worse (connection : Connection) : ConnectionStatus :=
  if nUnreachable ≤ connection.errors + 1 then .unreachable
  else if connection.status = .healthy then .degraded
  else connection.status

/-- What a cycle makes of a connection. -/
def next (connection : Connection) : CycleResult → Connection
  | .success => ⟨.healthy, 0⟩
  | .authError => if connection.status = .authFailed then connection else ⟨.authFailed, 0⟩
  | .rateLimitError => connection
  | .providerError =>
      if connection.status = .authFailed then connection
      else ⟨connection.worse, connection.errors + 1⟩

/-- A cycle publishes a change of the connection. -/
def announces (connection : Connection) : CycleResult → Bool
  | .success => decide (connection.status ≠ .healthy)
  | .authError => true
  | .rateLimitError => false
  | .providerError => decide (connection.status ≠ (connection.next .providerError).status)

end Connection

/-- The changes of the connection among some events. -/
def connectionChanges (events : List CustodialEvent) : List CustodialEvent :=
  events.filter fun event => decide (event.topic = "treasury.custodial.connection_state_changed")

theorem connectionChanges_cycleEvents (provider : ConnectedProviderRow) (balanceSats : Int)
    (added : List EntryPayload) (updated : List (EntryPayload × List EntryField))
    (polledAt : Timestamp) :
    connectionChanges (cycleEvents provider balanceSats added updated polledAt) =
      if provider.connectionStatus ≠ .healthy then [connectionStateChanged provider .healthy]
      else [] := by
  rw [connectionChanges, cycleEvents, List.filter_append, List.filter_eq_nil_iff.mpr,
    List.nil_append]
  · split <;> rfl
  · intro event member
    simp only [List.cons_append, List.mem_cons, List.mem_append, List.mem_map] at member
    rcases member with rfl | ⟨entry, -, rfl⟩ | ⟨entry, -, rfl⟩ <;> simp

section Cycle

variable {env : PollEnv} {db : CustodialDatabase} {providerId : Uuid}

theorem get?_updateConnectionStatus (db : CustodialDatabase) (providerId : Uuid)
    (status : ConnectionStatus) (errors : Nat) (polledAt : Timestamp) (error : Option String) :
    (ConnectedProviderRepo.updateConnectionStatus db providerId status errors polledAt
        error).custodialProviders.get? providerId =
      (db.custodialProviders.get? providerId).map fun row =>
        { row with
          connectionStatus := status
          consecutiveErrorCount := errors
          lastPolledAt := some polledAt
          lastError := error.or row.lastError } :=
  get?_modify db providerId _ _

theorem handleAuthError_connection {provider : ConnectedProviderRow}
    (stored : db.custodialProviders.get? providerId = some provider) (error : String)
    (polledAt : Timestamp) :
    ∃ row, (handleAuthError db provider error polledAt).custodialProviders.get? providerId =
        some row ∧
      row.connection = provider.connection.next .authError := by
  have sameId : provider.id = providerId := Table.key_of_get? stored
  rw [handleAuthError, Connection.next]
  by_cases failed : provider.connectionStatus = .authFailed
  · rw [if_pos failed]
    exact ⟨provider, stored, (if_pos failed).symm⟩
  · rw [if_neg failed, sameId, get?_updateConnectionStatus, stored]
    exact ⟨_, rfl, (if_neg failed).symm⟩

theorem handleTransientError_connection {provider : ConnectedProviderRow}
    (stored : db.custodialProviders.get? providerId = some provider) (error : String)
    (polledAt : Timestamp) :
    ∃ row, (handleTransientError db provider error polledAt).1.custodialProviders.get? providerId =
        some row ∧
      row.connection = provider.connection.next .providerError ∧
      (handleTransientError db provider error polledAt).2 = row.connectionStatus := by
  have sameId : provider.id = providerId := Table.key_of_get? stored
  rw [handleTransientError, Connection.next]
  by_cases failed : provider.connectionStatus = .authFailed
  · rw [if_pos failed]
    exact ⟨provider, stored, (if_pos failed).symm, failed.symm⟩
  · rw [if_neg failed, sameId]
    simp only [get?_updateConnectionStatus, stored]
    exact ⟨_, rfl, (if_neg failed).symm, rfl⟩

/-- What a cycle that has failed leaves and publishes. -/
theorem failedCycle_connection (env : PollEnv) {provider : ConnectedProviderRow}
    (stored : db.custodialProviders.get? providerId = some provider) {error : PyError}
    {result : CycleResult} (kind : CycleResult.ofError error = some result) :
    ∃ row, (failedCycle env db provider error).db.custodialProviders.get? providerId = some row ∧
      row.connection = provider.connection.next result ∧
      connectionChanges (failedCycle env db provider error).events =
        if provider.connection.announces result then
          [connectionStateChanged provider row.connectionStatus]
        else [] := by
  have transient : error.cls = .providerError ∨ error.cls = .unsupportedAdapterError →
      ∃ row, (failedCycle env db provider error).db.custodialProviders.get? providerId = some row ∧
        row.connection = provider.connection.next .providerError ∧
        connectionChanges (failedCycle env db provider error).events =
          if provider.connection.announces .providerError then
            [connectionStateChanged provider row.connectionStatus]
          else [] := by
    intro caught
    have other : error.cls ≠ .providerAuthError := by
      rcases caught with cls | cls <;> rw [cls] <;> decide
    obtain ⟨row, found, moved, status⟩ :=
      handleTransientError_connection stored error.message env.polledAt
    rw [failedCycle, if_neg other, if_pos caught]
    refine ⟨row, found, moved, ?_⟩
    simp only [Connection.announces, ← moved, status, decide_eq_true_iff]
    change connectionChanges (if provider.connectionStatus ≠ row.connectionStatus then _ else _) =
      if provider.connectionStatus ≠ row.connectionStatus then _ else _
    split <;> rfl
  rw [CycleResult.ofError] at kind
  split at kind
  next cls =>
    cases kind
    obtain ⟨row, found, moved⟩ := handleAuthError_connection stored error.message env.polledAt
    rw [failedCycle, if_pos cls]
    refine ⟨row, found, moved, ?_⟩
    have failed : row.connectionStatus = .authFailed := by
      change row.connection.status = .authFailed
      rw [moved, Connection.next]
      split
      · next already => exact already
      · rfl
    rw [failed]
    rfl
  next cls =>
    cases kind
    have uncaught : failedCycle env db provider error = ⟨db, [], .error error⟩ := by
      simp [failedCycle, cls]
    rw [uncaught]
    exact ⟨provider, stored, rfl, rfl⟩
  next cls =>
    cases kind
    exact transient (.inl cls)
  next cls =>
    cases kind
    exact transient (.inr cls)
  next =>
    cases kind

/-- Every cycle runs the machine: it moves the columns of the connection as the machine does, and
    publishes a change exactly when the machine announces one, from the status before to the status
    after. -/
theorem pollCycle_connection {result : CycleResult}
    (ended : cycleResult env db providerId = some result) :
    ∃ provider row, db.custodialProviders.get? providerId = some provider ∧
      (pollCycle env db providerId).db.custodialProviders.get? providerId = some row ∧
      row.connection = provider.connection.next result ∧
      connectionChanges (pollCycle env db providerId).events =
        if provider.connection.announces result then
          [connectionStateChanged provider row.connectionStatus]
        else [] := by
  have tables := pollCycle_tables env db providerId
  rw [tables.1, pollCycle_events, observe]
  rw [cycleResult] at ended
  cases found : activeProvider db providerId with
  | error error =>
      simp only [found] at ended
      cases ended
  | ok provider =>
      obtain ⟨stored, active⟩ := activeProvider_ok found
      simp only [found] at ended ⊢
      cases secrets : pollCredentials env provider with
      | error error =>
          simp only [secrets] at ended
          cases ended
      | ok credentials =>
          simp only [secrets, pollProvider] at ended ⊢
          cases asked : askProvider env db provider credentials with
          | error error =>
              simp only [asked] at ended ⊢
              obtain ⟨row, after, moved, events⟩ := failedCycle_connection env stored ended
              exact ⟨provider, row, stored, after, moved, events⟩
          | ok seen =>
              simp only [asked] at ended ⊢
              cases done : successfulCycle env db provider seen with
              | error error =>
                  simp only [done] at ended
                  cases ended
              | ok outcome =>
                  simp only [done] at ended ⊢
                  cases ended
                  have cycle := observedCycle_of_successful stored active asked done
                  refine ⟨provider, _, stored, cycle.recorded, rfl, ?_⟩
                  rw [cycle.events, connectionChanges_cycleEvents]
                  simp only [Connection.announces, decide_eq_true_iff]
                  rfl

end Cycle

/-! ### The history of a connection -/

/-- The results since the last success, the latest first. -/
def sinceSuccess (history : List CycleResult) : List CycleResult :=
  history.takeWhile fun result => decide (result ≠ .success)

/-- An authentication error is among the results since the last success. -/
def AuthFailing (history : List CycleResult) : Prop := .authError ∈ sinceSuccess history

instance (history : List CycleResult) : Decidable (AuthFailing history) :=
  inferInstanceAs (Decidable (_ ∈ _))

/-- The errors a cycle reports as one of the provider, since the last success. -/
def reportedErrors (history : List CycleResult) : Nat :=
  (sinceSuccess history).countP fun result => decide (result = .providerError)

/-- The errors of the provider since the last success, those of its rate limit included. -/
def providerErrors (history : List CycleResult) : Nat :=
  (sinceSuccess history).countP fun result =>
    decide (result = .providerError ∨ result = .rateLimitError)

/-- The status that goes with a number of errors: none, up to four, or more. -/
def bandOf (errors : Nat) : ConnectionStatus :=
  if errors = 0 then .healthy else if errors < 5 then .degraded else .unreachable

/-- The status a history asks for. -/
def statusOf (history : List CycleResult) : ConnectionStatus :=
  if AuthFailing history then .authFailed else bandOf (providerErrors history)

/-- The connection after a history, the latest result first. -/
def connectionAfter : List CycleResult → Connection
  | [] => .new
  | result :: earlier => (connectionAfter earlier).next result

theorem bandOf_ne_authFailed (errors : Nat) : bandOf errors ≠ .authFailed := by
  rw [bandOf]
  split
  · decide
  · split <;> decide

/-- The status of the machine follows the number of errors it has counted. -/
theorem worse_bandOf (errors : Nat) : (⟨bandOf errors, errors⟩ : Connection).worse =
    bandOf (errors + 1) := by
  rcases Nat.lt_or_ge errors 4 with few | many
  · rw [Connection.worse, if_neg (by simp only [nUnreachable]; omega), bandOf, bandOf,
      if_neg (Nat.succ_ne_zero errors), if_pos (show errors + 1 < 5 by omega)]
    by_cases none : errors = 0
    · rw [if_pos none, if_pos rfl]
    · rw [if_neg none, if_pos (show errors < 5 by omega), if_neg ConnectionStatus.noConfusion]
  · rw [Connection.worse, if_pos (by simp only [nUnreachable]; omega), bandOf,
      if_neg (Nat.succ_ne_zero errors), if_neg (by omega)]

theorem sinceSuccess_error {result : CycleResult} (error : result ≠ .success)
    (history : List CycleResult) : sinceSuccess (result :: history) = result :: sinceSuccess history :=
  List.takeWhile_cons_of_pos (decide_eq_true error)

theorem authFailing_cons {result : CycleResult} (error : result ≠ .success)
    (history : List CycleResult) :
    AuthFailing (result :: history) ↔ result = .authError ∨ AuthFailing history := by
  rw [AuthFailing, AuthFailing, sinceSuccess_error error, List.mem_cons, eq_comm]

/-- What the machine knows of a history: whether the authentication is failing, and otherwise how
    many errors were reported. -/
theorem connectionAfter_eq (history : List CycleResult) :
    (AuthFailing history → (connectionAfter history).status = .authFailed) ∧
      (¬AuthFailing history →
        connectionAfter history = ⟨bandOf (reportedErrors history), reportedErrors history⟩) := by
  induction history with
  | nil =>
      constructor
      · intro failing
        cases failing
      · intro _
        rfl
  | cons result history inductionHypothesis =>
      obtain ⟨failing, counting⟩ := inductionHypothesis
      rw [connectionAfter]
      cases result with
      | success =>
          constructor
          · intro impossible
            cases impossible
          · intro _
            rfl
      | authError =>
          constructor
          · intro _
            rw [Connection.next]
            split
            · next already => exact already
            · rfl
          · intro fine
            exact absurd ((authFailing_cons (by decide) history).mpr (.inl rfl)) fine
      | rateLimitError =>
          have same : AuthFailing (.rateLimitError :: history) ↔ AuthFailing history := by
            simp [authFailing_cons]
          have counted : reportedErrors (.rateLimitError :: history) = reportedErrors history := by
            rw [reportedErrors, sinceSuccess_error (by decide)]
            simp [reportedErrors]
          rw [same, counted]
          exact ⟨failing, counting⟩
      | providerError =>
          have same : AuthFailing (.providerError :: history) ↔ AuthFailing history := by
            simp [authFailing_cons]
          have counted : reportedErrors (.providerError :: history) = reportedErrors history + 1 := by
            rw [reportedErrors, sinceSuccess_error (by decide)]
            simp [reportedErrors]
          rw [same, counted]
          constructor
          · intro already
            rw [Connection.next, if_pos (failing already)]
            exact failing already
          · intro fine
            rw [counting fine, Connection.next, if_neg (bandOf_ne_authFailed _), worse_bandOf]

/-! ### Sequences of cycles -/

/-- The database, with the results of the cycles so far, the latest first. -/
structure ConnectionState where
  db : CustodialDatabase
  history : List CycleResult

/-- One cycle of a provider that ends in one of the four ways. -/
inductive ConnectionStep (providerId : Uuid) :
    ConnectionState → PollEnv → ConnectionState → Prop where
  | cycle {s : ConnectionState} {env : PollEnv} {result : CycleResult}
      (ended : cycleResult env s.db providerId = some result) :
      ConnectionStep providerId s env ⟨(pollCycle env s.db providerId).db, result :: s.history⟩

/-- The connection of a provider, when it is stored. -/
def connectionOf (db : CustodialDatabase) (providerId : Uuid) : Option Connection :=
  (db.custodialProviders.get? providerId).map ConnectedProviderRow.connection

/-- The stored status is the one its history asks for. -/
def StatusFollows (providerId : Uuid) (s : ConnectionState) : Prop :=
  ∀ row, s.db.custodialProviders.get? providerId = some row →
    row.connectionStatus = statusOf s.history

/-- A cycle publishes a change of the connection exactly when it changes the stored status, with the
    status before and the status after. -/
def ChangePublished (providerId : Uuid) (s : ConnectionState) (env : PollEnv) : Prop :=
  ∀ row row', s.db.custodialProviders.get? providerId = some row →
    (pollCycle env s.db providerId).db.custodialProviders.get? providerId = some row' →
      connectionChanges (pollCycle env s.db providerId).events =
        if row'.connectionStatus ≠ row.connectionStatus then
          [connectionStateChanged row row'.connectionStatus]
        else []

/-- The reported errors of a history put the connection into the band in which all errors of the
    provider put it, or an authentication error overrides both. -/
def SameBand (history : List CycleResult) : Prop :=
  AuthFailing history ∨ bandOf (reportedErrors history) = bandOf (providerErrors history)

instance (history : List CycleResult) : Decidable (SameBand history) :=
  inferInstanceAs (Decidable (_ ∨ _))

/-- A cycle after which the errors of the rate limit make no difference to the band, and that is not
    a second authentication error without a success between. -/
def Distinguished (providerId : Uuid) (s : ConnectionState) (env : PollEnv) : Prop :=
  ∀ result, cycleResult env s.db providerId = some result →
    ¬(result = .authError ∧ AuthFailing s.history) ∧ SameBand (result :: s.history)

section Runs

variable {providerId : Uuid} {s t u : ConnectionState} {env : PollEnv} {envs : List PollEnv}

/-- The connection is the one the machine reaches. -/
def RunsMachine (providerId : Uuid) (s : ConnectionState) : Prop :=
  connectionOf s.db providerId = some (connectionAfter s.history)

theorem RunsMachine.step (runs : RunsMachine providerId s) (step : ConnectionStep providerId s env t) :
    RunsMachine providerId t := by
  cases step with
  | @cycle result ended =>
      obtain ⟨provider, row, before, after, moved, -⟩ := pollCycle_connection ended
      rw [RunsMachine, connectionOf, before, Option.map_some, Option.some.injEq] at runs
      rw [RunsMachine, connectionOf, after, Option.map_some, moved, runs]
      rfl

/-- The status of the machine is the one its history asks for exactly in one band. -/
theorem status_connectionAfter_iff (history : List CycleResult) :
    (connectionAfter history).status = statusOf history ↔ SameBand history := by
  obtain ⟨failing, counting⟩ := connectionAfter_eq history
  rw [statusOf, SameBand]
  by_cases auth : AuthFailing history
  · simp [auth, failing auth]
  · simp [auth, counting auth]

theorem RunsMachine.statusFollows_iff (runs : RunsMachine providerId s) :
    StatusFollows providerId s ↔ SameBand s.history := by
  obtain ⟨row, found, connection⟩ := Option.map_eq_some_iff.mp runs
  rw [← status_connectionAfter_iff, ← connection]
  constructor
  · intro follows
    exact follows row found
  · intro same row' found'
    rw [found, Option.some.injEq] at found'
    rw [← found']
    exact same

/-- The machine announces a change exactly when there is one, but for an authentication error on top
    of another. -/
theorem announces_iff (history : List CycleResult) (result : CycleResult) :
    ((connectionAfter history).announces result = true ↔
        ((connectionAfter history).next result).status ≠ (connectionAfter history).status) ↔
      ¬(result = .authError ∧ AuthFailing history) := by
  obtain ⟨failing, counting⟩ := connectionAfter_eq history
  cases result with
  | success =>
      rw [Connection.announces, decide_eq_true_iff]
      simp [Connection.next, ne_comm]
  | rateLimitError => simp [Connection.announces, Connection.next]
  | providerError =>
      rw [Connection.announces, decide_eq_true_iff]
      simp [ne_comm]
  | authError =>
      by_cases auth : AuthFailing history
      · simp [Connection.announces, Connection.next, failing auth, auth]
      · have other : (connectionAfter history).status ≠ .authFailed := by
          rw [counting auth]
          exact bandOf_ne_authFailed _
        simp [Connection.announces, Connection.next, other, auth, Ne.symm other]

theorem RunsMachine.changePublished_iff (runs : RunsMachine providerId s) {result : CycleResult}
    (ended : cycleResult env s.db providerId = some result) :
    ChangePublished providerId s env ↔ ¬(result = .authError ∧ AuthFailing s.history) := by
  obtain ⟨provider, row, before, after, moved, events⟩ := pollCycle_connection ended
  rw [RunsMachine, connectionOf, before, Option.map_some, Option.some.injEq] at runs
  have same : ChangePublished providerId s env ↔
      (provider.connection.announces result = true ↔
        row.connectionStatus ≠ provider.connectionStatus) := by
    rw [ChangePublished]
    simp only [before, after, Option.some.injEq, events]
    by_cases announced : provider.connection.announces result = true <;>
      by_cases changed : row.connectionStatus = provider.connectionStatus <;>
        simp [announced, changed]
  have moved' : row.connectionStatus = (provider.connection.next result).status := by
    rw [← moved]
    rfl
  rw [same, moved', ← announces_iff, ← runs]
  rfl

end Runs

/-- The sample provider before its first cycle. -/
def sampleUnpolled : ConnectionState := ⟨sampleConnectedTo sampleTreasury, []⟩

/-- A cycle in which every call raises one error. -/
def sampleFailing (error : CcxtError) : PollEnv :=
  samplePollEnv
    { fetchFreeBtc := .error error
      fetchTotals := .error error
      fetchLedger := fun _ _ => .error error
      fetchTransactions := fun _ _ => .error error }

/-- The state after one more cycle of the sample provider, which has ended in a known way. -/
def sampleCycle (s : ConnectionState) (env : PollEnv) (result : CycleResult) : ConnectionState :=
  ⟨(pollCycle env s.db 1).db, result :: s.history⟩

end TallyKeep
