/-
Module: TallyKeep.Proofs.SweepSessions
Layer: Proofs
Purpose: What a session of a sweep trigger leaves: rows added at the end of two tables, and the
  writes that do not find the row they are meant for.
Trusted boundary: none
Main exports: SweepAdds, SweepSession.Added, SweepSession.Added.create,
  SweepSession.updateStatus_added, SweepPolicyRow.Crosses, evaluateThreshold_some_iff,
  SweepPolicyRow.sweepRow, thresholdExecution_ok
-/
import TallyKeep.TreasurySystem

namespace TallyKeep

open Relational

/-! ### Rows added to a database -/

/-- The second database is the first with executions and payment requests added, in this order. -/
structure SweepAdds (before : TreasuryDatabase) (executions : List SweepExecutionRow)
    (requests : List PaymentRequestRow) (after : TreasuryDatabase) : Prop where
  tables : after =
    { before with
      toDatabase :=
        { before.toDatabase with
          sweepExecutions := after.sweepExecutions
          paymentRequests := after.paymentRequests } }
  executions : after.sweepExecutions.rows = before.sweepExecutions.rows ++ executions
  requests : after.paymentRequests.rows = before.paymentRequests.rows ++ requests

namespace SweepAdds

theorem refl (db : TreasuryDatabase) : SweepAdds db [] [] db :=
  ⟨rfl, (List.append_nil _).symm, (List.append_nil _).symm⟩

/-- What two stretches of a session add is added one after the other. -/
theorem trans {before middle after : TreasuryDatabase}
    {executions executions' : List SweepExecutionRow} {requests requests' : List PaymentRequestRow}
    (first : SweepAdds before executions requests middle)
    (second : SweepAdds middle executions' requests' after) :
    SweepAdds before (executions ++ executions') (requests ++ requests') after := by
  constructor
  · rw [second.tables, first.tables]
  · rw [second.executions, first.executions, List.append_assoc]
  · rw [second.requests, first.requests, List.append_assoc]

variable {before after : TreasuryDatabase} {executions : List SweepExecutionRow}
  {requests : List PaymentRequestRow}

/-- A session leaves the policies. -/
theorem sweepPolicies (adds : SweepAdds before executions requests after) :
    after.sweepPolicies = before.sweepPolicies := by
  rw [adds.tables]

theorem paymentRequests (adds : SweepAdds before executions [] after) :
    after.paymentRequests = before.paymentRequests := by
  apply Table.ext
  rw [adds.requests, List.append_nil]

/-- The executions after a session are the ones of before and the added ones. -/
theorem mem_executions (adds : SweepAdds before executions requests after)
    {row : SweepExecutionRow} :
    row ∈ after.sweepExecutions.rows ↔ row ∈ before.sweepExecutions.rows ∨ row ∈ executions := by
  rw [adds.executions, List.mem_append]

/-- The added executions have ids of their own. -/
theorem fresh (adds : SweepAdds before executions requests after) {row : SweepExecutionRow}
    (added : row ∈ executions) : before.sweepExecutions.get? row.id = none := by
  rw [Table.get?_eq_none_iff]
  intro taken
  have nodup := after.sweepExecutions.keysNodup
  rw [adds.executions, List.map_append, List.nodup_append] at nodup
  exact nodup.2.2 row.id taken row.id (List.mem_map_of_mem (f := key) added) rfl

end SweepAdds

/-! ### Sessions -/

namespace SweepSession

/-- The session sees the database it began with, and has added executions and requests to it. -/
structure Added (session : SweepSession) (db : TreasuryDatabase)
    (executions : List SweepExecutionRow) (requests : List PaymentRequestRow) : Prop where
  visible : session.visible = db
  written : SweepAdds db executions requests session.written

theorem Added.start (db : TreasuryDatabase) : (SweepSession.start db).Added db [] [] :=
  ⟨rfl, .refl db⟩

variable {session : SweepSession} {db : TreasuryDatabase} {executions : List SweepExecutionRow}
  {requests : List PaymentRequestRow}

/-- A fresh execution id is in use nowhere in what is written. -/
theorem get?_freshExecutionId (session : SweepSession) :
    session.written.sweepExecutions.get? session.freshExecutionId = none := by
  rw [Table.get?_eq_none_iff]
  intro taken
  have bounded := Table.le_foldr_max (List.mem_append_left
    (session.written.paymentRequests.rows.filterMap PaymentRequestRow.sweepExecutionId) taken)
  exact absurd bounded (Nat.not_le_of_lt (Nat.lt_succ_self _))

/-- No request refers to a new execution yet. -/
theorem sweepExecutionId_ne_freshExecutionId (session : SweepSession) {request : PaymentRequestRow}
    (stored : request ∈ session.written.paymentRequests.rows) :
    request.sweepExecutionId ≠ some session.freshExecutionId := by
  intro refers
  have listed : session.freshExecutionId ∈
      session.written.paymentRequests.rows.filterMap PaymentRequestRow.sweepExecutionId :=
    List.mem_filterMap.mpr ⟨request, stored, refers⟩
  have bounded := Table.le_foldr_max (List.mem_append_right
    (session.written.sweepExecutions.rows.map SweepExecutionRow.id) listed)
  exact absurd bounded (Nat.not_le_of_lt (Nat.lt_succ_self _))

namespace Added

/-- A fresh execution id is in use nowhere in what is visible. -/
theorem get?_fresh (added : session.Added db executions requests) :
    session.visible.sweepExecutions.get? session.freshExecutionId = none := by
  have absent := session.get?_freshExecutionId
  rw [Table.get?_eq_none_iff, added.written.executions, List.map_append, List.mem_append] at absent
  rw [added.visible, Table.get?_eq_none_iff]
  exact fun taken => absent (.inl taken)

/-- A created execution is added. -/
theorem create (added : session.Added db executions requests) {row : SweepExecutionRow}
    (fresh : row.id = session.freshExecutionId) :
    (session.create row).Added db (executions ++ [row]) requests := by
  have absent : session.written.sweepExecutions.get? (key row) = none := by
    change session.written.sweepExecutions.get? row.id = none
    rw [fresh]
    exact session.get?_freshExecutionId
  have rows := Table.rows_insert_of_fresh absent
  refine ⟨added.visible, ?_, ?_, added.written.requests⟩
  · have same := added.written.tables
    simp only [SweepSession.create, SweepExecutionRepo.create]
    rw [same]
  · simp only [SweepSession.create, SweepExecutionRepo.create]
    rw [rows, added.written.executions, List.append_assoc]

/-- A made request is added. -/
theorem addRequest (added : session.Added db executions requests) {request : PaymentRequestRow}
    (fresh : session.written.paymentRequests.get? request.id = none) :
    (session.addRequest request).Added db executions (requests ++ [request]) := by
  have rows := Table.rows_insert_of_fresh (r := request) fresh
  refine ⟨added.visible, ?_, added.written.executions, ?_⟩
  · have same := added.written.tables
    simp only [SweepSession.addRequest, PaymentRequestRepo.insert]
    rw [same]
  · simp only [SweepSession.addRequest, PaymentRequestRepo.insert]
    rw [rows, added.written.requests, List.append_assoc]

end Added

/-- The status of a row that was added but not flushed is not written. -/
theorem updateStatus_added (session : SweepSession) {row : SweepExecutionRow}
    (unseen : session.visible.sweepExecutions.get? row.id = none) (status : SweepExecutionStatus)
    (providerWithdrawalId errorMessage : Option String) (completedAt : Option Timestamp) :
    (session.create row).updateStatus row.id status providerWithdrawalId errorMessage completedAt =
      session.create row := by
  simp only [updateStatus, create, unseen]

/-- The link to a request that was added but not flushed is not written. -/
theorem linkRequest_added (session : SweepSession) {request : PaymentRequestRow}
    (unseen : session.visible.paymentRequests.get? request.id = none) (executionId : Uuid) :
    (session.addRequest request).linkRequest request.id executionId =
      session.addRequest request := by
  simp only [linkRequest, addRequest, unseen]

end SweepSession

/-! ### Threshold checks -/

/-- The balance is above the threshold, and something is left to sweep. -/
def SweepPolicyRow.Crosses (policy : SweepPolicyRow) (balanceSats : Int) : Prop :=
  exceedsThreshold policy.triggerConfiguration balanceSats = .ok true ∧
    0 < policy.sweepAmount balanceSats

/-- The balance can be compared with the threshold. -/
def SweepPolicyRow.Comparable (policy : SweepPolicyRow) (balanceSats : Int) : Prop :=
  ∃ above, exceedsThreshold policy.triggerConfiguration balanceSats = .ok above

theorem SweepPolicyRow.Crosses.comparable {policy : SweepPolicyRow} {balanceSats : Int}
    (crosses : policy.Crosses balanceSats) : policy.Comparable balanceSats :=
  ⟨true, crosses.1⟩

section Evaluation

variable {policy : SweepPolicyRow} {balanceSats : Int}

/-- A policy asks for an amount exactly when the balance crosses its threshold. -/
theorem evaluateThreshold_some_iff {amountSats : Int} :
    evaluateThreshold policy balanceSats = .ok (some amountSats) ↔
      policy.Crosses balanceSats ∧ amountSats = policy.sweepAmount balanceSats := by
  rw [evaluateThreshold, SweepPolicyRow.Crosses]
  cases exceedsThreshold policy.triggerConfiguration balanceSats with
  | error error => simp [bind, Except.bind]
  | ok above =>
      cases above with
      | false => simp [bind, Except.bind, pure, Except.pure]
      | true =>
          simp only [bind, Except.bind, pure, Except.pure, if_true, Except.ok.injEq, true_and]
          split
          · rename_i nothing
            simp [Int.not_lt.mpr nothing]
          · rename_i something
            simp [Int.not_le.mp something, eq_comm]

/-- A policy asks for nothing exactly when the balance does not cross its threshold. -/
theorem evaluateThreshold_none_iff :
    evaluateThreshold policy balanceSats = .ok none ↔
      policy.Comparable balanceSats ∧ ¬policy.Crosses balanceSats := by
  rw [evaluateThreshold, SweepPolicyRow.Crosses, SweepPolicyRow.Comparable]
  cases exceedsThreshold policy.triggerConfiguration balanceSats with
  | error error => simp [bind, Except.bind]
  | ok above =>
      cases above with
      | false => simp [bind, Except.bind, pure, Except.pure]
      | true => simp [bind, Except.bind, pure, Except.pure]

/-- A policy raises exactly when its threshold can't be compared. -/
theorem evaluateThreshold_error_iff :
    (∃ error, evaluateThreshold policy balanceSats = .error error) ↔
      ¬policy.Comparable balanceSats := by
  rw [evaluateThreshold, SweepPolicyRow.Comparable]
  cases exceedsThreshold policy.triggerConfiguration balanceSats with
  | error error => simp [bind, Except.bind]
  | ok above =>
      cases above with
      | false => simp [bind, Except.bind, pure, Except.pure]
      | true => simp [bind, Except.bind, pure, Except.pure]

end Evaluation

/-! ### New executions -/

/-- The execution a threshold sweep of a policy adds. -/
def SweepPolicyRow.sweepRow (policy : SweepPolicyRow) (executionId : Uuid) (balanceSats : Int)
    (now : Timestamp) : SweepExecutionRow where
  id := executionId
  sweepPolicyId := policy.id
  triggeredAt := now
  triggerSource := .threshold
  preBalanceSats := balanceSats.toNat
  intendedAmountSats := (policy.sweepAmount balanceSats).toNat
  status := policy.initialStatus
  providerWithdrawalId := none
  expectedTxid := none
  confirmedTxid := none
  errorMessage := none
  completedAt := none

/-- What a sweep takes leaves the minimum, and stays below the cap. -/
theorem SweepPolicyRow.sweepAmount_le (policy : SweepPolicyRow) (balanceSats : Int) :
    policy.sweepAmount balanceSats ≤ balanceSats - policy.minimumBalanceSats := by
  rw [sweepAmount]
  split
  · exact le_refl _
  · exact min_le_left _ _

/-- A policy that loads: its row passes the checks of the constructor. -/
def SweepPolicyRow.Loads (row : SweepPolicyRow) : Prop := row.postInit = .ok row

/-- A policy loads exactly when its checks pass. -/
theorem SweepPolicyRow.loads_iff {row : SweepPolicyRow} :
    row.Loads ↔ row.sourceHoldingId ≠ row.destinationHoldingId ∧ 0 ≤ row.minimumBalanceSats ∧
      (∀ maximum, row.maximumPerPeriodSats = some maximum → 0 ≤ maximum) ∧
      (row.isEnabled = true → row.unacknowledged = []) := by
  rw [Loads, postInit]
  split
  · simp_all
  · split
    · simp_all
    · split
      · rename_i negative
        cases capped : row.maximumPerPeriodSats with
        | none => simp [capped] at negative
        | some maximum => simp_all
      · split
        · simp_all
        · rename_i distinct floor cap pending
          simp only [true_iff]
          refine ⟨distinct, Int.not_lt.mp floor, ?_, ?_⟩
          · intro maximum capped
            simpa [capped] using cap
          · intro enabled
            by_contra left
            exact pending ⟨enabled, left⟩

theorem SweepPolicyRow.postInit_ok {row row' : SweepPolicyRow} (run : row.postInit = .ok row') :
    row' = row ∧ row.Loads := by
  have same : row' = row := by
    rw [postInit] at run
    repeat' split at run
    all_goals cases run
    rfl
  exact ⟨same, by rw [Loads, run, same]⟩

/-- A sweep of a policy that loads is never refused by the checks on its amounts. -/
theorem thresholdExecution_ok {policy : SweepPolicyRow} {balanceSats : Int} (loads : policy.Loads)
    (crosses : policy.Crosses balanceSats) (session : SweepSession) (now : Timestamp) :
    thresholdExecution session policy balanceSats (policy.sweepAmount balanceSats) now =
      .ok (policy.sweepRow session.freshExecutionId balanceSats now) := by
  have floor := (SweepPolicyRow.loads_iff.mp loads).2.1
  have most := policy.sweepAmount_le balanceSats
  have positive := crosses.2
  rw [thresholdExecution, newSweepExecution, if_neg (by omega), if_neg (by omega)]
  rfl

end TallyKeep
