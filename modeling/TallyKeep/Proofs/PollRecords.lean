/-
Module: TallyKeep.Proofs.PollRecords
Layer: Proofs
Purpose: Which polls reach every threshold policy and record each execution in one of the three
  shapes it is meant to end in.
Trusted boundary: none
Main exports: RecordShape, HasShape, PollRecorded, RoundsQuiet, PollQuiet, pollRecorded_iff
-/
import TallyKeep.Proofs.DryRuns
import TallyKeep.Proofs.EntryLinks

namespace TallyKeep

open Relational Transition

variable {Psbt Tx : Type}

/-! ### Shapes of executions -/

/-- How the poller records an execution: a completed dry run, a failure without a request, or a
    sweep that is underway with its request. -/
inductive RecordShape where
  | completed
  | failed
  | requested
deriving Repr, DecidableEq

/-- The execution stands in the database in a shape. -/
def HasShape (db : TreasuryDatabase) (row : SweepExecutionRow) : RecordShape → Prop
  | .completed => row.status = .completed ∧
      ∃ policy ∈ db.sweepPolicies.rows, policy.id = row.sweepPolicyId ∧ policy.isDryRun = true
  | .failed => row.status = .failed ∧ row.errorMessage.isSome = true ∧
      row.completedAt.isSome = true ∧
        ∀ request ∈ db.paymentRequests.rows, request.sweepExecutionId ≠ some row.id
  | .requested => ¬row.status.Over ∧
      ∃ request ∈ db.paymentRequests.rows, request.sweepExecutionId = some row.id

/-- The ids of the threshold policies of a list, in order. -/
def thresholdIds (policies : List SweepPolicyRow) : List Uuid :=
  (policies.filter fun policy => decide (policy.triggerType = .threshold)).map SweepPolicyRow.id

/-- A poll begins the round of every threshold policy, and each execution it commits has exactly one
    of the shapes. -/
structure PollRecorded (bdk : Bdk Psbt Tx) (ctx : PollContext) (db : TreasuryDatabase) : Prop where
  evaluated : (pollOnce bdk ctx db).evaluated = thresholdIds (polledPolicies ctx db)
  recorded : ∀ row ∈ (pollOnce bdk ctx db).db.sweepExecutions.rows,
    db.sweepExecutions.get? row.id = none → ∃! shape, HasShape (pollOnce bdk ctx db).db row shape

/-! ### Quiet rounds -/

/-- The round of each threshold policy passes it over, or raises when no threshold policy is
    left. -/
def RoundsQuiet (metadata : HoldingMetadata) (db : TreasuryDatabase) :
    List SweepPolicyRow → Prop
  | [] => True
  | policy :: later =>
      (policy.triggerType = .threshold →
        roundVerdict metadata db policy = .skips ∨
          roundVerdict metadata db policy = .raises ∧
            ∀ other ∈ later, other.triggerType ≠ .threshold) ∧
        RoundsQuiet metadata db later

/-- The listing of the poll returns, unless it has no threshold policy to return, and its rounds are
    quiet. -/
def PollQuiet (ctx : PollContext) (db : TreasuryDatabase) : Prop :=
  (PollLists db ∨ ∀ policy ∈ polledPolicies ctx db, policy.triggerType ≠ .threshold) ∧
    RoundsQuiet ctx.metadata db (polledPolicies ctx db)

theorem thresholdIds_eq_nil_iff {policies : List SweepPolicyRow} :
    thresholdIds policies = [] ↔ ∀ policy ∈ policies, policy.triggerType ≠ .threshold := by
  simp [thresholdIds, List.filter_eq_nil_iff]

theorem RoundsQuiet.of_none {metadata : HoldingMetadata} {db : TreasuryDatabase}
    {policies : List SweepPolicyRow}
    (none : ∀ policy ∈ policies, policy.triggerType ≠ .threshold) :
    RoundsQuiet metadata db policies := by
  induction policies with
  | nil => trivial
  | cons policy later inductionHypothesis =>
      rw [List.forall_mem_cons] at none
      exact ⟨fun threshold => absurd threshold none.1, inductionHypothesis none.2⟩

section Rounds

variable {bdk : Bdk Psbt Tx} {ctx : PollContext} {db : TreasuryDatabase}
  {policies : List SweepPolicyRow}

variable (bdk) in
/-- The loop sweeps nothing and reaches every threshold policy exactly if its rounds are quiet. -/
theorem roundsQuiet_iff (loads : ∀ policy ∈ policies, policy.Loads) :
    ((∀ policy, ¬SweptIn bdk ctx db policies policy) ∧
        (pollRounds bdk ctx db policies).evaluated = thresholdIds policies) ↔
      RoundsQuiet ctx.metadata db policies := by
  induction policies with
  | nil =>
      apply iff_of_true _ trivial
      exact ⟨not_sweptIn_nil, rfl⟩
  | cons head later inductionHypothesis =>
      rw [List.forall_mem_cons] at loads
      have rest := inductionHypothesis loads.2
      by_cases threshold : head.triggerType = .threshold
      · have ids : thresholdIds (head :: later) = head.id :: thresholdIds later := by
          simp [thresholdIds, threshold]
        cases verdict : roundVerdict ctx.metadata db head with
        | skips =>
            have run := pollPolicy_of_skips bdk verdict
            have continues : Continues bdk ctx db head db [] := by
              intro policies
              simp [pollRounds, threshold, run]
            have swept := sweptIn_cons_of_continues continues (.refl db) later
            have evaluated : (pollRounds bdk ctx db (head :: later)).evaluated =
                head.id :: (pollRounds bdk ctx db later).evaluated := by
              simp [pollRounds, threshold, run]
            simp only [swept, verdict, reduceCtorEq, and_false, false_or, evaluated, ids,
              List.cons.injEq, true_and, rest, RoundsQuiet, true_or, implies_true]
        | raises =>
            obtain ⟨error, run⟩ := pollPolicy_of_raises bdk loads.1 verdict
            have ends : Ends bdk ctx db head db [] := by
              refine ⟨error, ?_⟩
              intro policies
              simp [pollRounds, threshold, run]
            have swept := sweptIn_cons_of_ends ends later
            have evaluated : (pollRounds bdk ctx db (head :: later)).evaluated = [head.id] := by
              simp [pollRounds, threshold, run]
            simp only [swept, verdict, reduceCtorEq, and_false, not_false_eq_true, implies_true,
              evaluated, ids, List.cons.injEq, true_and, RoundsQuiet, false_or]
            rw [eq_comm, thresholdIds_eq_nil_iff]
            constructor
            · intro none
              exact ⟨fun _ => none, .of_none none⟩
            · intro quiet
              exact quiet.1 threshold
        | sweeps =>
            apply iff_of_false
            · intro idle
              exact idle.1 head ⟨[], later, rfl, rfl, threshold, verdict⟩
            · intro quiet
              have passed := quiet.1 threshold
              simp [verdict] at passed
      · have ids : thresholdIds (head :: later) = thresholdIds later := by
          simp [thresholdIds, threshold]
        have continues : Continues bdk ctx db head db [] := by
          intro policies
          simp [pollRounds, threshold]
        have swept := sweptIn_cons_of_continues continues (.refl db) later
        have evaluated : (pollRounds bdk ctx db (head :: later)).evaluated =
            (pollRounds bdk ctx db later).evaluated := by
          simp [pollRounds, threshold]
        simp only [swept, threshold, false_and, and_false, false_or, evaluated, ids, rest,
          RoundsQuiet, false_implies, true_and]

/-- What a poll adds has none of the shapes: its status is the initial one, and no request refers to
    it. -/
theorem PollLeaves.not_hasShape {new : List SweepExecutionRow} {made : List PaymentRequestRow}
    (leaves : PollLeaves bdk ctx db policies new made) {row : SweepExecutionRow}
    (added : row ∈ new) (shape : RecordShape) :
    ¬HasShape (pollRounds bdk ctx db policies).db row shape := by
  obtain ⟨policy, -, same⟩ := leaves.swept row added
  have status : row.status = policy.initialStatus := congrArg SweepExecutionRow.status same
  have initial : ¬policy.initialStatus.Over := by
    rw [SweepPolicyRow.initialStatus]
    split <;> simp [SweepExecutionStatus.Over]
  rw [← status] at initial
  intro has
  cases shape with
  | completed => exact initial (.inl has.1)
  | failed => exact initial (.inr (.inl has.1))
  | requested =>
      obtain ⟨-, request, stored, refers⟩ := has
      rw [leaves.adds.requests, List.mem_append] at stored
      rcases stored with old | fresh
      · exact leaves.unreferenced row added request old refers
      · rw [leaves.unlinked request fresh] at refers
        cases refers

end Rounds

/-! ### Polls -/

/-- A poll reaches every threshold policy and records what it commits exactly if it is quiet. -/
theorem pollRecorded_iff (bdk : Bdk Psbt Tx) (ctx : PollContext) (db : TreasuryDatabase) :
    PollRecorded bdk ctx db ↔ PollQuiet ctx db := by
  have stored : ∀ row ∈ db.sweepExecutions.rows, db.sweepExecutions.get? row.id ≠ none := by
    intro row present absent
    rw [show db.sweepExecutions.get? row.id = some row from Table.get?_of_mem present] at absent
    cases absent
  rcases pollOnce_cases bdk ctx db with
    ⟨lists, outcome, new, made, leaves⟩ | ⟨unlisted, error, outcome⟩
  · rw [PollQuiet, ← roundsQuiet_iff bdk (PollLists.loads lists ctx)]
    constructor
    · intro recorded
      refine ⟨.inl lists, ?_, ?_⟩
      · intro policy sweeps
        obtain ⟨row, added, -⟩ := leaves.complete policy sweeps
        have present : row ∈ (pollOnce bdk ctx db).db.sweepExecutions.rows := by
          rw [outcome]
          exact leaves.adds.mem_executions.mpr (.inr added)
        obtain ⟨shape, has, -⟩ := recorded.recorded row present (leaves.adds.fresh added)
        rw [outcome] at has
        exact leaves.not_hasShape added shape has
      · rw [← outcome]
        exact recorded.evaluated
    · intro ⟨_, idle, evaluated⟩
      constructor
      · rw [outcome]
        exact evaluated
      · rw [outcome]
        intro row present unknown
        rcases leaves.adds.mem_executions.mp present with old | added
        · exact absurd unknown (stored row old)
        · obtain ⟨policy, sweeps, -⟩ := leaves.swept row added
          exact absurd sweeps (idle policy)
  · rw [PollQuiet, or_iff_right unlisted, ← thresholdIds_eq_nil_iff]
    constructor
    · intro recorded
      have nothing := recorded.evaluated
      rw [outcome] at nothing
      exact ⟨nothing.symm, .of_none (thresholdIds_eq_nil_iff.mp nothing.symm)⟩
    · intro ⟨nothing, _⟩
      constructor
      · rw [outcome, nothing]
      · rw [outcome]
        intro row present unknown
        exact absurd unknown (stored row present)

/-! ### A poll of the sample policy -/

/-- The sample policy sweeps the first holding, which has received the sample payment. -/
def sampleFunded : TreasuryDatabase :=
  treasuryStep sampleBdk (sampleEnabled 10 false)
    (.elsewhere (.handleTx samplePayment (sampleCall (some 100))))

/-- A poll with a node that answers and a bus that takes every message. -/
def samplePoll : PollContext where
  node := samplePaymentNode
  metadata := sampleMetadata
  listing := .inOrder
  clock _ := 0
  publish _ := .ok ()

/-- The poll commits an execution and a request for it, but no link between them. -/
theorem not_pollRecorded_of_sweep : ¬PollRecorded sampleBdk samplePoll sampleFunded := by
  intro recorded
  have before : sampleFunded.sweepExecutions.rows = [] := by
    decide +kernel
  have after : (pollOnce sampleBdk samplePoll sampleFunded).db.sweepExecutions.rows.map
      SweepExecutionRow.status = [.requested] := by
    decide +kernel
  have links : (pollOnce sampleBdk samplePoll sampleFunded).db.paymentRequests.rows.map
      PaymentRequestRow.sweepExecutionId = [none] := by
    decide +kernel
  obtain ⟨row, present, status⟩ :=
    List.mem_map.mp (after ▸ List.mem_singleton_self SweepExecutionStatus.requested)
  have fresh : sampleFunded.sweepExecutions.get? row.id = none := by
    rw [Table.get?_eq_none_iff, before]
    exact List.not_mem_nil
  obtain ⟨shape, has, -⟩ := recorded.recorded row present fresh
  cases shape with
  | completed =>
      rw [has.1] at status
      cases status
  | failed =>
      rw [has.1] at status
      cases status
  | requested =>
      obtain ⟨-, request, stored, refers⟩ := has
      have listed := List.mem_map_of_mem (f := PaymentRequestRow.sweepExecutionId) stored
      rw [links, List.mem_singleton, refers] at listed
      cases listed

end TallyKeep
