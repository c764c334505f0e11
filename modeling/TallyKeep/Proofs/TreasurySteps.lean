/-
Module: TallyKeep.Proofs.TreasurySteps
Layer: Proofs
Purpose: What every operation makes of the executions: a trigger adds one for each policy it sweeps,
  and everything else carries them on.
Trusted boundary: none
Main exports: Sweeps, Sweeps.stored, TreasuryLeaves, treasuryLeaves_of_step, ofPolicy_of_step
-/
import TallyKeep.Proofs.ExecutionSteps
import TallyKeep.Proofs.PolicyWrites

namespace TallyKeep

open Relational History

variable {Psbt Tx : Type}

/-! ### Sweeps -/

/-- A trigger sweeps a policy and leaves an execution, given here without its id. -/
inductive Sweeps (bdk : Bdk Psbt Tx) (db : TreasuryDatabase) :
    TreasuryOperation → SweepPolicyRow → SweepExecutionRow → Prop where
  | event {listing : PolicyListing} {holdingId : Uuid} {balanceSats : Int}
      {clock : Uuid → Timestamp} {policy : SweepPolicyRow}
      (sweeps : EventSweeps db holdingId balanceSats policy) :
      Sweeps bdk db (.balanceUpdated listing holdingId balanceSats clock) policy
        (policy.sweepRow 0 balanceSats (clock policy.id))
  | poll {ctx : PollContext} {policy : SweepPolicyRow} (lists : PollLists db)
      (sweeps : SweptIn bdk ctx db (polledPolicies ctx db) policy) :
      Sweeps bdk db (.pollOnce ctx) policy
        (policy.sweepRow 0 (polledBalance db policy.sourceHoldingId) (ctx.clock policy.id))
  | manual {custody : Custody} {metadata : HoldingMetadata} {policy : SweepPolicyRow}
      {amountSats : Option Int} {now : Timestamp} {provider : CustodialProviderRow}
      {address : String} {credentials : Credentials} {row : SweepExecutionRow}
      (ready : ManualReady custody metadata db policy amountSats provider address credentials)
      (left : manualRow custody policy 0 amountSats now provider address credentials = some row) :
      Sweeps bdk db (.executeSweepNow custody metadata policy.id amountSats now) policy row

section Inversion

variable {bdk : Bdk Psbt Tx} {db : TreasuryDatabase} {policy : SweepPolicyRow}
  {row : SweepExecutionRow}

theorem sweeps_event_iff {listing : PolicyListing} {holdingId : Uuid} {balanceSats : Int}
    {clock : Uuid → Timestamp} :
    Sweeps bdk db (.balanceUpdated listing holdingId balanceSats clock) policy row ↔
      EventSweeps db holdingId balanceSats policy ∧
        row = policy.sweepRow 0 balanceSats (clock policy.id) := by
  constructor
  · intro sweeps
    cases sweeps with
    | event sweeps => exact ⟨sweeps, rfl⟩
  · rintro ⟨sweeps, rfl⟩
    exact .event sweeps

theorem sweeps_poll_iff {ctx : PollContext} :
    Sweeps bdk db (.pollOnce ctx) policy row ↔
      PollLists db ∧ SweptIn bdk ctx db (polledPolicies ctx db) policy ∧
        row = policy.sweepRow 0 (polledBalance db policy.sourceHoldingId) (ctx.clock policy.id) := by
  constructor
  · intro sweeps
    cases sweeps with
    | poll lists sweeps => exact ⟨lists, sweeps, rfl⟩
  · rintro ⟨lists, sweeps, rfl⟩
    exact .poll lists sweeps

theorem sweeps_manual_iff {custody : Custody} {metadata : HoldingMetadata} {policyId : Uuid}
    {amountSats : Option Int} {now : Timestamp} :
    Sweeps bdk db (.executeSweepNow custody metadata policyId amountSats now) policy row ↔
      policy.id = policyId ∧ ∃ provider address credentials,
        ManualReady custody metadata db policy amountSats provider address credentials ∧
          manualRow custody policy 0 amountSats now provider address credentials = some row := by
  constructor
  · intro sweeps
    cases sweeps with
    | manual ready left => exact ⟨rfl, _, _, _, ready, left⟩
  · rintro ⟨rfl, provider, address, credentials, ready, left⟩
    exact .manual ready left

/-- A policy that a poll works through is stored, enabled and loads. -/
theorem SweptIn.listed {ctx : PollContext}
    (sweeps : SweptIn bdk ctx db (polledPolicies ctx db) policy) :
    policy ∈ SweepPolicyRepo.selected db none (some true) := by
  obtain ⟨earlier, later, split, -⟩ := sweeps
  apply ctx.listing.mem_arrange.mp
  change policy ∈ polledPolicies ctx db
  rw [split]
  simp

theorem manualRow_trigger {custody : Custody} {executionId : Uuid} {amountSats : Option Int}
    {now : Timestamp} {provider : CustodialProviderRow} {address : String}
    {credentials : Credentials}
    (left : manualRow custody policy executionId amountSats now provider address credentials =
      some row) :
    row.sweepPolicyId = policy.id ∧ row.triggeredAt = now ∧
      row.preBalanceSats = provider.currentBalance.toNat ∧
        row.intendedAmountSats = (policy.manualAmount provider amountSats).toNat := by
  rw [manualRow] at left
  cases answer : withdrawalAnswer custody provider credentials
      (policy.manualAmount provider amountSats) address with
  | ok withdrawalId =>
      rw [answer] at left
      cases left
      exact ⟨rfl, rfl, rfl, rfl⟩
  | error error =>
      rw [answer, SweepExecutionRow.answered] at left
      split at left
      · cases left
        exact ⟨rfl, rfl, rfl, rfl⟩
      · cases left

/-- The policy that is swept is stored under its id, enabled, and loads. -/
theorem Sweeps.stored {operation : TreasuryOperation} (sweeps : Sweeps bdk db operation policy row) :
    db.sweepPolicies.get? policy.id = some policy ∧ policy.isEnabled = true ∧ policy.Loads := by
  have selected : ∀ {holdingId}, policy ∈ SweepPolicyRepo.selected db holdingId (some true) →
      db.sweepPolicies.get? policy.id = some policy ∧ policy.isEnabled = true := by
    intro holdingId member
    obtain ⟨present, -, enabled⟩ := mem_selected.mp member
    exact ⟨Table.get?_of_mem present, enabled true rfl⟩
  cases sweeps with
  | event sweeps =>
      obtain ⟨found, enabled⟩ := selected sweeps.2.1
      exact ⟨found, enabled, (sweeps.1 policy sweeps.2.1).1⟩
  | poll lists sweeps =>
      obtain ⟨found, enabled⟩ := selected sweeps.listed
      exact ⟨found, enabled, lists policy sweeps.listed⟩
  | manual ready left => exact ⟨ready.stored, ready.enabled, ready.loads⟩

theorem Sweeps.sweepPolicyId {operation : TreasuryOperation}
    (sweeps : Sweeps bdk db operation policy row) : row.sweepPolicyId = policy.id := by
  cases sweeps with
  | event => rfl
  | poll => rfl
  | manual ready left => exact (manualRow_trigger left).1

/-- One trigger leaves at most one execution of a policy. -/
theorem Sweeps.unique {operation : TreasuryOperation} {policy' : SweepPolicyRow}
    {row' : SweepExecutionRow} (sweeps : Sweeps bdk db operation policy row)
    (sweeps' : Sweeps bdk db operation policy' row') (same : policy.id = policy'.id) :
    row = row' := by
  have samePolicy : policy = policy' := by
    have found := sweeps.stored.1
    rw [same, sweeps'.stored.1] at found
    exact (Option.some.inj found).symm
  subst samePolicy
  cases sweeps with
  | event sweeps => exact (sweeps_event_iff.mp sweeps').2.symm
  | poll lists sweeps => exact (sweeps_poll_iff.mp sweeps').2.2.symm
  | manual ready left =>
      obtain ⟨-, provider, address, credentials, ready', left'⟩ := sweeps_manual_iff.mp sweeps'
      obtain ⟨-, rfl, rfl, rfl⟩ := ready.unique ready' rfl
      rw [left] at left'
      exact Option.some.inj left'

end Inversion

/-! ### What an operation leaves -/

/-- What an operation leaves of the executions: the old ones carried on, then those of its
    sweeps. -/
structure TreasuryLeaves (bdk : Bdk Psbt Tx) (db : TreasuryDatabase) (operation : TreasuryOperation)
    (after : TreasuryDatabase) (kept new : List SweepExecutionRow) : Prop where
  rows : after.sweepExecutions.rows = kept ++ new
  carried : Carried SweepExecutionRow.Progress db.sweepExecutions.rows kept
  settled : new = [] ∨ kept = db.sweepExecutions.rows
  once : (new.map SweepExecutionRow.sweepPolicyId).Nodup
  made : ∀ row, row ∈ new.map SweepExecutionRow.erased ↔
    ∃ policy, Sweeps bdk db operation policy row

section Leaves

variable {bdk : Bdk Psbt Tx} {db after : TreasuryDatabase} {operation : TreasuryOperation}
  {new : List SweepExecutionRow} {requests : List PaymentRequestRow}

/-- An operation that sweeps nothing carries the executions on. -/
theorem TreasuryLeaves.of_carried
    (carried : ExecutionsCarried db.toDatabase after.toDatabase)
    (idle : ∀ policy row, ¬Sweeps bdk db operation policy row) :
    TreasuryLeaves bdk db operation after after.sweepExecutions.rows [] where
  rows := (List.append_nil _).symm
  carried := carried
  settled := .inl rfl
  once := List.nodup_nil
  made := by
    intro row
    simp [idle]

/-- A trigger leaves the old executions as they are. -/
theorem TreasuryLeaves.of_adds (adds : SweepAdds db new requests after)
    (once : (new.map SweepExecutionRow.sweepPolicyId).Nodup)
    (made : ∀ row, row ∈ new.map SweepExecutionRow.erased ↔
      ∃ policy, Sweeps bdk db operation policy row) :
    TreasuryLeaves bdk db operation after db.sweepExecutions.rows new where
  rows := adds.executions
  carried := .refl SweepExecutionRow.Progress.refl _
  settled := .inr rfl
  once := once
  made := made

theorem balanceUpdated_leaves (bdk : Bdk Psbt Tx) (listing : PolicyListing) (db : TreasuryDatabase)
    (holdingId : Uuid) (balanceSats : Int) (clock : Uuid → Timestamp) :
    ∃ kept new, TreasuryLeaves bdk db (.balanceUpdated listing holdingId balanceSats clock)
      (onBalanceUpdated listing db holdingId balanceSats clock).db kept new := by
  by_cases completes : EventCompletes db holdingId balanceSats
  · obtain ⟨after, new, outcome, adds, same⟩ := onBalanceUpdated_of_completes completes listing clock
    rw [outcome]
    refine ⟨_, new, .of_adds adds ?_ ?_⟩
    · have ids : new.map SweepExecutionRow.sweepPolicyId =
          (((listing.arrange (SweepPolicyRepo.selected db (some holdingId) (some true))).filter
            fun row => decide (row.SweptAt balanceSats)).map SweepPolicyRow.id) := by
        have mapped := congrArg (List.map SweepExecutionRow.sweepPolicyId) same
        rw [List.map_map, List.map_map] at mapped
        exact mapped
      rw [ids]
      exact (arranged_nodup listing db (some holdingId) (some true)).sublist
        (List.filter_sublist.map SweepPolicyRow.id)
    · intro row
      rw [same, List.mem_map]
      apply exists_congr
      intro policy
      rw [sweeps_event_iff, EventSweeps, List.mem_filter, listing.mem_arrange, decide_eq_true_eq,
        eq_comm (a := row)]
      simp only [completes, true_and]
  · obtain ⟨error, outcome⟩ := onBalanceUpdated_of_not_completes completes listing clock
    rw [outcome]
    refine ⟨_, [], .of_carried (.of_same rfl) ?_⟩
    intro policy row sweeps
    exact completes (sweeps_event_iff.mp sweeps).1.1

theorem pollOnce_leaves (bdk : Bdk Psbt Tx) (ctx : PollContext) (db : TreasuryDatabase) :
    ∃ kept new, TreasuryLeaves bdk db (.pollOnce ctx) (pollOnce bdk ctx db).db kept new := by
  rcases pollOnce_cases bdk ctx db with
    ⟨lists, outcome, new, made, leaves⟩ | ⟨unlisted, error, outcome⟩
  · rw [outcome]
    refine ⟨_, new, .of_adds leaves.adds ?_ ?_⟩
    · exact (arranged_nodup ctx.listing db none (some true)).sublist leaves.once
    · intro row
      constructor
      · intro added
        obtain ⟨execution, present, rfl⟩ := List.mem_map.mp added
        obtain ⟨policy, sweeps, same⟩ := leaves.swept execution present
        exact ⟨policy, sweeps_poll_iff.mpr ⟨lists, sweeps, same⟩⟩
      · rintro ⟨policy, sweeps⟩
        have swept := (sweeps_poll_iff.mp sweeps).2.1
        obtain ⟨execution, present, own⟩ := leaves.complete policy swept
        obtain ⟨policy', swept', same⟩ := leaves.swept execution present
        have sweeps' : Sweeps bdk db (.pollOnce ctx) policy' execution.erased :=
          sweeps_poll_iff.mpr ⟨lists, swept', same⟩
        have samePolicy : policy'.id = policy.id := sweeps'.sweepPolicyId.symm.trans own
        rw [sweeps.unique sweeps' samePolicy.symm]
        exact List.mem_map_of_mem present
  · rw [outcome]
    refine ⟨_, [], .of_carried (.of_same rfl) ?_⟩
    intro policy row sweeps
    exact unlisted (sweeps_poll_iff.mp sweeps).1

theorem executeSweepNow_leaves (bdk : Bdk Psbt Tx) (custody : Custody) (metadata : HoldingMetadata)
    (db : TreasuryDatabase) (policyId : Uuid) (amountSats : Option Int) (now : Timestamp) :
    ∃ kept new, TreasuryLeaves bdk db (.executeSweepNow custody metadata policyId amountSats now)
      (executeSweepNow custody metadata db policyId amountSats now).db kept new := by
  rcases executeSweepNow_cases custody metadata db policyId amountSats now with
    ⟨policy, provider, address, credentials, rfl, ready⟩ | ⟨refused, error, outcome⟩
  · have adds := (executeSweepNow_of_ready ready now).1
    refine ⟨_, _, .of_adds adds ?_ ?_⟩
    · cases manualRow custody policy (SweepSession.start db).freshExecutionId amountSats now provider
        address credentials <;> simp
    · intro row
      have erased : ((manualRow custody policy (SweepSession.start db).freshExecutionId amountSats now
            provider address credentials).toList.map SweepExecutionRow.erased) =
          (manualRow custody policy 0 amountSats now provider address credentials).toList := by
        rw [manualRow, manualRow]
        cases withdrawalAnswer custody provider credentials
            (policy.manualAmount provider amountSats) address with
        | ok withdrawalId => rfl
        | error error =>
            simp only [SweepExecutionRow.answered]
            split <;> rfl
      rw [erased, Option.mem_toList]
      constructor
      · intro left
        exact ⟨policy, .manual ready left⟩
      · rintro ⟨policy', sweeps⟩
        obtain ⟨same, provider', address', credentials', ready', left⟩ := sweeps_manual_iff.mp sweeps
        obtain ⟨rfl, rfl, rfl, rfl⟩ := ready.unique ready' same.symm
        exact left
  · rw [outcome]
    refine ⟨_, [], .of_carried (.of_same rfl) ?_⟩
    intro policy row sweeps
    obtain ⟨same, provider, address, credentials, ready, -⟩ := sweeps_manual_iff.mp sweeps
    exact refused policy provider address credentials same ready

theorem confirmSweepExecution_carried {executionId : Uuid}
    (run : confirmSweepExecution db executionId = .ok after) :
    ExecutionsCarried db.toDatabase after.toDatabase := by
  rw [confirmSweepExecution] at run
  split at run
  · cases run
  · rename_i execution found
    split at run
    · cases run
    · rename_i awaiting
      cases run
      simp only [SweepSession.updateStatus, SweepSession.start, SweepSession.commit, found]
      apply updateStatus_carried
      intro row stored isOver
      rw [found] at stored
      cases stored
      rw [not_not.mp awaiting] at isOver
      simp [SweepExecutionStatus.Over] at isOver

/-- What an operation of the rest of the program leaves. -/
theorem elsewhere_carried (bdk : Bdk Psbt Tx) {base : Operation} (legal : ElsewhereLegal db base) :
    ExecutionsCarried db.toDatabase (treasuryStep bdk db (.elsewhere base)).toDatabase := by
  have carried := step_carried bdk legal
  rw [treasuryStep, treasuryPerform]
  rw [step] at carried
  generalize perform bdk db.toDatabase base = out at carried ⊢
  obtain ⟨base', raised⟩ := out
  cases raised with
  | none => cases base <;> exact carried
  | some error => exact carried

variable (bdk) in
/-- What an operation leaves of the executions. -/
theorem treasuryLeaves_of_step {chain : Chain} (legal : TreasuryLegal chain db operation) :
    ∃ kept new, TreasuryLeaves bdk db operation (treasuryStep bdk db operation) kept new := by
  by_cases manages : operation.ManagesPolicies
  · have same := congrArg TreasuryDatabase.toDatabase
      (policySession_of_manages bdk db manages).tables
    refine ⟨_, [], .of_carried (.of_same (congrArg Database.sweepExecutions same)) ?_⟩
    intro policy row sweeps
    cases sweeps <;> exact manages
  · cases operation with
    | balanceUpdated listing holdingId balanceSats clock =>
        exact balanceUpdated_leaves bdk listing db holdingId balanceSats clock
    | pollOnce ctx => exact pollOnce_leaves bdk ctx db
    | executeSweepNow custody metadata policyId amountSats now =>
        exact executeSweepNow_leaves bdk custody metadata db policyId amountSats now
    | confirmSweepExecution executionId =>
        refine ⟨_, [], .of_carried ?_ fun policy row sweeps => by cases sweeps⟩
        rw [treasuryStep, treasuryPerform]
        cases run : confirmSweepExecution db executionId with
        | error error => exact .of_same rfl
        | ok after => exact confirmSweepExecution_carried run
    | writeProviders providers =>
        exact ⟨_, [], .of_carried (.of_same rfl) fun policy row sweeps => by cases sweeps⟩
    | elsewhere base =>
        exact ⟨_, [], .of_carried (elsewhere_carried bdk legal.2)
          fun policy row sweeps => by cases sweeps⟩
    | _ => exact absurd trivial manages

/-! ### The executions of one policy -/

/-- A list with at most one row of each policy has at most one of a given policy. -/
theorem ofPolicy_of_once (once : (new.map SweepExecutionRow.sweepPolicyId).Nodup)
    {row : SweepExecutionRow} (present : row ∈ new) : ofPolicy row.sweepPolicyId new = [row] :=
  filter_eq_singleton once present

variable (bdk) in
/-- Either an operation sweeps the policy, and its executions are the old ones and a new one, or it
    does not, and they are carried on. -/
theorem ofPolicy_of_step {chain : Chain} (legal : TreasuryLegal chain db operation)
    (policyId : Uuid) :
    (∃ policy row, policy.id = policyId ∧ Sweeps bdk db operation policy row.erased ∧
        db.sweepExecutions.get? row.id = none ∧
          ofPolicy policyId (treasuryStep bdk db operation).sweepExecutions.rows =
            ofPolicy policyId db.sweepExecutions.rows ++ [row]) ∨
      (∀ policy row, Sweeps bdk db operation policy row → policy.id ≠ policyId) ∧
        Carried SweepExecutionRow.Progress (ofPolicy policyId db.sweepExecutions.rows)
          (ofPolicy policyId (treasuryStep bdk db operation).sweepExecutions.rows) := by
  obtain ⟨kept, new, leaves⟩ := treasuryLeaves_of_step bdk legal
  have ofNew : ofPolicy policyId (treasuryStep bdk db operation).sweepExecutions.rows =
      ofPolicy policyId kept ++ ofPolicy policyId new := by
    rw [leaves.rows, ofPolicy_append]
  by_cases swept : ∃ policy row, Sweeps bdk db operation policy row ∧ policy.id = policyId
  · obtain ⟨policy, erased, sweeps, same⟩ := swept
    obtain ⟨row, present, rfl⟩ := List.mem_map.mp ((leaves.made erased).mpr ⟨policy, sweeps⟩)
    have own : row.sweepPolicyId = policyId := sweeps.sweepPolicyId.trans same
    have settled : kept = db.sweepExecutions.rows := by
      rcases leaves.settled with none | settled
      · rw [none] at present
        simp at present
      · exact settled
    refine .inl ⟨policy, row, same, sweeps, ?_, ?_⟩
    · rw [Table.get?_eq_none_iff]
      intro taken
      have nodup := (treasuryStep bdk db operation).sweepExecutions.keysNodup
      rw [leaves.rows, settled, List.map_append, List.nodup_append] at nodup
      exact nodup.2.2 row.id taken row.id (List.mem_map_of_mem (f := key) present) rfl
    · rw [ofNew, settled, ← own, ofPolicy_of_once leaves.once present]
  · refine .inr ⟨fun policy row sweeps same => swept ⟨policy, row, sweeps, same⟩, ?_⟩
    have nothing : ofPolicy policyId new = [] := by
      rw [ofPolicy, List.filter_eq_nil_iff]
      intro row present own
      obtain ⟨policy, sweeps⟩ := (leaves.made row.erased).mp (List.mem_map_of_mem present)
      have same : row.sweepPolicyId = policy.id := sweeps.sweepPolicyId
      exact swept ⟨policy, row.erased, sweeps, same.symm.trans (by simpa using own)⟩
    rw [ofNew, nothing, List.append_nil]
    apply leaves.carried.filter
    intro row row' progress
    rw [progress.sweepPolicyId]

end Leaves

end TallyKeep
