/-
Module: TallyKeep.Proofs.SweepTriggers
Layer: Proofs
Purpose: One specification for each trigger of executions: when it runs through, which policies it
  sweeps, and which rows it adds.
Trusted boundary: none
Main exports: listPolicies_ok_iff, EventSweeps, onBalanceUpdated_of_completes,
  onBalanceUpdated_adds
-/
import TallyKeep.Proofs.SweepSessions

namespace TallyKeep

open Relational

/-! ### Listings -/

theorem mapM_postInit_ok_iff {rows policies : List SweepPolicyRow} :
    rows.mapM SweepPolicyRow.postInit = .ok policies ↔
      policies = rows ∧ ∀ row ∈ rows, row.Loads :=
  mapM_check_ok_iff fun _ _ run => (SweepPolicyRow.postInit_ok run).1

@[simp] theorem PolicyListing.mem_arrange (listing : PolicyListing) {rows : List SweepPolicyRow}
    {row : SweepPolicyRow} : row ∈ listing.arrange rows ↔ row ∈ rows :=
  (listing.perm rows).mem_iff

/-- A listing returns exactly when every row it selects loads. -/
theorem listPolicies_ok_iff {listing : PolicyListing} {db : TreasuryDatabase}
    {sourceHoldingId : Option Uuid} {enabled : Option Bool} {policies : List SweepPolicyRow} :
    SweepPolicyRepo.listPolicies listing db sourceHoldingId enabled = .ok policies ↔
      policies = listing.arrange (SweepPolicyRepo.selected db sourceHoldingId enabled) ∧
        ∀ row ∈ SweepPolicyRepo.selected db sourceHoldingId enabled, row.Loads := by
  rw [SweepPolicyRepo.listPolicies, mapM_postInit_ok_iff]
  simp only [PolicyListing.mem_arrange]

theorem mem_selected {db : TreasuryDatabase} {sourceHoldingId : Option Uuid}
    {enabled : Option Bool} {row : SweepPolicyRow} :
    row ∈ SweepPolicyRepo.selected db sourceHoldingId enabled ↔
      row ∈ db.sweepPolicies.rows ∧
        (∀ holdingId, sourceHoldingId = some holdingId → row.sourceHoldingId = holdingId) ∧
          ∀ flag, enabled = some flag → row.isEnabled = flag := by
  simp [SweepPolicyRepo.selected, Table.mem_select, Option.all_eq_true]

/-- A listing names every policy once. -/
theorem arranged_nodup (listing : PolicyListing) (db : TreasuryDatabase)
    (sourceHoldingId : Option Uuid) (enabled : Option Bool) :
    ((listing.arrange (SweepPolicyRepo.selected db sourceHoldingId enabled)).map
      SweepPolicyRow.id).Nodup := by
  have perm := (listing.perm (SweepPolicyRepo.selected db sourceHoldingId enabled)).map
    SweepPolicyRow.id
  rw [perm.nodup_iff]
  exact db.sweepPolicies.keysNodup.sublist (List.filter_sublist.map SweepPolicyRow.id)

/-! ### Rows up to their ids -/

/-- A row without its id, which `uuid4` draws. -/
def SweepExecutionRow.erased (row : SweepExecutionRow) : SweepExecutionRow := { row with id := 0 }

/-- The executions of one policy among some rows. -/
def ofPolicy (policyId : Uuid) (rows : List SweepExecutionRow) : List SweepExecutionRow :=
  rows.filter fun row => decide (row.sweepPolicyId = policyId)

@[simp] theorem ofPolicy_nil (policyId : Uuid) : ofPolicy policyId [] = [] := rfl

@[simp] theorem ofPolicy_append (policyId : Uuid) (rows rows' : List SweepExecutionRow) :
    ofPolicy policyId (rows ++ rows') = ofPolicy policyId rows ++ ofPolicy policyId rows' :=
  List.filter_append ..

theorem mem_ofPolicy {policyId : Uuid} {rows : List SweepExecutionRow} {row : SweepExecutionRow} :
    row ∈ ofPolicy policyId rows ↔ row ∈ rows ∧ row.sweepPolicyId = policyId := by
  simp [ofPolicy]

/-! ### Balance events -/

/-- A threshold policy that a balance sweeps. -/
def SweepPolicyRow.SweptAt (policy : SweepPolicyRow) (balanceSats : Int) : Prop :=
  policy.triggerType = .threshold ∧ policy.Crosses balanceSats

instance (policy : SweepPolicyRow) (balanceSats : Int) : Decidable (policy.Crosses balanceSats) :=
  inferInstanceAs (Decidable (_ ∧ _))

instance (policy : SweepPolicyRow) (balanceSats : Int) : Decidable (policy.SweptAt balanceSats) :=
  inferInstanceAs (Decidable (_ ∧ _))

/-- The check of a threshold policy does not raise. -/
def SweepPolicyRow.Checkable (policy : SweepPolicyRow) (balanceSats : Int) : Prop :=
  policy.triggerType = .threshold → policy.Comparable balanceSats

section Events

variable {balanceSats : Int} {clock : Uuid → Timestamp} {session session' : SweepSession}
  {policy : SweepPolicyRow} {db : TreasuryDatabase} {executions : List SweepExecutionRow}
  {requests : List PaymentRequestRow}

variable (clock) in
theorem processPolicy_of_not_checkable (raises : ¬policy.Checkable balanceSats)
    (session : SweepSession) :
    ∃ error, processPolicy balanceSats clock session policy = .error error := by
  rw [SweepPolicyRow.Checkable, Classical.not_imp] at raises
  obtain ⟨error, evaluated⟩ := evaluateThreshold_error_iff.mpr raises.2
  exact ⟨error, by simp [processPolicy, raises.1, evaluated, bind, Except.bind]⟩

theorem processPolicy_of_not_swept (checkable : policy.Checkable balanceSats)
    (skipped : ¬policy.SweptAt balanceSats) (session : SweepSession) :
    processPolicy balanceSats clock session policy = .ok session := by
  by_cases threshold : policy.triggerType = .threshold
  · have evaluated := evaluateThreshold_none_iff.mpr
      ⟨checkable threshold, fun crosses => skipped ⟨threshold, crosses⟩⟩
    simp [processPolicy, threshold, evaluated, bind, Except.bind, pure, Except.pure]
  · simp [processPolicy, threshold, pure, Except.pure]

/-- A swept policy adds its execution; the terminal status of a dry run is written to no row. -/
theorem processPolicy_of_swept (loads : policy.Loads) (swept : policy.SweptAt balanceSats)
    (added : session.Added db executions requests) :
    processPolicy balanceSats clock session policy =
      .ok (session.create
        (policy.sweepRow session.freshExecutionId balanceSats (clock policy.id))) := by
  have evaluated := evaluateThreshold_some_iff.mpr ⟨swept.2, rfl⟩
  have built := thresholdExecution_ok loads swept.2 session (clock policy.id)
  have unwritten := @SweepSession.updateStatus_added session
    (policy.sweepRow session.freshExecutionId balanceSats (clock policy.id)) added.get?_fresh
    .completed none none (some (clock policy.id))
  simp only [processPolicy, swept.1, evaluated, built, unwritten, ne_eq, not_true_eq_false,
    if_false, bind, Except.bind, pure, Except.pure, ite_self]

/-- The loop over the policies of an event runs through exactly when no check raises, and then adds
    one execution for each swept policy. -/
theorem foldlM_processPolicy_ok {policies : List SweepPolicyRow}
    (loads : ∀ row ∈ policies, row.Loads) (added : session.Added db executions requests)
    (run : policies.foldlM (processPolicy balanceSats clock) session = .ok session') :
    (∀ row ∈ policies, row.Checkable balanceSats) ∧
      ∃ new, session'.Added db (executions ++ new) requests ∧
        new.map SweepExecutionRow.erased =
          (policies.filter fun row => decide (row.SweptAt balanceSats)).map fun row =>
            row.sweepRow 0 balanceSats (clock row.id) := by
  induction policies generalizing session executions with
  | nil =>
      cases run
      refine ⟨by simp, [], ?_, rfl⟩
      rw [List.append_nil]
      exact added
  | cons policy rest inductionHypothesis =>
      rw [List.foldlM_cons, bind_ok_iff] at run
      obtain ⟨middle, first, later⟩ := run
      have restLoads := fun row member => loads row (List.mem_cons_of_mem policy member)
      have checkable : policy.Checkable balanceSats := by
        by_contra raises
        obtain ⟨error, failed⟩ := processPolicy_of_not_checkable clock raises session
        rw [failed] at first
        cases first
      by_cases swept : policy.SweptAt balanceSats
      · rw [processPolicy_of_swept (loads policy List.mem_cons_self) swept added] at first
        cases first
        obtain ⟨others, new, addedAll, same⟩ := inductionHypothesis restLoads
          (added.create rfl) later
        refine ⟨List.forall_mem_cons.mpr ⟨checkable, others⟩,
          policy.sweepRow session.freshExecutionId balanceSats (clock policy.id) :: new, ?_, ?_⟩
        · rw [List.append_assoc] at addedAll
          exact addedAll
        · rw [List.filter_cons_of_pos (by simpa using swept), List.map_cons, List.map_cons, same]
          rfl
      · rw [processPolicy_of_not_swept checkable swept] at first
        cases first
        obtain ⟨others, new, addedAll, same⟩ := inductionHypothesis restLoads added later
        refine ⟨List.forall_mem_cons.mpr ⟨checkable, others⟩, new, addedAll, ?_⟩
        rw [List.filter_cons_of_neg (by simpa using swept), same]

variable (clock) in
theorem foldlM_processPolicy_of_checkable {policies : List SweepPolicyRow}
    (loads : ∀ row ∈ policies, row.Loads)
    (checkable : ∀ row ∈ policies, row.Checkable balanceSats)
    (added : session.Added db executions requests) :
    ∃ session', policies.foldlM (processPolicy balanceSats clock) session = .ok session' := by
  induction policies generalizing session executions with
  | nil => exact ⟨session, rfl⟩
  | cons policy rest inductionHypothesis =>
      have restLoads := fun row member => loads row (List.mem_cons_of_mem policy member)
      have restCheckable := fun row member => checkable row (List.mem_cons_of_mem policy member)
      rw [List.foldlM_cons]
      by_cases swept : policy.SweptAt balanceSats
      · rw [processPolicy_of_swept (loads policy List.mem_cons_self) swept added]
        exact inductionHypothesis restLoads restCheckable (added.create rfl)
      · rw [processPolicy_of_not_swept (checkable policy List.mem_cons_self) swept]
        exact inductionHypothesis restLoads restCheckable added

end Events

/-- An event runs through: every enabled policy of the holding loads and can be checked. -/
def EventCompletes (db : TreasuryDatabase) (holdingId : Uuid) (balanceSats : Int) : Prop :=
  ∀ row ∈ SweepPolicyRepo.selected db (some holdingId) (some true),
    row.Loads ∧ row.Checkable balanceSats

/-- An event that runs through sweeps the policy. -/
def EventSweeps (db : TreasuryDatabase) (holdingId : Uuid) (balanceSats : Int)
    (policy : SweepPolicyRow) : Prop :=
  EventCompletes db holdingId balanceSats ∧
    policy ∈ SweepPolicyRepo.selected db (some holdingId) (some true) ∧ policy.SweptAt balanceSats

/-- An event that does not run through leaves nothing: the session is rolled back. -/
theorem onBalanceUpdated_of_not_completes {db : TreasuryDatabase} {holdingId : Uuid}
    {balanceSats : Int} (raises : ¬EventCompletes db holdingId balanceSats)
    (listing : PolicyListing) (clock : Uuid → Timestamp) :
    ∃ error, onBalanceUpdated listing db holdingId balanceSats clock = ⟨db, [], some error⟩ := by
  rw [onBalanceUpdated]
  cases run : processThresholdPolicies listing (SweepSession.start db) holdingId balanceSats clock with
  | error error => exact ⟨error, rfl⟩
  | ok session =>
      rw [processThresholdPolicies, bind_ok_iff] at run
      obtain ⟨policies, listed, loop⟩ := run
      obtain ⟨rfl, loads⟩ := listPolicies_ok_iff.mp listed
      obtain ⟨checkable, -⟩ := foldlM_processPolicy_ok
        (fun row listed => loads row (listing.mem_arrange.mp listed)) (.start db) loop
      exact absurd
        (fun row selected => ⟨loads row selected, checkable row (listing.mem_arrange.mpr selected)⟩)
        raises

theorem onBalanceUpdated_of_completes {db : TreasuryDatabase} {holdingId : Uuid}
    {balanceSats : Int} (completes : EventCompletes db holdingId balanceSats)
    (listing : PolicyListing) (clock : Uuid → Timestamp) :
    ∃ after new, onBalanceUpdated listing db holdingId balanceSats clock = ⟨after, [], none⟩ ∧
      SweepAdds db new [] after ∧
      new.map SweepExecutionRow.erased =
        ((listing.arrange (SweepPolicyRepo.selected db (some holdingId) (some true))).filter
          fun row => decide (row.SweptAt balanceSats)).map
            fun row => row.sweepRow 0 balanceSats (clock row.id) := by
  have loads : ∀ row ∈ listing.arrange (SweepPolicyRepo.selected db (some holdingId) (some true)),
      row.Loads := fun row listed => (completes row (listing.mem_arrange.mp listed)).1
  have listed : SweepPolicyRepo.listPolicies listing db (some holdingId) (some true) =
      .ok (listing.arrange (SweepPolicyRepo.selected db (some holdingId) (some true))) :=
    listPolicies_ok_iff.mpr ⟨rfl, fun row selected => (completes row selected).1⟩
  obtain ⟨session, loop⟩ := foldlM_processPolicy_of_checkable clock loads
    (fun row listed => (completes row (listing.mem_arrange.mp listed)).2) (.start db)
  obtain ⟨-, new, added, same⟩ := foldlM_processPolicy_ok loads (.start db) loop
  refine ⟨session.commit, new, ?_, added.written, same⟩
  have run : processThresholdPolicies listing (SweepSession.start db) holdingId balanceSats clock =
      .ok session := by
    rw [processThresholdPolicies, bind_ok_iff]
    exact ⟨_, listed, loop⟩
  rw [onBalanceUpdated, run]

/-- An event adds executions and does nothing else. -/
theorem onBalanceUpdated_adds (listing : PolicyListing) (db : TreasuryDatabase) (holdingId : Uuid)
    (balanceSats : Int) (clock : Uuid → Timestamp) :
    (∃ new, SweepAdds db new [] (onBalanceUpdated listing db holdingId balanceSats clock).db) ∧
      (onBalanceUpdated listing db holdingId balanceSats clock).effects = [] := by
  by_cases completes : EventCompletes db holdingId balanceSats
  · obtain ⟨after, new, outcome, adds, -⟩ := onBalanceUpdated_of_completes completes listing clock
    rw [outcome]
    exact ⟨⟨new, adds⟩, rfl⟩
  · obtain ⟨error, outcome⟩ := onBalanceUpdated_of_not_completes completes listing clock
    rw [outcome]
    exact ⟨⟨[], .refl db⟩, rfl⟩

end TallyKeep
