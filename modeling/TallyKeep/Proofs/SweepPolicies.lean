/-
Module: TallyKeep.Proofs.SweepPolicies
Layer: Proofs
Purpose: Stored policies: in which runs all of them load, and what pausing and resuming them
  restores.
Trusted boundary: none
Main exports: PoliciesLoad, ResumesAcknowledged, policiesLoad_throughout_iff, enabledIds,
  pausedAndResumed, enabled_restored_iff
-/
import TallyKeep.Proofs.Confirmation
import TallyKeep.Proofs.PolicyWrites

namespace TallyKeep

open Relational Transition

variable {Psbt Tx : Type}

/-! ### Policies that load -/

/-- Enabled policies have no pending warning, and every listing and every lookup of policies
    returns. -/
structure PoliciesLoad (db : TreasuryDatabase) : Prop where
  acknowledged : ∀ row ∈ db.sweepPolicies.rows, row.isEnabled = true →
    ∀ warning ∈ row.safetyWarnings, warning.userAcknowledged = true
  listed : ∀ listing sourceHoldingId enabled, ∃ policies,
    SweepPolicyRepo.listPolicies listing db sourceHoldingId enabled = .ok policies
  got : ∀ policyId, ∃ policy, SweepPolicyRepo.get db policyId = .ok policy

/-- The listing in table order. -/
def PolicyListing.inOrder : PolicyListing := ⟨id, fun rows => .refl rows⟩

theorem SweepPolicyRow.unacknowledged_eq_nil_iff {row : SweepPolicyRow} :
    row.unacknowledged = [] ↔
      ∀ warning ∈ row.safetyWarnings, warning.userAcknowledged = true := by
  simp [unacknowledged, List.filter_eq_nil_iff]

theorem policiesLoad_iff {db : TreasuryDatabase} :
    PoliciesLoad db ↔ ∀ row ∈ db.sweepPolicies.rows, row.Loads := by
  constructor
  · intro load row stored
    obtain ⟨policies, listed⟩ := load.listed PolicyListing.inOrder none none
    exact (listPolicies_ok_iff.mp listed).2 row (mem_selected.mpr ⟨stored, by simp, by simp⟩)
  · intro loads
    constructor
    · intro row stored enabled
      rw [← SweepPolicyRow.unacknowledged_eq_nil_iff]
      exact (SweepPolicyRow.loads_iff.mp (loads row stored)).2.2.2 enabled
    · intro listing sourceHoldingId enabled
      exact ⟨_, listPolicies_ok_iff.mpr
        ⟨rfl, fun row selected => loads row (mem_selected.mp selected).1⟩⟩
    · intro policyId
      rw [SweepPolicyRepo.get]
      cases found : db.sweepPolicies.get? policyId with
      | none => exact ⟨none, rfl⟩
      | some row =>
          have checked : row.postInit = .ok row := loads row (Table.mem_of_get? found)
          exact ⟨some row, by simp [checked, Except.map]⟩

/-- A policy that is switched off still loads. -/
theorem SweepPolicyRow.Loads.switchedOff {row : SweepPolicyRow} (loads : row.Loads) :
    (row.switched false).Loads := by
  rw [loads_iff] at loads
  rw [switched_eq, loads_iff]
  exact ⟨loads.1, loads.2.1, loads.2.2.1, by simp⟩

/-- A policy that loads still does when it is switched on exactly if no warning is pending. -/
theorem SweepPolicyRow.Loads.switchedOn_iff {row : SweepPolicyRow} (loads : row.Loads) :
    (row.switched true).Loads ↔ row.unacknowledged = [] := by
  rw [loads_iff] at loads
  rw [switched_eq, loads_iff]
  constructor
  · intro switched
    exact switched.2.2.2 rfl
  · intro settled
    exact ⟨loads.1, loads.2.1, loads.2.2.1, fun _ => settled⟩

/-- Whoever resumes all policies does so when no disabled one has a pending warning. -/
def ResumesAcknowledged (db : TreasuryDatabase) (operation : TreasuryOperation) : Prop :=
  operation = .resumeAllPolicies →
    ∀ row ∈ db.sweepPolicies.rows, row.isEnabled = false → row.unacknowledged = []

/-- After any operation all policies load exactly if it resumes none with a pending warning. -/
theorem PolicyWrite.loads_iff {db : TreasuryDatabase} {operation : TreasuryOperation}
    {table : Table SweepPolicyRow} (write : PolicyWrite db operation table)
    (loads : ∀ row ∈ db.sweepPolicies.rows, row.Loads)
    (resumed : operation = .resumeAllPolicies →
      table = (SweepPolicyRepo.resumeAll db).1.sweepPolicies) :
    (∀ row ∈ table.rows, row.Loads) ↔ ResumesAcknowledged db operation := by
  have updated : ∀ policyId (f : SweepPolicyRow → SweepPolicyRow)
      (keeps : ∀ row, (f row).id = row.id) (row : SweepPolicyRow),
      db.sweepPolicies.get? policyId = some row → (f row).Loads →
        ∀ row' ∈ (db.sweepPolicies.update policyId f keeps).rows, row'.Loads := by
    intro policyId f keeps row stored fits row' member
    obtain ⟨old, present, rfl⟩ := List.mem_map.mp member
    split
    · rename_i hit
      have same : db.sweepPolicies.get? policyId = some old := by
        rw [← hit]
        exact Table.get?_of_mem present
      rw [stored] at same
      cases same
      exact fits
    · exact loads old present
  by_cases resumes : operation = .resumeAllPolicies
  · rw [resumed resumes, ResumesAcknowledged]
    simp only [resumes, true_implies, SweepPolicyRepo.resumeAll, SweepPolicyRepo.switchAll,
      Table.rows_updateAll, List.forall_mem_map]
    constructor
    · intro all row stored disabled
      exact ((loads row stored).switchedOn_iff).mp (all row stored)
    · intro acknowledged row stored
      rw [(loads row stored).switchedOn_iff]
      cases enabled : row.isEnabled with
      | false => exact acknowledged row stored enabled
      | true => exact (SweepPolicyRow.loads_iff.mp (loads row stored)).2.2.2 enabled
  · apply iff_of_true _ fun same => absurd same resumes
    intro row member
    cases write with
    | kept => exact loads row member
    | created fresh fits =>
        rw [Table.rows_insert_of_fresh fresh, List.mem_append, List.mem_singleton] at member
        rcases member with old | rfl
        · exact loads row old
        · exact fits
    | redefined keeps stored fits => exact updated _ _ keeps _ stored fits row member
    | marked keeps stored fits => exact updated _ _ keeps _ stored fits row member
    | deleted => exact loads row (List.mem_filter.mp member).1
    | paused =>
        obtain ⟨old, present, rfl⟩ := List.mem_map.mp member
        exact (loads old present).switchedOff
    | resumed => exact absurd rfl resumes

/-- Along a run all policies load in every state exactly if every resumption of all of them finds no
    disabled policy with a pending warning. -/
theorem policiesLoad_throughout_iff (bdk : Bdk Psbt Tx) (chain : Chain) {db db' : TreasuryDatabase}
    {operations : List TreasuryOperation} (load : PoliciesLoad db) :
    Throughout (TreasuryStep bdk chain) PoliciesLoad (fun _ _ => True) db operations db' ↔
      Run (guarded (TreasuryStep bdk chain) ResumesAcknowledged) db operations db' := by
  apply Run.throughout_iff (I := fun _ => True) _ _ trivial load
  · intro _ _ _ _ _
    trivial
  · intro s operation t _ loads taken
    obtain ⟨-, rfl⟩ := taken
    have write := policyWrite_of_step bdk s operation
    rw [true_and, policiesLoad_iff]
    apply write.loads_iff (policiesLoad_iff.mp loads)
    rintro rfl
    rfl

/-! ### A policy that is resumed with its warnings -/

/-- The provider of the sample Account. -/
def sampleProvider : CustodialProviderRow where
  id := 1
  holdingId := 30
  displayName := "Kraken"
  adapterId := "kraken"
  apiCredentialReference := "kraken key"
  apiSecretReference := "kraken secret"
  apiPassphraseReference := none
  whitelistVerified := true
  lastKnownBalanceSats := some 100000

/-- A treasury over the two sample holdings and an Account, without policies. -/
def sampleTreasury : TreasuryDatabase where
  toDatabase :=
    (setupOperations 10 20 ++ [Operation.registerHolding ⟨30, .account, .spending, .notApplicable⟩]).foldl
      (step sampleBdk) Database.empty
  sweepPolicies := .empty
  custodialProviders := ⟨[sampleProvider], by simp⟩

/-- The checks on the columns that are in no table pass. -/
def sampleMetadata : HoldingMetadata := fun _ => .ok ()

/-- A policy to the second sample holding. -/
def samplePolicyOrder (sourceHoldingId : Uuid) (isDryRun : Bool) : PolicyOrder where
  name := "overflow"
  sourceHoldingId := sourceHoldingId
  destinationHoldingId := 20
  triggerType := .threshold
  triggerConfiguration := ⟨some (.number 50000), some (.number 24)⟩
  minimumBalanceSats := 0
  maximumPerPeriodSats := some 40000
  requiresUserConfirmation := false
  isDryRun := isDryRun

/-- The sample treasury with the policy, as its creation leaves it. -/
def sampleCreated (sourceHoldingId : Uuid) (isDryRun : Bool) : TreasuryDatabase :=
  treasuryStep sampleBdk sampleTreasury
    (.createSweepPolicy sampleMetadata (samplePolicyOrder sourceHoldingId isDryRun))

/-- Its warnings are acknowledged and it is enabled. -/
def sampleEnabled (sourceHoldingId : Uuid) (isDryRun : Bool) : TreasuryDatabase :=
  treasuryStep sampleBdk
    (treasuryStep sampleBdk (sampleCreated sourceHoldingId isDryRun) (.acknowledgeWarnings 1))
    (.enableSweepPolicy 1)

/-- The terms of the sample policy. -/
def samplePolicy (sourceHoldingId : Uuid) (isDryRun : Bool) : SweepPolicyRow :=
  (samplePolicyOrder sourceHoldingId isDryRun).policy 1 []

theorem policiesLoad_sampleTreasury : PoliciesLoad sampleTreasury := by
  rw [policiesLoad_iff]
  simp [sampleTreasury]

/-- A policy is created, switched off with all others, and resumed once its warnings are
    acknowledged. -/
def sampleResumption : List TreasuryOperation :=
  [.createSweepPolicy sampleMetadata (samplePolicyOrder 10 false), .pauseAllPolicies,
    .acknowledgeWarnings 1, .resumeAllPolicies]

/-- It is enabled, and all policies load. -/
theorem policiesLoad_throughout_iff_resume :
    (sampleResumption.foldl (treasuryStep sampleBdk) sampleTreasury).sweepPolicies.rows.map
        SweepPolicyRow.isEnabled = [true] ∧
      Throughout (TreasuryStep sampleBdk sampleChain) PoliciesLoad (fun _ _ => True) sampleTreasury
        sampleResumption (sampleResumption.foldl (treasuryStep sampleBdk) sampleTreasury) := by
  refine ⟨by decide, ?_⟩
  apply (policiesLoad_throughout_iff sampleBdk sampleChain policiesLoad_sampleTreasury).mpr
  have acknowledged : ResumesAcknowledged
      ((sampleResumption.take 3).foldl (treasuryStep sampleBdk) sampleTreasury)
      .resumeAllPolicies := by
    intro _
    decide
  refine .cons ⟨?_, trivial, rfl⟩ (.cons ⟨?_, trivial, rfl⟩ (.cons ⟨?_, trivial, rfl⟩
    (.cons ⟨acknowledged, trivial, rfl⟩ (.stop _)))) <;>
    simp [ResumesAcknowledged]

/-- A policy is created with warnings and all policies are resumed: no listing returns any more. -/
theorem not_policiesLoad_of_resume :
    Run (TreasuryStep sampleBdk sampleChain) sampleTreasury
        [.createSweepPolicy sampleMetadata (samplePolicyOrder 10 false), .resumeAllPolicies]
        (treasuryStep sampleBdk (sampleCreated 10 false) .resumeAllPolicies) ∧
      ¬PoliciesLoad
        (treasuryStep sampleBdk (sampleCreated 10 false) .resumeAllPolicies) := by
  refine ⟨.cons ⟨trivial, rfl⟩ (.cons ⟨trivial, rfl⟩ (.stop _)), ?_⟩
  intro load
  obtain ⟨policies, listed⟩ := load.listed PolicyListing.inOrder none none
  have raises : (SweepPolicyRepo.listPolicies PolicyListing.inOrder
      (treasuryStep sampleBdk (sampleCreated 10 false) .resumeAllPolicies) none none).isOk = false := by
    decide
  rw [listed] at raises
  cases raises

/-! ### Pausing and resuming -/

/-- The enabled policies. -/
def enabledIds (db : TreasuryDatabase) : List Uuid :=
  (db.sweepPolicies.select SweepPolicyRow.isEnabled).map SweepPolicyRow.id

/-- Some pauses of all policies, then one resumption. -/
def pausedAndResumed (pauses : Nat) : List TreasuryOperation :=
  List.replicate pauses .pauseAllPolicies ++ [.resumeAllPolicies]

theorem switchAll_ids (db : TreasuryDatabase) (enabled : Bool) :
    (SweepPolicyRepo.switchAll db enabled).1.sweepPolicies.rows.map SweepPolicyRow.id =
      db.sweepPolicies.rows.map SweepPolicyRow.id := by
  simp [SweepPolicyRepo.switchAll, Function.comp_def]

theorem foldl_pauses_ids (bdk : Bdk Psbt Tx) (db : TreasuryDatabase) (pauses : Nat) :
    ((List.replicate pauses TreasuryOperation.pauseAllPolicies).foldl (treasuryStep bdk)
        db).sweepPolicies.rows.map SweepPolicyRow.id =
      db.sweepPolicies.rows.map SweepPolicyRow.id := by
  induction pauses generalizing db with
  | zero => rfl
  | succ pauses inductionHypothesis =>
      rw [List.replicate_succ, List.foldl_cons, inductionHypothesis]
      exact switchAll_ids db false

/-- A resumption enables every policy. -/
theorem enabledIds_resumeAll (bdk : Bdk Psbt Tx) (db : TreasuryDatabase) :
    enabledIds (treasuryStep bdk db .resumeAllPolicies) =
      db.sweepPolicies.rows.map SweepPolicyRow.id := by
  have all : ∀ row ∈ (SweepPolicyRepo.resumeAll db).1.sweepPolicies.rows, row.isEnabled = true := by
    intro row member
    obtain ⟨old, -, rfl⟩ := List.mem_map.mp member
    simp
  change ((SweepPolicyRepo.resumeAll db).1.sweepPolicies.rows.filter
    SweepPolicyRow.isEnabled).map SweepPolicyRow.id = _
  rw [List.filter_eq_self.mpr all]
  exact switchAll_ids db true

/-- Pausing all policies, any number of times, and resuming them restores the enabled ones exactly
    if all of them were enabled. -/
theorem enabled_restored_iff (bdk : Bdk Psbt Tx) (db : TreasuryDatabase) (pauses : Nat) :
    (∀ policyId,
        policyId ∈ enabledIds ((pausedAndResumed pauses).foldl (treasuryStep bdk) db) ↔
          policyId ∈ enabledIds db) ↔
      ∀ row ∈ db.sweepPolicies.rows, row.isEnabled = true := by
  rw [pausedAndResumed, List.foldl_append, List.foldl_cons, List.foldl_nil, enabledIds_resumeAll,
    foldl_pauses_ids]
  constructor
  · intro restored row stored
    have listed := (restored row.id).mp (List.mem_map_of_mem stored)
    obtain ⟨other, selected, same⟩ := List.mem_map.mp listed
    obtain ⟨present, enabled⟩ := Table.mem_select.mp selected
    rw [← Table.eq_of_key_eq present stored same]
    exact enabled
  · intro all policyId
    rw [enabledIds, Table.select, List.filter_eq_self.mpr all]

/-- The sample policy was never enabled; pausing and resuming enables it. -/
theorem not_enabled_restored_of_disabled :
    ¬∀ policyId,
      policyId ∈ enabledIds
          ((pausedAndResumed 1).foldl (treasuryStep sampleBdk) (sampleCreated 10 false)) ↔
        policyId ∈ enabledIds (sampleCreated 10 false) := by
  intro restored
  have before : enabledIds (sampleCreated 10 false) = [] := by
    decide
  have after : enabledIds ((pausedAndResumed 1).foldl (treasuryStep sampleBdk)
      (sampleCreated 10 false)) = [1] := by
    decide
  have same := restored 1
  rw [before, after] at same
  simp at same

end TallyKeep
