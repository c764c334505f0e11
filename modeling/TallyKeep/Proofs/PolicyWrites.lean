/-
Module: TallyKeep.Proofs.PolicyWrites
Layer: Proofs
Purpose: What every operation writes to the table of policies.
Trusted boundary: none
Main exports: SweepPolicyRow.SameTerms, TreasuryOperation.Redefines, PolicyWrite,
  policySession_of_manages, policyWrite_of_step, PolicyWrite.sameTerms, TriggerStep
-/
import TallyKeep.Proofs.ManualSweeps
import TallyKeep.Proofs.PollRounds

namespace TallyKeep

open Relational Transition

variable {Psbt Tx : Type}

/-! ### Writes -/

/-- The rows are one policy, up to the switch and the warnings. -/
def SweepPolicyRow.SameTerms (row row' : SweepPolicyRow) : Prop :=
  row' = { row with isEnabled := row'.isEnabled, safetyWarnings := row'.safetyWarnings }

instance (row row' : SweepPolicyRow) : Decidable (row.SameTerms row') :=
  inferInstanceAs (Decidable (_ = _))

theorem SweepPolicyRow.SameTerms.refl (row : SweepPolicyRow) : row.SameTerms row := rfl

theorem SweepPolicyRow.SameTerms.trans {row row' row'' : SweepPolicyRow}
    (first : row.SameTerms row') (second : row'.SameTerms row'') : row.SameTerms row'' := by
  rw [SweepPolicyRow.SameTerms, second, first]

/-- The operations that set the terms of a policy. -/
def TreasuryOperation.Redefines : TreasuryOperation → Prop
  | .createSweepPolicy _ _ => True
  | .updateSweepPolicy _ _ _ => True
  | _ => False

/-- What an operation leaves in the table of policies. -/
inductive PolicyWrite (db : TreasuryDatabase) : TreasuryOperation → Table SweepPolicyRow → Prop where
  | kept (operation : TreasuryOperation) : PolicyWrite db operation db.sweepPolicies
  | created {metadata : HoldingMetadata} {order : PolicyOrder} {row : SweepPolicyRow}
      (fresh : db.sweepPolicies.get? row.id = none) (loads : row.Loads) :
      PolicyWrite db (.createSweepPolicy metadata order) (db.sweepPolicies.insert row)
  | redefined {metadata : HoldingMetadata} {policyId : Uuid} {patch : PolicyPatch}
      {f : SweepPolicyRow → SweepPolicyRow} {row : SweepPolicyRow}
      (keeps : ∀ row, (f row).id = row.id)
      (stored : db.sweepPolicies.get? policyId = some row) (loads : (f row).Loads) :
      PolicyWrite db (.updateSweepPolicy metadata policyId patch)
        (db.sweepPolicies.update policyId f keeps)
  | marked {operation : TreasuryOperation} {policyId : Uuid} {f : SweepPolicyRow → SweepPolicyRow}
      {row : SweepPolicyRow} (keeps : ∀ row, (f row).id = row.id)
      (stored : db.sweepPolicies.get? policyId = some row) (loads : (f row).Loads)
      (same : ∀ row : SweepPolicyRow, row.SameTerms (f row)) :
      PolicyWrite db operation (db.sweepPolicies.update policyId f keeps)
  | deleted (operation : TreasuryOperation) (gone : SweepPolicyRow → Bool) :
      PolicyWrite db operation (db.sweepPolicies.delete gone)
  | paused : PolicyWrite db .pauseAllPolicies (SweepPolicyRepo.pauseAll db).1.sweepPolicies
  | resumed : PolicyWrite db .resumeAllPolicies (SweepPolicyRepo.resumeAll db).1.sweepPolicies

/-- What an endpoint of policies leaves: it writes policies alone. -/
structure PolicySession (db : TreasuryDatabase) (operation : TreasuryOperation)
    (after : TreasuryDatabase) : Prop where
  tables : after = { db with sweepPolicies := after.sweepPolicies }
  write : PolicyWrite db operation after.sweepPolicies

theorem PolicySession.refl (db : TreasuryDatabase) (operation : TreasuryOperation) :
    PolicySession db operation db := ⟨rfl, .kept operation⟩

/-! ### The endpoints -/

/-- A write that returns has stored a policy that loads, or found none to write. -/
theorem modify_ok {db db' : TreasuryDatabase} {policyId : Uuid}
    {f : SweepPolicyRow → SweepPolicyRow} {keeps : ∀ row, (f row).id = row.id}
    {result : Option SweepPolicyRow}
    (run : SweepPolicyRepo.modify db policyId f keeps = .ok (db', result)) :
    db' = db ∨ ∃ row, db.sweepPolicies.get? policyId = some row ∧ (f row).Loads ∧
      db' = { db with sweepPolicies := db.sweepPolicies.update policyId f keeps } := by
  rw [SweepPolicyRepo.modify] at run
  split at run
  · cases run
    exact .inl rfl
  · rename_i row stored
    cases checked : (f row).postInit with
    | error error =>
        rw [checked] at run
        cases run
    | ok policy =>
        rw [checked] at run
        cases run
        exact .inr ⟨row, stored, (SweepPolicyRow.postInit_ok checked).2, rfl⟩

/-- A session is what it returns, or nothing when it raises. -/
theorem PolicySession.of_commit {db : TreasuryDatabase} {operation : TreasuryOperation}
    {out : Except PyError TreasuryDatabase}
    (returned : ∀ db', out = .ok db' → PolicySession db operation db') :
    PolicySession db operation (commitTreasury db out).db := by
  cases out with
  | error error => exact .refl db operation
  | ok db' => exact returned db' rfl

/-- A write of a policy that keeps its terms. -/
theorem PolicySession.of_modify {db db' : TreasuryDatabase} {policyId : Uuid}
    {f : SweepPolicyRow → SweepPolicyRow} {keeps : ∀ row, (f row).id = row.id}
    {result : Option SweepPolicyRow}
    (run : SweepPolicyRepo.modify db policyId f keeps = .ok (db', result))
    (same : ∀ row : SweepPolicyRow, row.SameTerms (f row)) (operation : TreasuryOperation) :
    PolicySession db operation db' := by
  rcases modify_ok run with rfl | ⟨row, stored, loads, rfl⟩
  · exact .refl db' operation
  · exact ⟨rfl, .marked keeps stored loads same⟩

variable {db db' : TreasuryDatabase} {policyId : Uuid} {policy : SweepPolicyRow}

/-- A session that creates a policy writes that policy. -/
theorem createSweepPolicy_session {metadata : HoldingMetadata} {order : PolicyOrder}
    (run : createSweepPolicy metadata db order = .ok (db', policy)) :
    PolicySession db (.createSweepPolicy metadata order) db' := by
  rw [createSweepPolicy, bind_ok_iff] at run
  obtain ⟨source, -, run⟩ := run
  rw [bind_ok_iff] at run
  obtain ⟨destination, -, run⟩ := run
  split at run
  · cases run
  · rw [bind_ok_iff] at run
    obtain ⟨provider, -, run⟩ := run
    simp only at run
    rw [bind_ok_iff] at run
    obtain ⟨row, checked, run⟩ := run
    obtain ⟨rfl, loads⟩ := SweepPolicyRow.postInit_ok checked
    cases run
    exact ⟨rfl, .created db.sweepPolicies.get?_freshKey loads⟩

/-- A session that patches a policy writes that policy. -/
theorem updateSweepPolicy_session {metadata : HoldingMetadata} {patch : PolicyPatch}
    (run : updateSweepPolicy metadata db policyId patch = .ok (db', policy)) :
    PolicySession db (.updateSweepPolicy metadata policyId patch) db' := by
  rw [updateSweepPolicy, bind_ok_iff] at run
  obtain ⟨old, -, run⟩ := run
  rw [bind_ok_iff] at run
  obtain ⟨warnings, -, run⟩ := run
  rw [bind_ok_iff] at run
  obtain ⟨written, modified, run⟩ := run
  cases run
  rcases modify_ok modified with same | ⟨row, stored, loads, same⟩
  · rw [same]
    exact .refl db _
  · rw [same]
    exact ⟨rfl, .redefined (f := fun row => row.patched patch warnings) (fun _ => rfl) stored loads⟩

/-- A session that deletes a policy writes nothing else. -/
theorem deleteSweepPolicy_session (run : deleteSweepPolicy db policyId = .ok db') :
    PolicySession db (.deleteSweepPolicy policyId) db' := by
  rw [deleteSweepPolicy, bind_ok_iff] at run
  obtain ⟨old, -, run⟩ := run
  split at run
  · cases run
  · rw [SweepPolicyRepo.delete] at run
    split at run
    · cases run
    · cases run
      exact ⟨rfl, .deleted _ _⟩

/-- A session that enables a policy writes that policy. -/
theorem enableSweepPolicy_session (run : enableSweepPolicy db policyId = .ok (db', policy)) :
    PolicySession db (.enableSweepPolicy policyId) db' := by
  rw [enableSweepPolicy, bind_ok_iff] at run
  obtain ⟨old, -, run⟩ := run
  split at run
  · cases run
  · rw [bind_ok_iff] at run
    obtain ⟨written, modified, run⟩ := run
    cases run
    exact .of_modify modified (fun _ => rfl) _

/-- A session that disables a policy writes that policy. -/
theorem disableSweepPolicy_session (run : disableSweepPolicy db policyId = .ok (db', policy)) :
    PolicySession db (.disableSweepPolicy policyId) db' := by
  rw [disableSweepPolicy, bind_ok_iff] at run
  obtain ⟨old, -, run⟩ := run
  rw [bind_ok_iff] at run
  obtain ⟨written, modified, run⟩ := run
  cases run
  exact .of_modify modified (fun _ => rfl) _

/-- A session that acknowledges warnings writes that policy. -/
theorem acknowledgeWarnings_session (run : acknowledgeWarnings db policyId = .ok (db', policy)) :
    PolicySession db (.acknowledgeWarnings policyId) db' := by
  rw [acknowledgeWarnings, bind_ok_iff] at run
  obtain ⟨old, -, run⟩ := run
  rw [bind_ok_iff] at run
  obtain ⟨⟨written, result⟩, modified, run⟩ := run
  split at run
  · cases run
  · rename_i same
    cases run
    cases same
    exact .of_modify modified (fun _ => rfl) _

/-! ### The triggers -/

/-- A balance event leaves the policies. -/
theorem onBalanceUpdated_policies (listing : PolicyListing) (db : TreasuryDatabase)
    (holdingId : Uuid) (balanceSats : Int) (clock : Uuid → Timestamp) :
    (onBalanceUpdated listing db holdingId balanceSats clock).db.sweepPolicies =
      db.sweepPolicies := by
  obtain ⟨⟨new, adds⟩, -⟩ := onBalanceUpdated_adds listing db holdingId balanceSats clock
  exact adds.sweepPolicies

/-- A poll leaves the policies. -/
theorem pollOnce_policies (bdk : Bdk Psbt Tx) (ctx : PollContext) (db : TreasuryDatabase) :
    (pollOnce bdk ctx db).db.sweepPolicies = db.sweepPolicies := by
  rcases pollOnce_cases bdk ctx db with ⟨-, outcome, new, made, leaves⟩ | ⟨-, error, outcome⟩
  · rw [outcome]
    exact leaves.adds.sweepPolicies
  · rw [outcome]

/-- A manual sweep leaves the policies. -/
theorem executeSweepNow_policies (custody : Custody) (metadata : HoldingMetadata)
    (db : TreasuryDatabase) (policyId : Uuid) (amountSats : Option Int) (now : Timestamp) :
    (executeSweepNow custody metadata db policyId amountSats now).db.sweepPolicies =
      db.sweepPolicies := by
  obtain ⟨new, adds⟩ := executeSweepNow_adds custody metadata db policyId amountSats now
  exact adds.sweepPolicies

/-- The confirmation of an execution leaves the policies. -/
theorem confirmSweepExecution_policies {executionId : Uuid}
    (run : confirmSweepExecution db executionId = .ok db') :
    db'.sweepPolicies = db.sweepPolicies := by
  rw [confirmSweepExecution] at run
  split at run
  · cases run
  · split at run
    · cases run
    · cases run
      simp only [SweepSession.updateStatus, SweepSession.start, SweepSession.commit]
      split <;> rfl

/-! ### Every operation -/

/-- The endpoints of policies. -/
def TreasuryOperation.ManagesPolicies : TreasuryOperation → Prop
  | .createSweepPolicy _ _ => True
  | .updateSweepPolicy _ _ _ => True
  | .deleteSweepPolicy _ => True
  | .enableSweepPolicy _ => True
  | .disableSweepPolicy _ => True
  | .acknowledgeWarnings _ => True
  | .pauseAllPolicies => True
  | .resumeAllPolicies => True
  | _ => False

/-- Every operation that manages policies is a session on them. -/
theorem policySession_of_manages (bdk : Bdk Psbt Tx) (db : TreasuryDatabase)
    {operation : TreasuryOperation} (manages : operation.ManagesPolicies) :
    PolicySession db operation (treasuryStep bdk db operation) := by
  rw [treasuryStep]
  cases operation with
  | createSweepPolicy metadata order =>
      apply PolicySession.of_commit
      intro db' run
      obtain ⟨policy, run⟩ := map_fst_ok run
      exact createSweepPolicy_session run
  | updateSweepPolicy metadata policyId patch =>
      apply PolicySession.of_commit
      intro db' run
      obtain ⟨policy, run⟩ := map_fst_ok run
      exact updateSweepPolicy_session run
  | deleteSweepPolicy policyId => exact .of_commit fun db' run => deleteSweepPolicy_session run
  | enableSweepPolicy policyId =>
      apply PolicySession.of_commit
      intro db' run
      obtain ⟨policy, run⟩ := map_fst_ok run
      exact enableSweepPolicy_session run
  | disableSweepPolicy policyId =>
      apply PolicySession.of_commit
      intro db' run
      obtain ⟨policy, run⟩ := map_fst_ok run
      exact disableSweepPolicy_session run
  | acknowledgeWarnings policyId =>
      apply PolicySession.of_commit
      intro db' run
      obtain ⟨policy, run⟩ := map_fst_ok run
      exact acknowledgeWarnings_session run
  | pauseAllPolicies => exact ⟨rfl, .paused⟩
  | resumeAllPolicies => exact ⟨rfl, .resumed⟩
  | _ => exact absurd manages id

/-- What an operation writes to the table of policies. -/
theorem policyWrite_of_step (bdk : Bdk Psbt Tx) (db : TreasuryDatabase)
    (operation : TreasuryOperation) :
    PolicyWrite db operation (treasuryStep bdk db operation).sweepPolicies := by
  have kept : ∀ table, table = db.sweepPolicies → PolicyWrite db operation table := by
    rintro table rfl
    exact .kept operation
  by_cases manages : operation.ManagesPolicies
  · exact (policySession_of_manages bdk db manages).write
  · rw [treasuryStep]
    cases operation with
    | balanceUpdated listing holdingId balanceSats clock =>
        exact kept _ (onBalanceUpdated_policies listing db holdingId balanceSats clock)
    | pollOnce ctx => exact kept _ (pollOnce_policies bdk ctx db)
    | executeSweepNow custody metadata policyId amountSats now =>
        exact kept _ (executeSweepNow_policies custody metadata db policyId amountSats now)
    | confirmSweepExecution executionId =>
        apply kept
        simp only [treasuryPerform]
        cases run : confirmSweepExecution db executionId with
        | error error => rfl
        | ok db' => exact confirmSweepExecution_policies run
    | writeProviders providers => exact .kept _
    | elsewhere base =>
        simp only [treasuryPerform]
        split
        · cases base with
          | deleteHolding holdingId policyIds => exact .deleted _ _
          | _ => exact .kept _
        · exact .kept _
    | _ => exact absurd trivial manages

variable {table : Table SweepPolicyRow} {operation : TreasuryOperation}

/-- Only the endpoints that set terms change those of a stored policy, or store a new one. -/
theorem PolicyWrite.sameTerms (write : PolicyWrite db operation table)
    (defined : ¬operation.Redefines) {row' : SweepPolicyRow} (stored : row' ∈ table.rows) :
    ∃ row ∈ db.sweepPolicies.rows, row.SameTerms row' := by
  have switched : ∀ enabled, row' ∈ db.sweepPolicies.rows.map (fun row => row.switched enabled) →
      ∃ row ∈ db.sweepPolicies.rows, row.SameTerms row' := by
    intro enabled member
    obtain ⟨row, present, rfl⟩ := List.mem_map.mp member
    rw [SweepPolicyRow.switched_eq]
    exact ⟨row, present, rfl⟩
  cases write with
  | kept => exact ⟨row', stored, .refl row'⟩
  | created => exact absurd trivial defined
  | redefined => exact absurd trivial defined
  | @marked _ policyId f _ _ _ _ same =>
      obtain ⟨row, present, rfl⟩ := List.mem_map.mp stored
      refine ⟨row, present, ?_⟩
      split
      · exact same row
      · exact .refl row
  | deleted => exact ⟨row', (List.mem_filter.mp stored).1, .refl row'⟩
  | paused => exact switched false stored
  | resumed => exact switched true stored

/-- What is found under an id after such an operation was there before, with the same terms. -/
theorem PolicyWrite.get?_sameTerms (write : PolicyWrite db operation table)
    (defined : ¬operation.Redefines) {row' : SweepPolicyRow}
    (found : table.get? policyId = some row') :
    ∃ row, db.sweepPolicies.get? policyId = some row ∧ row.SameTerms row' := by
  obtain ⟨stored, own⟩ := Table.get?_eq_some_iff.mp found
  obtain ⟨row, present, same⟩ := write.sameTerms defined stored
  refine ⟨row, Table.get?_eq_some_iff.mpr ⟨present, ?_⟩, same⟩
  rw [← own, same]
  rfl

/-- Such an operation keeps a policy's terms as long as it is stored. -/
theorem sameTerms_of_step (bdk : Bdk Psbt Tx) {policy : SweepPolicyRow}
    (terms : ∀ row, db.sweepPolicies.get? policy.id = some row → policy.SameTerms row)
    (defined : ¬operation.Redefines) {row' : SweepPolicyRow}
    (found : (treasuryStep bdk db operation).sweepPolicies.get? policy.id = some row') :
    policy.SameTerms row' := by
  obtain ⟨row, stored, same⟩ := (policyWrite_of_step bdk db operation).get?_sameTerms defined found
  exact (terms row stored).trans same

/-- The steps that leave the terms of every policy alone: triggers, confirmations, switches of
    policies, and all that the rest of the program does. -/
def TriggerStep (bdk : Bdk Psbt Tx) (chain : Chain) :
    TreasuryDatabase → TreasuryOperation → TreasuryDatabase → Prop :=
  guarded (TreasuryStep bdk chain) fun _ operation => ¬operation.Redefines

end TallyKeep
