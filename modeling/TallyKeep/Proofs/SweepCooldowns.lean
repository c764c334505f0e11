/-
Module: TallyKeep.Proofs.SweepCooldowns
Layer: Proofs
Purpose: When balance events and polls have to come so that the executions of a policy never overlap
  and keep its cooldown between them.
Trusted boundary: none
Main exports: SweepPolicyRow.cooldown, Rested, SweptAlone, FiresRested, sweptAlone_step_iff,
  sweptAlone_throughout_iff
-/
import TallyKeep.Proofs.SweepCaps

namespace TallyKeep

open Relational Transition History

variable {Psbt Tx : Type}

/-! ### Cooldowns -/

/-- `cooldown_hours` of the configuration as a time span; nothing else in the program reads it. -/
def SweepPolicyRow.cooldown (policy : SweepPolicyRow) : ℚ :=
  (policy.triggerConfiguration.cooldownHours.bind JsonValue.asNumber).getD 0 * hour

/-- At a time the cooldown of an execution triggered earlier has passed. -/
def SweepPolicyRow.CooledDown (policy : SweepPolicyRow) (triggered now : Timestamp) : Prop :=
  policy.cooldown ≤ ((now - triggered : Nat) : ℚ)

instance (policy : SweepPolicyRow) (triggered now : Timestamp) :
    Decidable (policy.CooledDown triggered now) :=
  inferInstanceAs (Decidable (_ ≤ _))

/-- Cooldowns add up. -/
theorem SweepPolicyRow.CooledDown.trans {policy : SweepPolicyRow} {first second third : Timestamp}
    (earlier : policy.CooledDown first second) (later : policy.CooledDown second third) :
    policy.CooledDown first third := by
  by_cases none : policy.cooldown ≤ 0
  · exact none.trans (Nat.cast_nonneg _)
  · have positive : (0 : ℚ) < ((second - first : Nat) : ℚ) := (not_le.mp none).trans_le earlier
    have before : first < second := Nat.sub_pos_iff_lt.mp (Nat.cast_pos.mp positive)
    exact le_trans later (Nat.cast_le.mpr (Nat.sub_le_sub_left before.le third))

/-- At the time every execution of the policy is over and has cooled down. -/
def Rested (policy : SweepPolicyRow) (db : TreasuryDatabase) (now : Timestamp) : Prop :=
  ∀ row ∈ ofPolicy policy.id db.sweepExecutions.rows,
    row.status.Over ∧ policy.CooledDown row.triggeredAt now

/-- The execution is not over yet. -/
def SweepExecutionRow.underway (row : SweepExecutionRow) : Bool := !decide row.status.Over

/-- The policy keeps its terms while it is stored; each execution that has a successor is over, and
    had cooled down when the successor was triggered; and at most one is underway. -/
structure SweptAlone (policy : SweepPolicyRow) (db : TreasuryDatabase) : Prop where
  terms : ∀ row, db.sweepPolicies.get? policy.id = some row → policy.SameTerms row
  apart : (ofPolicy policy.id db.sweepExecutions.rows).Pairwise fun earlier later =>
    earlier.status.Over ∧ policy.CooledDown earlier.triggeredAt later.triggeredAt
  alone : ((ofPolicy policy.id db.sweepExecutions.rows).filter SweepExecutionRow.underway).length ≤ 1

/-- Whatever execution an operation adds for the policy, it adds when the policy has rested. -/
def AddsRested (bdk : Bdk Psbt Tx) (policy : SweepPolicyRow) (db : TreasuryDatabase)
    (operation : TreasuryOperation) : Prop :=
  ∀ row ∈ ofPolicy policy.id (treasuryStep bdk db operation).sweepExecutions.rows,
    db.sweepExecutions.get? row.id = none → Rested policy db row.triggeredAt

/-- What the clock shows when a trigger reaches a policy. -/
def TreasuryOperation.triggeredAt (policyId : Uuid) : TreasuryOperation → Option Timestamp
  | .balanceUpdated _ _ _ clock => some (clock policyId)
  | .pollOnce ctx => some (ctx.clock policyId)
  | .executeSweepNow _ _ _ _ now => some now
  | _ => none

/-- A trigger that fires on the policy comes after the end of its last execution, and after the
    cooldown that began with it. -/
def FiresRested (bdk : Bdk Psbt Tx) (policy : SweepPolicyRow) (db : TreasuryDatabase)
    (operation : TreasuryOperation) : Prop :=
  ∀ policy' now, policy'.id = policy.id → Fires bdk db operation policy' →
    operation.triggeredAt policy.id = some now →
      ∀ last ∈ (ofPolicy policy.id db.sweepExecutions.rows).getLast?,
        last.status.Over ∧ policy.CooledDown last.triggeredAt now

/-- The manual executions of a policy. -/
def TreasuryOperation.Executes (policyId : Uuid) : TreasuryOperation → Prop
  | .executeSweepNow _ _ executed _ _ => executed = policyId
  | _ => False

/-- The steps between which a policy is not executed by hand: balance events, polls, confirmations,
    and all that settles an execution. -/
def ThresholdStep (bdk : Bdk Psbt Tx) (chain : Chain) (policyId : Uuid) :
    TreasuryDatabase → TreasuryOperation → TreasuryDatabase → Prop :=
  guarded (TriggerStep bdk chain) fun _ operation => ¬operation.Executes policyId

section Triggers

variable {bdk : Bdk Psbt Tx} {policy : SweepPolicyRow} {db : TreasuryDatabase}
  {operation : TreasuryOperation} {row : SweepExecutionRow}

/-- An execution is dated by its trigger. -/
theorem Sweeps.triggeredAt (sweeps : Sweeps bdk db operation policy row) :
    operation.triggeredAt policy.id = some row.triggeredAt := by
  cases sweeps with
  | event => rfl
  | poll => rfl
  | manual _ left =>
      rw [(manualRow_trigger left).2.1]
      rfl

/-- Events and polls that fire on a policy sweep it. -/
theorem Fires.sweeps (fires : Fires bdk db operation policy)
    (threshold : ¬operation.Executes policy.id) : ∃ row, Sweeps bdk db operation policy row := by
  cases fires with
  | event sweeps => exact ⟨_, .event sweeps⟩
  | poll lists sweeps => exact ⟨_, .poll lists sweeps⟩
  | manual => exact absurd rfl threshold

end Triggers

section Steps

variable {bdk : Bdk Psbt Tx} {policy policy' : SweepPolicyRow} {db : TreasuryDatabase}
  {operation : TreasuryOperation} {row : SweepExecutionRow}

/-- Where executions never overlap, the policy has rested when the last of them has. -/
theorem SweptAlone.rested_iff (swept : SweptAlone policy db) (now : Timestamp) :
    Rested policy db now ↔
      ∀ last ∈ (ofPolicy policy.id db.sweepExecutions.rows).getLast?,
        last.status.Over ∧ policy.CooledDown last.triggeredAt now := by
  constructor
  · intro rested last found
    exact rested last (List.mem_of_getLast? found)
  · intro settled row present
    have apart := swept.apart
    rcases List.eq_nil_or_concat (ofPolicy policy.id db.sweepExecutions.rows) with
      none | ⟨earlier, last, split⟩
    · rw [none] at present
      cases present
    · rw [List.concat_eq_append] at split
      rw [split, List.pairwise_append] at apart
      have lastSettled := settled last (by rw [split]; simp)
      rw [split, List.mem_append, List.mem_singleton] at present
      rcases present with before | rfl
      · obtain ⟨isOver, cooled⟩ := apart.2.2 row before last (List.mem_singleton_self last)
        exact ⟨isOver, cooled.trans lastSettled.2⟩
      · exact lastSettled

/-- Executions each of which is over when it has a successor are underway one at a time. -/
theorem length_underway_le {rows : List SweepExecutionRow}
    (apart : rows.Pairwise fun earlier later =>
      earlier.status.Over ∧ policy.CooledDown earlier.triggeredAt later.triggeredAt) :
    (rows.filter SweepExecutionRow.underway).length ≤ 1 := by
  induction rows with
  | nil => simp
  | cons first rest inductionHypothesis =>
      obtain ⟨firstOver, restApart⟩ := List.pairwise_cons.mp apart
      cases rest with
      | nil => exact List.length_filter_le _ [first]
      | cons second others =>
          have ended : first.underway = false := by
            simp [SweepExecutionRow.underway, (firstOver second List.mem_cons_self).1]
          rw [List.filter_cons_of_neg (by simp [ended])]
          exact inductionHypothesis restApart

/-- An execution that is added to a rested policy overlaps no other. -/
theorem SweptAlone.added {db' : TreasuryDatabase} (swept : SweptAlone policy db)
    (terms : ∀ row', db'.sweepPolicies.get? policy.id = some row' → policy.SameTerms row')
    (rested : Rested policy db row.triggeredAt)
    (rows : ofPolicy policy.id db'.sweepExecutions.rows =
      ofPolicy policy.id db.sweepExecutions.rows ++ [row]) : SweptAlone policy db' := by
  have apart : (ofPolicy policy.id db'.sweepExecutions.rows).Pairwise fun earlier later =>
      earlier.status.Over ∧ policy.CooledDown earlier.triggeredAt later.triggeredAt := by
    rw [rows, List.pairwise_append]
    refine ⟨swept.apart, List.pairwise_singleton _ _, ?_⟩
    intro earlier stored later added
    rw [List.mem_singleton.mp added]
    exact rested earlier stored
  exact ⟨terms, apart, length_underway_le apart⟩

/-- An operation that adds one execution adds it rested exactly if it finds the policy rested. -/
theorem addsRested_iff (fresh : db.sweepExecutions.get? row.id = none)
    (rows : ofPolicy policy.id (treasuryStep bdk db operation).sweepExecutions.rows =
      ofPolicy policy.id db.sweepExecutions.rows ++ [row]) :
    AddsRested bdk policy db operation ↔ Rested policy db row.triggeredAt := by
  constructor
  · intro adds
    apply adds row _ fresh
    rw [rows]
    simp
  · intro rested row' present unknown
    rw [rows, List.mem_append, List.mem_singleton] at present
    rcases present with old | rfl
    · have known : db.sweepExecutions.get? row'.id = some row' :=
        Table.get?_of_mem (mem_ofPolicy.mp old).1
      rw [known] at unknown
      cases unknown
    · exact rested

/-- Executions that are carried on are not new, and overlap no more than before. -/
theorem SweptAlone.carried (swept : SweptAlone policy db)
    (terms : ∀ row', (treasuryStep bdk db operation).sweepPolicies.get? policy.id = some row' →
      policy.SameTerms row')
    (carried : Carried SweepExecutionRow.Progress (ofPolicy policy.id db.sweepExecutions.rows)
      (ofPolicy policy.id (treasuryStep bdk db operation).sweepExecutions.rows)) :
    AddsRested bdk policy db operation ∧ SweptAlone policy (treasuryStep bdk db operation) := by
  have apart : (ofPolicy policy.id (treasuryStep bdk db operation).sweepExecutions.rows).Pairwise
      fun earlier later =>
        earlier.status.Over ∧ policy.CooledDown earlier.triggeredAt later.triggeredAt := by
    apply carried.pairwise _ swept.apart
    intro earlier earlier' later later' changed changed' related
    rw [changed.ended related.1, changed'.triggeredAt]
    exact related
  refine ⟨?_, terms, apart, length_underway_le apart⟩
  intro row' present unknown
  obtain ⟨row, stored, progress⟩ := carried.exists_of_mem present
  have known : db.sweepExecutions.get? row.id = some row :=
    Table.get?_of_mem (mem_ofPolicy.mp stored).1
  rw [progress.id, known] at unknown
  cases unknown

variable (bdk) in
/-- One event, one poll, or whatever else happens, adds no execution too early exactly if a trigger
    that fires comes after the last execution and its cooldown. -/
theorem sweptAlone_step_iff {chain : Chain} (swept : SweptAlone policy db)
    (threshold : ¬operation.Executes policy.id) (defined : ¬operation.Redefines)
    (legal : TreasuryLegal chain db operation) :
    AddsRested bdk policy db operation ∧ SweptAlone policy (treasuryStep bdk db operation) ↔
      FiresRested bdk policy db operation := by
  have termsAfter : ∀ row', (treasuryStep bdk db operation).sweepPolicies.get? policy.id =
      some row' → policy.SameTerms row' :=
    fun _ found => sameTerms_of_step bdk swept.terms defined found
  rcases ofPolicy_of_step bdk legal policy.id with
    ⟨policy', row, own, sweeps, fresh, rows⟩ | ⟨idle, carried⟩
  · have dated : operation.triggeredAt policy.id = some row.triggeredAt := by
      rw [← own]
      exact sweeps.triggeredAt
    rw [addsRested_iff fresh rows]
    constructor
    · intro ⟨rested, _⟩ _ now _ _ shown
      rw [dated, Option.some.injEq] at shown
      rw [← shown]
      exact (swept.rested_iff row.triggeredAt).mp rested
    · intro finds
      have rested : Rested policy db row.triggeredAt :=
        (swept.rested_iff row.triggeredAt).mpr (finds policy' _ own sweeps.fires dated)
      exact ⟨rested, swept.added termsAfter rested rows⟩
  · apply iff_of_true
    · exact swept.carried termsAfter carried
    · intro policy' _ own fires
      obtain ⟨row, sweeps⟩ := fires.sweeps (own ▸ threshold)
      exact absurd own (idle policy' row sweeps)

end Steps

/-- Along any balance events and polls no execution is added while one is underway or cooling down,
    and at most one is underway, exactly if every trigger that fires comes after the last execution
    and its cooldown. -/
theorem sweptAlone_throughout_iff (bdk : Bdk Psbt Tx) (chain : Chain) {policy : SweepPolicyRow}
    {db db' : TreasuryDatabase} {operations : List TreasuryOperation}
    (first : SweptAlone policy db) :
    Throughout (ThresholdStep bdk chain policy.id) (SweptAlone policy) (AddsRested bdk policy) db
        operations db' ↔
      Run (guarded (ThresholdStep bdk chain policy.id) (FiresRested bdk policy)) db operations
        db' := by
  apply Run.throughout_iff (I := fun _ => True) _ _ trivial first
  · intro _ _ _ _ _
    trivial
  · intro s operation t _ swept taken
    obtain ⟨threshold, defined, legal, rfl⟩ := taken
    exact sweptAlone_step_iff bdk swept threshold defined legal

/-! ### Events of the sample policy -/

theorem sweptAlone_sampleEnabled : SweptAlone (samplePolicy 30 false) (sampleEnabled 30 false) := by
  constructor
  · intro row found
    exact (sampleEnabled_terms row (Table.mem_of_get? found)).1
  · simp [sampleEnabled_executions]
  · simp [sampleEnabled_executions]

/-- A sweep that is dispatched with a txid and confirmed by a block, and an event a day after it. -/
def sampleRested : List TreasuryOperation :=
  [sampleEvent 0,
    .elsewhere (.updateSweepExecution 1 .onchainPending none (some samplePayment.txid.text) none
      none none),
    .elsewhere (.handleTx samplePayment (sampleCall (some 100))), sampleEvent day]

/-- Where the first of these operations lead. -/
def sampleRestedTo (n : Nat) : TreasuryDatabase :=
  (sampleRested.take n).foldl (treasuryStep sampleBdk) (sampleEnabled 30 false)

/-- The second event finds the execution of the first completed a day before, and adds another. -/
theorem sweptAlone_throughout_iff_nextDay :
    (ofPolicy 1 (sampleRestedTo 4).sweepExecutions.rows).map
        (fun row => (row.triggeredAt, row.status)) = [(0, .completed), (day, .requested)] ∧
      Throughout (ThresholdStep sampleBdk sampleChain 1) (SweptAlone (samplePolicy 30 false))
        (AddsRested sampleBdk (samplePolicy 30 false)) (sampleEnabled 30 false) sampleRested
        (sampleRestedTo 4) := by
  refine ⟨by decide +kernel, ?_⟩
  apply (sweptAlone_throughout_iff sampleBdk sampleChain sweptAlone_sampleEnabled).mpr
  have firstEvent : FiresRested sampleBdk (samplePolicy 30 false) (sampleEnabled 30 false)
      (sampleEvent 0) := by
    intro _ _ _ _ _ last found
    simp [sampleEnabled_executions] at found
  have secondEvent : FiresRested sampleBdk (samplePolicy 30 false) (sampleRestedTo 3)
      (sampleEvent day) := by
    intro _ now _ _ shown last found
    have settled : ∀ last ∈ (ofPolicy 1 (sampleRestedTo 3).sweepExecutions.rows).getLast?,
        last.status.Over ∧ (samplePolicy 30 false).CooledDown last.triggeredAt day := by
      decide +kernel
    cases shown
    exact settled last found
  have report : TreasuryLegal sampleChain (sampleRestedTo 1) (.elsewhere
      (.updateSweepExecution 1 .onchainPending none (some samplePayment.txid.text) none none
        none)) := by
    refine ⟨trivial, fun row found => .onchainPending _ ?_, rfl, rfl, rfl, rfl⟩
    have requested : ∀ row ∈ (sampleRestedTo 1).sweepExecutions.rows, row.status = .requested := by
      decide
    exact requested row (Table.mem_of_get? found)
  refine .cons ⟨firstEvent, id, id, trivial, rfl⟩ (.cons ⟨?_, id, id, report, rfl⟩
    (.cons ⟨?_, id, id, ⟨sampleChain_payment, trivial⟩, rfl⟩
      (.cons ⟨secondEvent, id, id, trivial, rfl⟩ (.stop _))))
  · intro _ _ _ _ impossible
    cases impossible
  · intro _ _ _ _ impossible
    cases impossible

/-- The second event within the hour finds the execution of the first underway, and adds another. -/
theorem not_sweptAlone_of_twoEvents :
    Run (ThresholdStep sampleBdk sampleChain 1) (sampleEnabled 30 false)
        [sampleEvent 0, sampleEvent hour]
        (treasuryStep sampleBdk (treasuryStep sampleBdk (sampleEnabled 30 false) (sampleEvent 0))
          (sampleEvent hour)) ∧
      ¬SweptAlone (samplePolicy 30 false)
        (treasuryStep sampleBdk (treasuryStep sampleBdk (sampleEnabled 30 false) (sampleEvent 0))
          (sampleEvent hour)) := by
  refine ⟨.cons ⟨id, id, trivial, rfl⟩ (.cons ⟨id, id, trivial, rfl⟩ (.stop _)), ?_⟩
  intro swept
  have two : ((ofPolicy 1 (treasuryStep sampleBdk
      (treasuryStep sampleBdk (sampleEnabled 30 false) (sampleEvent 0))
        (sampleEvent hour)).sweepExecutions.rows).filter SweepExecutionRow.underway).length = 2 := by
    decide
  have alone := swept.alone
  rw [show (samplePolicy 30 false).id = 1 from rfl, two] at alone
  exact absurd alone (by decide)

end TallyKeep
