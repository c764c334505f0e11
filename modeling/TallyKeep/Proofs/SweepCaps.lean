/-
Module: TallyKeep.Proofs.SweepCaps
Layer: Proofs
Purpose: Which triggers keep the executions of a policy within its cap, and each of them within the
  balance it was taken from.
Trusted boundary: none
Main exports: SweepExecutionRow.counts, day, SweepsBounded, SweepsFit, sweepsBounded_step_iff,
  sweepsBounded_throughout_iff
-/
import TallyKeep.Proofs.DryRuns

namespace TallyKeep

open Relational Transition History

variable {Psbt Tx : Type}

/-! ### Caps -/

/-- The execution was neither failed nor cancelled. -/
def SweepExecutionRow.counts (row : SweepExecutionRow) : Bool :=
  !decide (row.status = .failed ∨ row.status = .cancelled)

/-- The width of the windows that caps are about. -/
def day : Timestamp := 24 * hour

/-- What the executions that count and were triggered in the window from `start` on were to take. -/
def sweptInWindow (rows : List SweepExecutionRow) (start : Timestamp) : Nat :=
  windowTotal SweepExecutionRow.counts SweepExecutionRow.triggeredAt
    SweepExecutionRow.intendedAmountSats day rows start

/-- The executions of a policy keep to its terms: each leaves the minimum balance, and those of a
    day stay within the cap, unless they are dry runs. -/
structure SweepsBounded (policy : SweepPolicyRow) (db : TreasuryDatabase) : Prop where
  terms : ∀ row, db.sweepPolicies.get? policy.id = some row → policy.SameTerms row
  covered : ∀ row ∈ ofPolicy policy.id db.sweepExecutions.rows,
    (row.intendedAmountSats : Int) ≤ row.preBalanceSats - policy.minimumBalanceSats
  capped : policy.isDryRun = false → ∀ maximum, policy.maximumPerPeriodSats = some maximum →
    ∀ start, (sweptInWindow (ofPolicy policy.id db.sweepExecutions.rows) start : Int) ≤ maximum

/-- The sweeps of an operation fit: an explicit amount leaves the minimum balance, and every day
    that a sweep falls into has room for it. -/
structure SweepsFit (bdk : Bdk Psbt Tx) (policy : SweepPolicyRow) (db : TreasuryDatabase)
    (operation : TreasuryOperation) : Prop where
  explicit : ∀ policy' row custody metadata amountSats now, policy'.id = policy.id →
    operation = .executeSweepNow custody metadata policy'.id (some amountSats) now →
      Sweeps bdk db operation policy' row →
        amountSats ≤ (row.preBalanceSats : Int) - policy.minimumBalanceSats
  room : policy.isDryRun = false → ∀ maximum, policy.maximumPerPeriodSats = some maximum →
    ∀ policy' row, policy'.id = policy.id → Sweeps bdk db operation policy' row →
      row.counts = true → ∀ start, start ≤ row.triggeredAt → row.triggeredAt < start + day →
        (sweptInWindow (ofPolicy policy.id db.sweepExecutions.rows) start : Int) +
          row.intendedAmountSats ≤ maximum

/-! ### Single executions -/

section Amounts

variable {bdk : Bdk Psbt Tx} {db : TreasuryDatabase} {policy : SweepPolicyRow}

/-- A computed amount leaves the minimum balance. -/
theorem sweepAmount_covered (loads : policy.Loads) {balanceSats : Int}
    (positive : 0 < policy.sweepAmount balanceSats) :
    ((policy.sweepAmount balanceSats).toNat : Int) ≤
      (balanceSats.toNat : Int) - policy.minimumBalanceSats := by
  have floor := (SweepPolicyRow.loads_iff.mp loads).2.1
  have most := policy.sweepAmount_le balanceSats
  omega

/-- Only an explicit amount can take more than the minimum leaves. -/
theorem Sweeps.covered_iff {operation : TreasuryOperation} {row : SweepExecutionRow}
    (sweeps : Sweeps bdk db operation policy row) :
    (row.intendedAmountSats : Int) ≤ row.preBalanceSats - policy.minimumBalanceSats ↔
      ∀ custody metadata amountSats now,
        operation = .executeSweepNow custody metadata policy.id (some amountSats) now →
          amountSats ≤ (row.preBalanceSats : Int) - policy.minimumBalanceSats := by
  have loads := sweeps.stored.2.2
  cases sweeps with
  | event sweeps =>
      apply iff_of_true (sweepAmount_covered loads sweeps.2.2.2.2)
      intro custody metadata amountSats now impossible
      cases impossible
  | poll lists sweeps =>
      obtain ⟨_, _, _, _, _, verdict⟩ := sweeps
      obtain ⟨⟨_, _, _, crosses⟩, -⟩ := roundVerdict_sweeps_iff.mp verdict
      apply iff_of_true (sweepAmount_covered loads crosses.2)
      intro custody metadata amountSats now impossible
      cases impossible
  | @manual custody metadata _ amountSats now provider address credentials _ ready left =>
      obtain ⟨-, -, balance, amount⟩ := manualRow_trigger left
      rw [balance, amount]
      have positive := ready.positive
      cases amountSats with
      | none =>
          apply iff_of_true (sweepAmount_covered loads positive)
          intro custody metadata amountSats now impossible
          cases impossible
      | some explicit =>
          change 0 < explicit at positive
          change ((explicit.toNat : Int) ≤ _) ↔ _
          rw [Int.toNat_of_nonneg positive.le]
          constructor
          · intro covered custody metadata amountSats now same
            cases same
            exact covered
          · intro covered
            exact covered custody metadata explicit now rfl

end Amounts

/-! ### Runs -/

/-- Carried on, the executions stay within a cap. -/
theorem sweptInWindow_carried {rows rows' : List SweepExecutionRow} {maximum : Int}
    (capped : ∀ start, (sweptInWindow rows start : Int) ≤ maximum)
    (carried : Carried SweepExecutionRow.Progress rows rows') (start : Timestamp) :
    (sweptInWindow rows' start : Int) ≤ maximum := by
  apply WindowsWithin.carried _ _ capped carried
  · intro row row' progress
    exact ⟨progress.triggeredAt, progress.intendedAmountSats⟩
  · intro row row' progress counts
    by_contra dropped
    have isOver : row.status.Over := by
      simp only [SweepExecutionRow.counts, Bool.not_eq_true, Bool.not_eq_false',
        decide_eq_true_eq] at dropped
      exact .inr dropped
    rw [progress.ended isOver] at counts
    exact dropped counts

section Steps

variable {bdk : Bdk Psbt Tx} {policy policy' : SweepPolicyRow} {db : TreasuryDatabase}
  {operation : TreasuryOperation} {row : SweepExecutionRow}

/-- The policy that is swept is the stored one, with the minimum it keeps. -/
theorem SweepsBounded.minimum (bounded : SweepsBounded policy db) (own : policy'.id = policy.id)
    (sweeps : Sweeps bdk db operation policy' row) :
    policy'.minimumBalanceSats = policy.minimumBalanceSats := by
  have stored := sweeps.stored.1
  rw [own] at stored
  rw [bounded.terms policy' stored]

/-- An operation after which the executions keep to the terms has swept an amount that fits. -/
theorem SweepsBounded.fit (bounded : SweepsBounded policy db)
    (after : SweepsBounded policy (treasuryStep bdk db operation)) (own : policy'.id = policy.id)
    (sweeps : Sweeps bdk db operation policy' row.erased)
    (rows : ofPolicy policy.id (treasuryStep bdk db operation).sweepExecutions.rows =
      ofPolicy policy.id db.sweepExecutions.rows ++ [row]) :
    SweepsFit bdk policy db operation := by
  have minimum := bounded.minimum own sweeps
  constructor
  · intro policy'' row'' custody metadata amountSats now own'' called sweeps''
    have same := sweeps.unique sweeps'' (own.trans own''.symm)
    have present : row ∈ ofPolicy policy.id (treasuryStep bdk db operation).sweepExecutions.rows := by
      rw [rows]
      simp
    have covered := after.covered row present
    rw [← minimum] at covered
    have explicit := sweeps.covered_iff.mp covered custody metadata amountSats now
      (by rw [called, own, own''])
    rw [← same, ← minimum]
    exact explicit
  · intro real maximum cap policy'' row'' own'' sweeps'' counts start from_ until_
    have same := sweeps.unique sweeps'' (own.trans own''.symm)
    rw [← same] at counts from_ until_ ⊢
    have capped := after.capped real maximum cap
    rw [rows] at capped
    exact (windowsWithin_append_singleton_iff (bounded.capped real maximum cap) row).mp capped
      counts start from_ until_

/-- A sweep that fits leaves the executions within the terms. -/
theorem SweepsFit.bounded (fit : SweepsFit bdk policy db operation)
    (bounded : SweepsBounded policy db) (own : policy'.id = policy.id)
    (sweeps : Sweeps bdk db operation policy' row.erased)
    (terms : ∀ row', (treasuryStep bdk db operation).sweepPolicies.get? policy.id = some row' →
      policy.SameTerms row')
    (rows : ofPolicy policy.id (treasuryStep bdk db operation).sweepExecutions.rows =
      ofPolicy policy.id db.sweepExecutions.rows ++ [row]) :
    SweepsBounded policy (treasuryStep bdk db operation) := by
  have minimum := bounded.minimum own sweeps
  constructor
  · exact terms
  · intro row' present
    rw [rows, List.mem_append, List.mem_singleton] at present
    rcases present with old | rfl
    · exact bounded.covered row' old
    · rw [← minimum]
      apply sweeps.covered_iff.mpr
      intro custody metadata amountSats now called
      rw [minimum]
      exact fit.explicit policy' row'.erased custody metadata amountSats now own called sweeps
  · intro real maximum cap
    rw [rows]
    apply (windowsWithin_append_singleton_iff (bounded.capped real maximum cap) row).mpr
    exact fit.room real maximum cap policy' row.erased own sweeps

/-- Executions that are carried on keep to the terms. -/
theorem SweepsBounded.carried {db' : TreasuryDatabase} (bounded : SweepsBounded policy db)
    (terms : ∀ row', db'.sweepPolicies.get? policy.id = some row' → policy.SameTerms row')
    (carried : Carried SweepExecutionRow.Progress (ofPolicy policy.id db.sweepExecutions.rows)
      (ofPolicy policy.id db'.sweepExecutions.rows)) :
    SweepsBounded policy db' := by
  constructor
  · exact terms
  · intro row' present
    obtain ⟨row, stored, progress⟩ := carried.exists_of_mem present
    rw [progress.intendedAmountSats, progress.preBalanceSats]
    exact bounded.covered row stored
  · intro real maximum cap
    exact sweptInWindow_carried (bounded.capped real maximum cap) carried

variable (bdk) in
/-- One trigger, or whatever else happens, leaves the executions within the terms exactly if it
    fits. -/
theorem sweepsBounded_step_iff {chain : Chain} (bounded : SweepsBounded policy db)
    (defined : ¬operation.Redefines) (legal : TreasuryLegal chain db operation) :
    SweepsBounded policy (treasuryStep bdk db operation) ↔ SweepsFit bdk policy db operation := by
  have termsAfter : ∀ row', (treasuryStep bdk db operation).sweepPolicies.get? policy.id =
      some row' → policy.SameTerms row' :=
    fun _ found => sameTerms_of_step bdk bounded.terms defined found
  rcases ofPolicy_of_step bdk legal policy.id with
    ⟨policy', row, own, sweeps, -, rows⟩ | ⟨idle, carried⟩
  · constructor
    · intro after
      exact bounded.fit after own sweeps rows
    · intro fit
      exact fit.bounded bounded own sweeps termsAfter rows
  · apply iff_of_true
    · exact bounded.carried termsAfter carried
    · constructor
      · intro policy' row _ _ _ _ own _ sweeps
        exact absurd own (idle policy' row sweeps)
      · intro _ _ _ policy' row own sweeps
        exact absurd own (idle policy' row sweeps)

/-- A manual execution over an explicit amount fits when the balance it finds and every day it falls
    into have room for the amount. -/
theorem sweepsFit_executeSweepNow {custody : Custody} {metadata : HoldingMetadata}
    {amountSats : Int} {now : Timestamp}
    (left : ∀ policy' provider, db.sweepPolicies.get? policy.id = some policy' →
      manualSource metadata db policy' = .ok provider →
        amountSats ≤ (provider.currentBalance.toNat : Int) - policy.minimumBalanceSats)
    (room : policy.isDryRun = false → ∀ maximum, policy.maximumPerPeriodSats = some maximum →
      ∀ start, start ≤ now → now < start + day →
        (sweptInWindow (ofPolicy policy.id db.sweepExecutions.rows) start : Int) +
          amountSats.toNat ≤ maximum) :
    SweepsFit bdk policy db (.executeSweepNow custody metadata policy.id (some amountSats) now) := by
  constructor
  · intro policy' row custody' metadata' amountSats' now' own called sweeps
    obtain ⟨-, provider, _, _, ready, given⟩ := sweeps_manual_iff.mp sweeps
    obtain ⟨-, -, balance, -⟩ := manualRow_trigger given
    obtain ⟨-, -, -, sameAmount, -⟩ := TreasuryOperation.executeSweepNow.inj called
    rw [balance, ← Option.some.inj sameAmount]
    exact left policy' provider (own ▸ ready.stored) ready.source
  · intro real maximum cap policy' row own sweeps counts start from_ until_
    obtain ⟨-, provider, _, _, ready, given⟩ := sweeps_manual_iff.mp sweeps
    obtain ⟨-, triggered, -, amount⟩ := manualRow_trigger given
    rw [triggered] at from_ until_
    rw [amount]
    exact room real maximum cap start from_ until_

end Steps

/-- Along any triggers the executions of a policy keep to its terms exactly if all its sweeps fit.
    -/
theorem sweepsBounded_throughout_iff (bdk : Bdk Psbt Tx) (chain : Chain) {policy : SweepPolicyRow}
    {db db' : TreasuryDatabase} {operations : List TreasuryOperation}
    (first : SweepsBounded policy db) :
    Throughout (TriggerStep bdk chain) (SweepsBounded policy) (fun _ _ => True) db operations db' ↔
      Run (guarded (TriggerStep bdk chain) (SweepsFit bdk policy)) db operations db' := by
  apply Run.throughout_iff (I := fun _ => True) _ _ trivial first
  · intro _ _ _ _ _
    trivial
  · intro s operation t _ bounded taken
    obtain ⟨defined, legal, rfl⟩ := taken
    rw [true_and]
    exact sweepsBounded_step_iff bdk bounded defined legal

/-! ### Sweeps of the sample policy -/

theorem sampleEnabled_terms : ∀ row ∈ (sampleEnabled 30 false).sweepPolicies.rows,
    (samplePolicy 30 false).SameTerms row ∧ row.sweepAmount 100000 = 40000 := by
  decide

theorem sampleEnabled_executions : (sampleEnabled 30 false).sweepExecutions.rows = [] := by
  decide

theorem sweepsBounded_sampleEnabled : SweepsBounded (samplePolicy 30 false) (sampleEnabled 30 false) := by
  constructor
  · intro row found
    exact (sampleEnabled_terms row (Table.mem_of_get? found)).1
  · simp [sampleEnabled_executions]
  · intro _ maximum cap start
    cases cap
    simp [sampleEnabled_executions, sweptInWindow, windowTotal]

/-- A balance event at a time. -/
def sampleEvent (now : Timestamp) : TreasuryOperation :=
  .balanceUpdated .inOrder 30 100000 fun _ => now

/-- An event up to the cap, and a day later two explicit amounts that make up the cap within an
    hour. -/
def sampleSweeps : List TreasuryOperation :=
  [sampleEvent 0, .executeSweepNow sampleCustody sampleMetadata 1 (some 30000) day,
    .executeSweepNow sampleCustody sampleMetadata 1 (some 10000) (day + hour)]

/-- Where the first operations of the sample sweeps lead. -/
def sampleSweptTo (n : Nat) : TreasuryDatabase :=
  (sampleSweeps.take n).foldl (treasuryStep sampleBdk) (sampleEnabled 30 false)

/-- When an execution was triggered, over how much, and whether it counts. -/
def SweepExecutionRow.share (row : SweepExecutionRow) : Bool × Timestamp × Nat :=
  (row.counts, row.triggeredAt, row.intendedAmountSats)

theorem sweptInWindow_eq (rows : List SweepExecutionRow) (start : Timestamp) :
    sweptInWindow rows start = ((rows.map SweepExecutionRow.share).map fun share =>
      if share.1 = true ∧ start ≤ share.2.1 ∧ share.2.1 < start + day then share.2.2 else 0).sum := by
  rw [List.map_map]
  rfl

theorem shares_sampleSweptTo :
    (ofPolicy 1 (sampleSweptTo 1).sweepExecutions.rows).map SweepExecutionRow.share =
        [(true, 0, 40000)] ∧
      (ofPolicy 1 (sampleSweptTo 2).sweepExecutions.rows).map SweepExecutionRow.share =
        [(true, 0, 40000), (true, day, 30000)] ∧
      (ofPolicy 1 (sampleSweptTo 3).sweepExecutions.rows).map SweepExecutionRow.share =
        [(true, 0, 40000), (true, day, 30000), (true, day + hour, 10000)] := by
  decide +kernel

theorem balance_sampleSweptTo : ∀ n < 3, ∀ policy ∈ (sampleSweptTo n).sweepPolicies.rows,
    ∀ provider ∈ (manualSource sampleMetadata (sampleSweptTo n) policy).toOption,
      provider.currentBalance = 100000 := by
  decide +kernel

/-- The event fits, and so do the two amounts of the day after, which fill the cap together. -/
theorem sweepsBounded_throughout_iff_fullCap :
    sweptInWindow (ofPolicy 1 (sampleSweptTo 3).sweepExecutions.rows) day = 40000 ∧
      Throughout (TriggerStep sampleBdk sampleChain) (SweepsBounded (samplePolicy 30 false))
        (fun _ _ => True) (sampleEnabled 30 false) sampleSweeps (sampleSweptTo 3) := by
  obtain ⟨first, second, third⟩ := shares_sampleSweptTo
  constructor
  · rw [sweptInWindow_eq, third]
    decide
  · apply (sweepsBounded_throughout_iff sampleBdk sampleChain sweepsBounded_sampleEnabled).mpr
    have event : SweepsFit sampleBdk (samplePolicy 30 false) (sampleEnabled 30 false)
        (sampleEvent 0) := by
      constructor
      · intro _ _ _ _ _ _ _ impossible
        cases impossible
      · intro _ maximum cap policy row _ sweeps _ start _ _
        cases cap
        obtain ⟨swept, rfl⟩ := sweeps_event_iff.mp sweeps
        have amount := (sampleEnabled_terms policy (mem_selected.mp swept.2.1).1).2
        simp [sampleEnabled_executions, sweptInWindow, windowTotal, SweepPolicyRow.sweepRow, amount]
    have large : SweepsFit sampleBdk (samplePolicy 30 false) (sampleSweptTo 1)
        (.executeSweepNow sampleCustody sampleMetadata 1 (some 30000) day) := by
      apply sweepsFit_executeSweepNow
      · intro policy provider stored source
        rw [balance_sampleSweptTo 1 (by decide) policy (Table.mem_of_get? stored) provider
          (by rw [source]; rfl)]
        decide
      · intro _ maximum cap start _ until_
        cases cap
        rw [show (samplePolicy 30 false).id = 1 from rfl, sweptInWindow_eq, first]
        have past : ¬start ≤ 0 := by
          intro early
          exact absurd until_ (by simp [Nat.le_zero.mp early])
        simp [past]
    have small : SweepsFit sampleBdk (samplePolicy 30 false) (sampleSweptTo 2)
        (.executeSweepNow sampleCustody sampleMetadata 1 (some 10000) (day + hour)) := by
      apply sweepsFit_executeSweepNow
      · intro policy provider stored source
        rw [balance_sampleSweptTo 2 (by decide) policy (Table.mem_of_get? stored) provider
          (by rw [source]; rfl)]
        decide
      · intro _ maximum cap start _ until_
        cases cap
        rw [show (samplePolicy 30 false).id = 1 from rfl, sweptInWindow_eq, second]
        have past : ¬start ≤ 0 := by
          intro early
          exact absurd until_ (by simp [Nat.le_zero.mp early])
        simp only [past, List.map_cons, List.map_nil, List.sum_cons, List.sum_nil, false_and,
          and_false, if_false]
        split <;> simp
    exact .cons ⟨event, id, trivial, rfl⟩ (.cons ⟨large, id, trivial, rfl⟩
      (.cons ⟨small, id, trivial, rfl⟩ (.stop _)))

/-- Two events within an hour sweep twice the cap, and an explicit amount takes more than there
    is. -/
theorem not_sweepsBounded_of_twoEvents :
    Run (TriggerStep sampleBdk sampleChain) (sampleEnabled 30 false)
        [sampleEvent 0, sampleEvent hour]
        (treasuryStep sampleBdk (treasuryStep sampleBdk (sampleEnabled 30 false) (sampleEvent 0))
          (sampleEvent hour)) ∧
      ¬SweepsBounded (samplePolicy 30 false)
        (treasuryStep sampleBdk (treasuryStep sampleBdk (sampleEnabled 30 false) (sampleEvent 0))
          (sampleEvent hour)) ∧
        ¬SweepsBounded (samplePolicy 30 false)
          (treasuryStep sampleBdk (sampleEnabled 30 false)
            (.executeSweepNow sampleCustody sampleMetadata 1 (some 150000) 0)) := by
  refine ⟨.cons ⟨id, trivial, rfl⟩ (.cons ⟨id, trivial, rfl⟩ (.stop _)), ?_, ?_⟩
  · intro bounded
    have total : sweptInWindow (ofPolicy 1 (treasuryStep sampleBdk
        (treasuryStep sampleBdk (sampleEnabled 30 false) (sampleEvent 0))
          (sampleEvent hour)).sweepExecutions.rows) 0 = 80000 := by
      decide
    have capped := bounded.capped rfl 40000 rfl 0
    rw [show (samplePolicy 30 false).id = 1 from rfl, total] at capped
    revert capped
    decide
  · intro bounded
    have taken : (ofPolicy 1 (treasuryStep sampleBdk (sampleEnabled 30 false)
        (.executeSweepNow sampleCustody sampleMetadata 1 (some 150000) 0)).sweepExecutions.rows).any
          (fun row => decide ((row.preBalanceSats : Int) < row.intendedAmountSats)) = true := by
      decide
    obtain ⟨row, present, more⟩ := List.any_eq_true.mp taken
    have covered := bounded.covered row present
    rw [show (samplePolicy 30 false).minimumBalanceSats = 0 from rfl, Int.sub_zero] at covered
    exact absurd covered (Int.not_le.mpr (of_decide_eq_true more))

end TallyKeep
