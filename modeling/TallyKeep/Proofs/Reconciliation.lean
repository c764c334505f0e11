/-
Module: TallyKeep.Proofs.Reconciliation
Layer: Proofs
Purpose: The specification of the reconciler: when a withdrawal entry has a match, and what a
  committed session leaves of entries and executions.
Trusted boundary: none
Main exports: SweepExecutionRow.PendingOutflow, OnlyMatch, reconcileOutflow_of_match,
  handedOver_cycleEvents, WithdrawalEvent, WithdrawalEvent.onEntryAdded, get?_entry_commit
-/
import TallyKeep.Workers.CustodialReconciler

namespace TallyKeep

open Relational

/-! ### Matches -/

/-- The execution sweeps the holding, is not on chain yet, and was triggered in the window. -/
structure SweepExecutionRow.PendingOutflow (row : SweepExecutionRow) (db : CustodialDatabase)
    (holdingId : Uuid) (entryTs : Timestamp) : Prop where
  stored : row ∈ db.sweepExecutions.rows
  source : ∃ policy, db.sweepPolicies.get? row.sweepPolicyId = some policy ∧
    policy.sourceHoldingId = holdingId
  status : row.status ∈ outflowStatuses
  window : row.InWindow entryTs outflowWindow

theorem mem_pendingOutflow {db : CustodialDatabase} {holdingId : Uuid} {entryTs : Timestamp}
    {row : SweepExecutionRow} :
    row ∈ pendingExecutions db SweepPolicyRow.sourceHoldingId holdingId outflowStatuses outflowWindow
        entryTs ↔ row.PendingOutflow db holdingId entryTs := by
  rw [pendingExecutions, Table.mem_select, Bool.and_eq_true, Bool.and_eq_true, decide_eq_true_iff,
    decide_eq_true_iff]
  constructor
  · intro ⟨stored, ⟨source, status⟩, window⟩
    obtain ⟨policy, found, same⟩ := (Option.any_eq_true _ _).mp source
    exact ⟨stored, ⟨policy, found, decide_eq_true_iff.mp same⟩, status, window⟩
  · intro pending
    obtain ⟨policy, found, same⟩ := pending.source
    exact ⟨pending.stored,
      ⟨(Option.any_eq_true _ _).mpr ⟨policy, found, decide_eq_true same⟩, pending.status⟩, pending.window⟩

/-- The execution is the only pending one of the holding whose intended amount is within tolerance
    of the amount. -/
structure OnlyMatch (db : CustodialDatabase) (holdingId : Uuid) (amountSats : Int)
    (entryTs : Timestamp) (row : SweepExecutionRow) : Prop where
  pending : row.PendingOutflow db holdingId entryTs
  near : withinTolerance amountSats row.intendedAmountSats = true
  only : ∀ other : SweepExecutionRow, other.PendingOutflow db holdingId entryTs →
    withinTolerance amountSats other.intendedAmountSats = true → other = row

section Outflow

variable {db : CustodialDatabase} {holdingId entryId : Uuid} {amountSats : Int}
  {entryTs : Timestamp} {row : SweepExecutionRow}

theorem OnlyMatch.unique {row' : SweepExecutionRow}
    (first : OnlyMatch db holdingId amountSats entryTs row)
    (second : OnlyMatch db holdingId amountSats entryTs row') : row' = row :=
  first.only row' second.pending second.near

theorem filter_pendingOutflow_iff :
    (pendingExecutions db SweepPolicyRow.sourceHoldingId holdingId outflowStatuses outflowWindow
        entryTs).filter (fun row => withinTolerance amountSats row.intendedAmountSats) = [row] ↔
      OnlyMatch db holdingId amountSats entryTs row := by
  have nodup : (pendingExecutions db SweepPolicyRow.sourceHoldingId holdingId outflowStatuses
      outflowWindow entryTs).Nodup :=
    (List.Nodup.of_map _ db.sweepExecutions.keysNodup).filter _
  rw [filter_eq_singleton_iff nodup]
  simp only [mem_pendingOutflow]
  constructor
  · intro ⟨⟨pending, near⟩, only⟩
    exact ⟨pending, near, only⟩
  · intro only
    exact ⟨⟨only.pending, only.near⟩, only.only⟩

/-- A match is linked with the holding its policy sweeps to, and dispatched unless it is already. -/
theorem reconcileOutflow_of_match (only : OnlyMatch db holdingId amountSats entryTs row) :
    reconcileOutflow db holdingId entryId amountSats entryTs =
      .linked entryId row.id
        ((db.sweepPolicies.get? row.sweepPolicyId).map SweepPolicyRow.destinationHoldingId)
        (decide (row.status ≠ .dispatched)) := by
  rw [reconcileOutflow, matchEntry, filter_pendingOutflow_iff.mpr only]
  rfl

theorem reconcileOutflow_of_none (none : ∀ row, ¬OnlyMatch db holdingId amountSats entryTs row) :
    reconcileOutflow db holdingId entryId amountSats entryTs = .unmatched entryId := by
  rw [reconcileOutflow, matchEntry]
  split
  · next row only => exact absurd (filter_pendingOutflow_iff.mp only) (none row)
  · rfl

end Outflow

/-! ### Events -/

/-- Of the events of a successful cycle, the reconciler gets those of new entries. -/
theorem handedOver_cycleEvents (provider : ConnectedProviderRow) (balanceSats : Int)
    (added : List EntryPayload) (updated : List (EntryPayload × List EntryField))
    (polledAt : Timestamp) :
    handedOver reconcilerPatterns (cycleEvents provider balanceSats added updated polledAt) =
      added.map fun entry => ⟨"treasury.custodial.ledger_entry_added",
        .ledgerEntryAdded provider.holdingId provider.id polledAt balanceSats entry⟩ := by
  have reached : ∀ topic : String, '\n' ∉ topic.toList → anyMatches reconcilerPatterns topic =
      decide (topic = "treasury.custodial.ledger_entry_added") := by
    intro topic plain
    rw [reconcilerPatterns, anyMatches_singleton (by decide) plain]
  have completed := reached "treasury.custodial.cycle_completed" (by decide)
  have changed := reached "treasury.custodial.ledger_entry_updated" (by decide)
  have state := reached "treasury.custodial.connection_state_changed" (by decide)
  rw [handedOver, cycleEvents, List.filter_append, List.filter_append,
    List.filter_cons_of_neg (by simp [completed]), List.append_assoc]
  have new : ∀ event ∈ added.map fun entry => (⟨"treasury.custodial.ledger_entry_added",
      .ledgerEntryAdded provider.holdingId provider.id polledAt balanceSats entry⟩ :
        CustodialEvent), anyMatches reconcilerPatterns event.topic = true := by
    intro event member
    obtain ⟨entry, -, rfl⟩ := List.mem_map.mp member
    exact reached "treasury.custodial.ledger_entry_added" (by decide)
  rw [List.filter_eq_self.mpr new]
  apply List.append_right_eq_self.mpr
  rw [List.append_eq_nil_iff, List.filter_eq_nil_iff, List.filter_eq_nil_iff]
  constructor
  · intro event member
    obtain ⟨entry, -, rfl⟩ := List.mem_map.mp member
    simp [changed]
  · intro event member
    split at member
    · rw [List.mem_singleton.mp member]
      simp [connectionStateChanged, state]
    · cases member

/-! ### Writes -/

/-- A published withdrawal entry of a holding. -/
structure WithdrawalEvent (event : CustodialEvent) (entry : EntryPayload) : Prop where
  carried : event.payload.entry = some entry
  kind : entry.kind = .withdrawal

theorem WithdrawalEvent.reconcile {event : CustodialEvent} {entry : EntryPayload}
    (withdrawal : WithdrawalEvent event entry) (db : CustodialDatabase) :
    reconcile db event =
      some (reconcileOutflow db event.payload.holdingId entry.id entry.amountSats
        entry.timestamp) := by
  simp only [TallyKeep.reconcile, withdrawal.carried, withdrawal.kind]

theorem WithdrawalEvent.onEntryAdded {event : CustodialEvent} {entry : EntryPayload}
    (withdrawal : WithdrawalEvent event entry) (db : CustodialDatabase) (now : Timestamp) :
    onEntryAdded db event now =
      (reconcileOutflow db event.payload.holdingId entry.id entry.amountSats
        entry.timestamp).commit db now := by
  rw [TallyKeep.onEntryAdded, withdrawal.reconcile]

section Commit

variable (db : CustodialDatabase) (now : Timestamp)

/-- The row of an entry after the session of one entry. -/
def Reconciliation.entryAfter (now : Timestamp) (row : CustodialLedgerEntryRow) :
    Reconciliation → CustodialLedgerEntryRow
  | unmatched entryId => if row.id = entryId then row.unmatched now else row
  | linked entryId executionId counterpartyHoldingId _ =>
      if row.id = entryId then row.reconciled (some executionId) counterpartyHoldingId none now
      else row

theorem get?_modifyEntry (entryId : Uuid) (f : CustodialLedgerEntryRow → CustodialLedgerEntryRow)
    (keeps : ∀ row, (f row).id = row.id) (keepsRefid : ∀ row, (f row).refid = row.refid)
    (otherId : Uuid) :
    (CustodialLedgerEntryRepo.modify db entryId f keeps keepsRefid).custodialLedger.get? otherId =
      (db.custodialLedger.get? otherId).map fun row => if row.id = entryId then f row else row := by
  have updated := IndexedTable.get?_update db.custodialLedger entryId otherId f keeps keepsRefid
  refine updated.trans ?_
  split
  · next same =>
    subst same
    cases found : db.custodialLedger.get? otherId with
    | none => rfl
    | some row => simp [show row.id = otherId from (IndexedTable.get?_eq_some_iff.mp found).2]
  · next other =>
    cases found : db.custodialLedger.get? otherId with
    | none => rfl
    | some row => simp [show row.id = otherId from (IndexedTable.get?_eq_some_iff.mp found).2, other]

theorem get?_entry_commit (reconciliation : Reconciliation) (entryId : Uuid) :
    (reconciliation.commit db now).custodialLedger.get? entryId =
      (db.custodialLedger.get? entryId).map fun row => reconciliation.entryAfter now row := by
  cases reconciliation with
  | unmatched written =>
      exact get?_modifyEntry db written (fun row => row.unmatched now) _ (fun _ => rfl) entryId
  | linked written executionId counterpartyHoldingId dispatch =>
      rw [Reconciliation.commit]
      cases dispatch <;>
        exact get?_modifyEntry db written
          (fun row => row.reconciled (some executionId) counterpartyHoldingId none now) _
          (fun _ => rfl) entryId

end Commit

end TallyKeep
