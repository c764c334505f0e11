/-
Module: TallyKeep.Workers.CustodialReconciler
Layer: Workers
Purpose: `CustodialReconciler`: which execution a new ledger entry is matched with, and what is
  written about it.
Trusted boundary: translation of `workers/subscribers/custodial_reconciler.py`.  An
  exception is logged, and its session rolled back; payloads carry what a poll cycle puts there
Main exports: withinTolerance, pendingExecutions, matchEntry, Reconciliation, reconcileOutflow,
  reconcileInflow, reconcile, Reconciliation.commit, onEntryAdded
-/
import TallyKeep.Api.InternalCustodial

namespace TallyKeep

open Binary64 Relational

/-! ### Tolerance and window -/

/-- `_TOLERANCE_FLOOR_SATS`. -/
def toleranceFloorSats : Int := 10000

/-- `max(int(intended * _TOLERANCE_FRACTION), _TOLERANCE_FLOOR_SATS)`. -/
def toleranceOf (intended : Nat) : Int :=
  max ⌊toDouble (toDouble intended * toDouble (1 / 50))⌋ toleranceFloorSats

/-- `_within_tolerance`. -/
def withinTolerance (observed : Int) (intended : Nat) : Bool :=
  decide (|observed - intended| ≤ toleranceOf intended)

/-- `_OUTFLOW_WINDOW`. -/
def outflowWindow : Timestamp := 4 * hour

/-- `_INFLOW_WINDOW`. -/
def inflowWindow : Timestamp := 12 * hour

/-- `_OUTFLOW_STATUSES`. -/
def outflowStatuses : List SweepExecutionStatus :=
  [.requested, .awaitingUserConfirmation, .dispatched]

/-- `_INFLOW_STATUSES`. -/
def inflowStatuses : List SweepExecutionStatus := [.dispatched, .onchainPending]

/-- The execution was triggered in the window around the time of an entry. -/
def SweepExecutionRow.InWindow (row : SweepExecutionRow) (entryTs window : Timestamp) : Prop :=
  entryTs ≤ row.triggeredAt + window ∧ row.triggeredAt ≤ entryTs + window

instance (row : SweepExecutionRow) (entryTs window : Timestamp) :
    Decidable (row.InWindow entryTs window) :=
  inferInstanceAs (Decidable (_ ∧ _))

/-! ### Matching -/

/-- The executions of policies with the holding on one side that are in some status and in the
    window. -/
def pendingExecutions (db : CustodialDatabase) (side : SweepPolicyRow → Uuid) (holdingId : Uuid)
    (statuses : List SweepExecutionStatus) (window entryTs : Timestamp) :
    List SweepExecutionRow :=
  db.sweepExecutions.select fun row =>
    ((db.sweepPolicies.get? row.sweepPolicyId).any fun policy =>
      decide (side policy = holdingId)) &&
    decide (row.status ∈ statuses) && decide (row.InWindow entryTs window)

/-- What a session writes about an entry: that it has no match, or its execution, the holding at the
    other end, and whether the execution is dispatched by it. -/
inductive Reconciliation where
  | unmatched (entryId : Uuid)
  | linked (entryId executionId : Uuid) (counterpartyHoldingId : Option Uuid) (dispatch : Bool)
deriving DecidableEq

/-- What the two directions have in common: a match is the only execution within tolerance. -/
def matchEntry (db : CustodialDatabase) (pending : List SweepExecutionRow)
    (otherSide : SweepPolicyRow → Uuid) (dispatches : Bool) (entryId : Uuid) (amountSats : Int) :
    Reconciliation :=
  match pending.filter fun row => withinTolerance amountSats row.intendedAmountSats with
  | [execution] =>
      .linked entryId execution.id ((db.sweepPolicies.get? execution.sweepPolicyId).map otherSide)
        (dispatches && decide (execution.status ≠ .dispatched))
  | _ => .unmatched entryId

/-- `_reconcile_outflow`, up to its writes. -/
def reconcileOutflow (db : CustodialDatabase) (holdingId entryId : Uuid) (amountSats : Int)
    (entryTs : Timestamp) : Reconciliation :=
  matchEntry db
    (pendingExecutions db SweepPolicyRow.sourceHoldingId holdingId outflowStatuses outflowWindow
      entryTs)
    SweepPolicyRow.destinationHoldingId true entryId amountSats

/-- `_reconcile_inflow`, up to its writes. -/
def reconcileInflow (db : CustodialDatabase) (holdingId entryId : Uuid) (amountSats : Int)
    (entryTs : Timestamp) : Reconciliation :=
  matchEntry db
    (pendingExecutions db SweepPolicyRow.destinationHoldingId holdingId inflowStatuses inflowWindow
      entryTs)
    SweepPolicyRow.sourceHoldingId false entryId amountSats

/-! ### Events -/

/-- The topic the reconciler subscribes to. -/
def reconcilerPatterns : List String := ["treasury.custodial.ledger_entry_added"]

/-- What `_on_entry_added` reads before it writes; entries of other kinds are passed over. -/
def reconcile (db : CustodialDatabase) (event : CustodialEvent) : Option Reconciliation :=
  match event.payload.entry with
  | none => none
  | some entry =>
      match entry.kind with
      | .withdrawal =>
          some (reconcileOutflow db event.payload.holdingId entry.id entry.amountSats
            entry.timestamp)
      | .deposit =>
          some (reconcileInflow db event.payload.holdingId entry.id entry.amountSats
            entry.timestamp)
      | _ => none

/-- The execution is dispatched. -/
def dispatchExecution (db : CustodialDatabase) (executionId : Uuid) : CustodialDatabase :=
  { db with
    toDatabase :=
      SweepExecutionRepo.updateStatus db.toDatabase executionId .dispatched none none none none
        none }

/-- The writes of a session, committed. -/
def Reconciliation.commit (db : CustodialDatabase) (now : Timestamp) :
    Reconciliation → CustodialDatabase
  | unmatched entryId => CustodialLedgerEntryRepo.markUnmatched db entryId now
  | linked entryId executionId counterpartyHoldingId dispatch =>
      let linked := CustodialLedgerEntryRepo.setReconciled db entryId (some executionId)
        counterpartyHoldingId none now
      if dispatch then dispatchExecution linked executionId else linked

/-- `_on_entry_added`. -/
def onEntryAdded (db : CustodialDatabase) (event : CustodialEvent) (now : Timestamp) :
    CustodialDatabase :=
  match reconcile db event with
  | none => db
  | some reconciliation => reconciliation.commit db now

end TallyKeep
