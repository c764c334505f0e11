/-
Module: TallyKeep.CustodialSystem
Layer: System
Purpose: The subscribers of the events of poll cycles, as the bus delivers to them, and what advances
  the execution of a withdrawal at the same time: cycles, the reconciler and the chain listener.
Trusted boundary: translation of the subscriptions of `workers/subscribers`.  A
  session of the reconciler, and the one of a check, reads what is committed when it starts and
  writes at its commit; the session of the listener is one step
Main exports: sweepEnginePatterns, engineOnEvent, engineDeliver, WithdrawalState, WithdrawalLabel,
  withdrawalNext, WithdrawalLegal, WithdrawalStep
-/
import Mathlib.Logic.Function.Basic
import TallyKeep.System
import TallyKeep.Workers.CustodialReconciler
import TallyKeep.Workers.SweepEngine

namespace TallyKeep

open Relational Transition

/-! ### The sweep engine -/

/-- The topic the sweep engine subscribes to. -/
def sweepEnginePatterns : List String := ["custodial_provider.balance_updated"]

/-- `_on_balance_updated` on an event of the bus: one without a balance is dropped. -/
def engineOnEvent (listing : PolicyListing) (clock : Uuid → Timestamp) (db : CustodialDatabase)
    (event : CustodialEvent) : CustodialDatabase :=
  match event.payload.balanceSats with
  | none => db
  | some balanceSats =>
      { db with
        toDatabase := (onBalanceUpdated listing db.treasury event.payload.holdingId balanceSats
          clock).db.toDatabase }

/-- The database after events were delivered to the sweep engine, each in a session of its own. -/
def engineDeliver (listing : PolicyListing) (clock : Uuid → Timestamp) (db : CustodialDatabase)
    (delivered : List CustodialEvent) : CustodialDatabase :=
  delivered.foldl (engineOnEvent listing clock) db

/-! ### Cycles, reconciler and listener at the same time -/

/-- A check of the withdrawals between its queries and its commit: what the provider has reported,
    and what is to be recorded of it. -/
structure TxidCheck where
  report : List Withdrawal
  updates : List (Uuid × String)

/-- The committed database and the sessions that are going on.  Two fields are history that none of
    them reads: whether a check has ended that saw the withdrawal with its transaction id, and
    whether the listener was told since that the transaction is confirmed. -/
structure WithdrawalState where
  db : CustodialDatabase
  checking : Nat → Option TxidCheck
  reconciling : Nat → Option Reconciliation
  seen : Bool
  confirmed : Bool

/-- No session is going on, and nothing was seen. -/
def WithdrawalState.initial (db : CustodialDatabase) : WithdrawalState :=
  ⟨db, fun _ => none, fun _ => none, false, false⟩

inductive WithdrawalLabel where
  | observe (env : PollEnv) (providerId : Uuid)
  | beginCheck (check : Nat) (env : PollEnv)
  | commitCheck (check : Nat)
  | readEntry (session : Nat) (event : CustodialEvent)
  | commitEntry (session : Nat) (now : Timestamp)
  | handleTx (tx : DecodedTx) (ctx : TxContext)
  | elsewhere (after : CustodialDatabase)

/-- The session of the listener, committed or rolled back. -/
def listenerStep (db : CustodialDatabase) (tx : DecodedTx) (ctx : TxContext) : CustodialDatabase :=
  { db with toDatabase := committed db.toDatabase (handleTxDb db.toDatabase tx ctx) }

/-- One step of a cycle, of the reconciler, of the listener or of another component, for the
    history of one withdrawal; a step that is not due does nothing. -/
def withdrawalNext (withdrawalId txid : String) (s : WithdrawalState) : WithdrawalLabel → WithdrawalState
  | .observe env providerId => { s with db := (observe env s.db providerId).db }
  | .beginCheck check env =>
      match Kraken.getRecentWithdrawals env.exchange (env.checkedAt - week) with
      | .error _ => s
      | .ok report =>
          { s with
            checking := Function.update s.checking check
              (some ⟨report, txidUpdates env.listing s.db report⟩) }
  | .commitCheck check =>
      match s.checking check with
      | none => s
      | some ⟨report, updates⟩ =>
          { s with
            db := recordTxids s.db updates
            checking := Function.update s.checking check none
            seen := s.seen || decide (reportedTxid report withdrawalId = some txid) }
  | .readEntry session event =>
      { s with reconciling := Function.update s.reconciling session (reconcile s.db event) }
  | .commitEntry session now =>
      match s.reconciling session with
      | none => s
      | some reconciliation =>
          { s with
            db := reconciliation.commit s.db now
            reconciling := Function.update s.reconciling session none }
  | .handleTx tx ctx =>
      { s with
        db := listenerStep s.db tx ctx
        confirmed := s.confirmed ||
          (s.seen && decide (tx.txid.text = txid ∧ ctx.confirmationHeight.isSome = true)) }
  | .elsewhere after => { s with db := after }

variable {Psbt Tx : Type}

/-- bitcoind tells the truth, and the other components of the program leave the execution as it
    is. -/
def WithdrawalLegal (bdk : Bdk Psbt Tx) (chain : Chain) (executionId : Uuid) (s : WithdrawalState) :
    WithdrawalLabel → Prop
  | .handleTx tx _ => tx = chain.txOf tx.txid
  | .elsewhere after => Reached bdk chain after.toDatabase ∧
      after.sweepExecutions.get? executionId = s.db.sweepExecutions.get? executionId
  | _ => True

/-- One step in the life of the withdrawal of an execution. -/
def WithdrawalStep (bdk : Bdk Psbt Tx) (chain : Chain) (executionId : Uuid)
    (withdrawalId txid : String) : WithdrawalState → WithdrawalLabel → WithdrawalState → Prop :=
  guarded (stepOf (withdrawalNext withdrawalId txid)) (WithdrawalLegal bdk chain executionId)

end TallyKeep
