/-
Module: TallyKeep.TreasurySystem
Layer: System
Purpose: The program with its treasury as a transition system: the endpoints of sweep policies, the
  four triggers of executions, and every other operation of the program between them.
Trusted boundary: translation of the sweep endpoints of `api/v1/treasury.py`.  The
  writers of custodial providers are one operation that leaves any table of them
Main exports: TreasuryOperation, treasuryPerform, treasuryStep, TreasuryLegal, TreasuryStep
-/
import TallyKeep.System
import TallyKeep.Workers.SelfCustodyPoller

namespace TallyKeep

open Relational Transition

/-! ### Operations -/

/-- One call into the program, with what its environment answers. -/
inductive TreasuryOperation where
  | createSweepPolicy (metadata : HoldingMetadata) (order : PolicyOrder)
  | updateSweepPolicy (metadata : HoldingMetadata) (policyId : Uuid) (patch : PolicyPatch)
  | deleteSweepPolicy (policyId : Uuid)
  | enableSweepPolicy (policyId : Uuid)
  | disableSweepPolicy (policyId : Uuid)
  | acknowledgeWarnings (policyId : Uuid)
  | pauseAllPolicies
  | resumeAllPolicies
  | balanceUpdated (listing : PolicyListing) (holdingId : Uuid) (balanceSats : Int)
      (clock : Uuid → Timestamp)
  | pollOnce (ctx : PollContext)
  | executeSweepNow (custody : Custody) (metadata : HoldingMetadata) (policyId : Uuid)
      (amountSats : Option Int) (now : Timestamp)
  | confirmSweepExecution (executionId : Uuid)
  | writeProviders (providers : Table CustodialProviderRow)
  | elsewhere (operation : Operation)

/-- Commit what a session leaves, or roll it back when it raises. -/
def commitTreasury (before : TreasuryDatabase) : Except PyError TreasuryDatabase → SweepOutcome
  | .ok db => ⟨db, [], none⟩
  | .error error => ⟨before, [], some error⟩

/-- The policies `delete_cascade` deletes with a holding. -/
def SweepPolicyRow.touches (row : SweepPolicyRow) (holdingId : Uuid) : Bool :=
  decide (row.sourceHoldingId = holdingId) || decide (row.destinationHoldingId = holdingId)

/-- The treasury tables after an operation of the rest of the program, which deletes policies and
    providers with their holding. -/
def withBase (db : TreasuryDatabase) (after : Database) : Operation → TreasuryDatabase
  | .deleteHolding holdingId _ =>
      { toDatabase := after
        sweepPolicies := db.sweepPolicies.delete fun row => row.touches holdingId
        custodialProviders := db.custodialProviders.delete fun row =>
          decide (row.holdingId = holdingId) }
  | _ => { db with toDatabase := after }

variable {Psbt Tx : Type}

/-- The committed database after an operation, its effects, and the exception it raised. -/
def treasuryPerform (bdk : Bdk Psbt Tx) (db : TreasuryDatabase) : TreasuryOperation → SweepOutcome
  | .createSweepPolicy metadata order =>
      commitTreasury db ((createSweepPolicy metadata db order).map Prod.fst)
  | .updateSweepPolicy metadata policyId patch =>
      commitTreasury db ((updateSweepPolicy metadata db policyId patch).map Prod.fst)
  | .deleteSweepPolicy policyId => commitTreasury db (deleteSweepPolicy db policyId)
  | .enableSweepPolicy policyId =>
      commitTreasury db ((enableSweepPolicy db policyId).map Prod.fst)
  | .disableSweepPolicy policyId =>
      commitTreasury db ((disableSweepPolicy db policyId).map Prod.fst)
  | .acknowledgeWarnings policyId =>
      commitTreasury db ((acknowledgeWarnings db policyId).map Prod.fst)
  | .pauseAllPolicies => ⟨(SweepPolicyRepo.pauseAll db).1, [], none⟩
  | .resumeAllPolicies => ⟨(SweepPolicyRepo.resumeAll db).1, [], none⟩
  | .balanceUpdated listing holdingId balanceSats clock =>
      onBalanceUpdated listing db holdingId balanceSats clock
  | .pollOnce ctx => (pollOnce bdk ctx db).toSweepOutcome
  | .executeSweepNow custody metadata policyId amountSats now =>
      executeSweepNow custody metadata db policyId amountSats now
  | .confirmSweepExecution executionId =>
      commitTreasury db (confirmSweepExecution db executionId)
  | .writeProviders providers => ⟨{ db with custodialProviders := providers }, [], none⟩
  | .elsewhere operation =>
      match perform bdk db.toDatabase operation with
      | (after, none) => ⟨withBase db after operation, [], none⟩
      | (after, some error) => ⟨{ db with toDatabase := after }, [], some error⟩

/-- The committed database after an operation. -/
def treasuryStep (bdk : Bdk Psbt Tx) (db : TreasuryDatabase) (operation : TreasuryOperation) :
    TreasuryDatabase :=
  (treasuryPerform bdk db operation).db

/-! ### What the rest of the program does to executions -/

/-- The updates of an execution outside the treasury endpoints: `_check_withdrawal_txids` finds the
    transaction of a requested one, the reconciler takes one that is not on chain yet for
    dispatched. -/
inductive StatusReport (row : SweepExecutionRow) : SweepExecutionStatus → Option String → Prop where
  | onchainPending (expectedTxid : String) (requested : row.status = .requested) :
      StatusReport row .onchainPending (some expectedTxid)
  | dispatched
      (outgoing : row.status = .requested ∨ row.status = .awaitingUserConfirmation) :
      StatusReport row .dispatched none

/-- The operations of the rest of the program as the treasury meets them: executions are created and
    linked by triggers alone, and the policies of a deleted holding are those from or to it. -/
def ElsewhereLegal (db : TreasuryDatabase) : Operation → Prop
  | .createSweepExecution _ => False
  | .linkSweepExecution _ _ => False
  | .updateSweepExecution executionId status withdrawalId expectedTxid confirmedTxid errorMessage
      completedAt =>
      (∀ row, db.sweepExecutions.get? executionId = some row →
        StatusReport row status expectedTxid) ∧
      withdrawalId = none ∧ confirmedTxid = none ∧ errorMessage = none ∧ completedAt = none
  | .deleteHolding holdingId policyIds =>
      policyIds = (db.sweepPolicies.select fun row => row.touches holdingId).map SweepPolicyRow.id
  | _ => True

/-- bitcoind tells the truth, and the rest of the program does what it does. -/
def TreasuryLegal (chain : Chain) (db : TreasuryDatabase) : TreasuryOperation → Prop
  | .elsewhere operation => Legal chain operation ∧ ElsewhereLegal db operation
  | _ => True

/-- One operation of the program. -/
def TreasuryStep (bdk : Bdk Psbt Tx) (chain : Chain) :
    TreasuryDatabase → TreasuryOperation → TreasuryDatabase → Prop :=
  guarded (stepOf (treasuryStep bdk)) (TreasuryLegal chain)

end TallyKeep
