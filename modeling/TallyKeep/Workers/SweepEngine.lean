/-
Module: TallyKeep.Workers.SweepEngine
Layer: Workers
Purpose: `SweepEngine`: the executions a balance event creates.
Trusted boundary: translation of `workers/subscribers/sweep_engine.py`.  An event
  whose payload is not a holding id and a balance is dropped before anything is read, so it is no
  event here
Main exports: exceedsThreshold, evaluateThreshold, processPolicy, processThresholdPolicies,
  onBalanceUpdated
-/
import TallyKeep.Services.Treasury

namespace TallyKeep

open Relational

/-! ### Threshold checks -/

/-- `not balance_sats <= threshold`, with the threshold of the configuration or 0. -/
def exceedsThreshold (configuration : TriggerConfiguration) (balanceSats : Int) :
    Except PyError Bool :=
  match configuration.thresholdSats with
  | none => .ok (decide (0 < balanceSats))
  | some value =>
      match value.asNumber with
      | some threshold => .ok (decide (threshold < balanceSats))
      | none =>
          .error ⟨.typeError,
            "'<=' not supported between instances of 'int' and '" ++ value.typeName ++ "'"⟩

/-- The amount a threshold policy sweeps at a balance, unless it is skipped. -/
def evaluateThreshold (policy : SweepPolicyRow) (balanceSats : Int) :
    Except PyError (Option Int) := do
  if ← exceedsThreshold policy.triggerConfiguration balanceSats then
    return if policy.sweepAmount balanceSats ≤ 0 then none else some (policy.sweepAmount balanceSats)
  else return none

/-- The status a threshold execution starts in. -/
def SweepPolicyRow.initialStatus (policy : SweepPolicyRow) : SweepExecutionStatus :=
  if policy.requiresUserConfirmation then .awaitingUserConfirmation else .requested

/-- The execution a threshold sweep of the policy adds to a session. -/
def thresholdExecution (session : SweepSession) (policy : SweepPolicyRow)
    (balanceSats amountSats : Int) (now : Timestamp) : Except PyError SweepExecutionRow :=
  newSweepExecution session.freshExecutionId policy.id now .threshold balanceSats amountSats
    policy.initialStatus

/-! ### Balance events -/

/-- One round of the loop over the policies. -/
def processPolicy (balanceSats : Int) (clock : Uuid → Timestamp) (session : SweepSession)
    (policy : SweepPolicyRow) : Except PyError SweepSession := do
  if policy.triggerType ≠ .threshold then return session
  match ← evaluateThreshold policy balanceSats with
  | none => return session
  | some amountSats =>
      let now := clock policy.id
      let execution ← thresholdExecution session policy balanceSats amountSats now
      let created := session.create execution
      if policy.isDryRun then
        return created.updateStatus execution.id .completed none none (some now)
      else return created

/-- `_process_threshold_policies`. -/
def processThresholdPolicies (listing : PolicyListing) (session : SweepSession) (sourceHoldingId : Uuid)
    (balanceSats : Int) (clock : Uuid → Timestamp) : Except PyError SweepSession := do
  let policies ←
    SweepPolicyRepo.listPolicies listing session.visible (some sourceHoldingId) (some true)
  policies.foldlM (processPolicy balanceSats clock) session

/-- `_on_balance_updated`: one commit for the whole event; an exception is logged. -/
def onBalanceUpdated (listing : PolicyListing) (db : TreasuryDatabase) (holdingId : Uuid)
    (balanceSats : Int) (clock : Uuid → Timestamp) : SweepOutcome :=
  match processThresholdPolicies listing (SweepSession.start db) holdingId balanceSats clock with
  | .error error => ⟨db, [], some error⟩
  | .ok session => ⟨session.commit, [], none⟩

end TallyKeep
