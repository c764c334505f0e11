/-
Module: TallyKeep.Api.SweepExecutions
Layer: Api
Purpose: The two callers of a manual execution: the endpoint, and the function of the queued job.
Trusted boundary: translation of `execute_sweep_policy_now` and `_do_execute` in
  `api/v1/treasury.py`.  The job the endpoint enqueues after its commit does nothing and is left out
Main exports: executeSweepPolicyNow, doExecute
-/
import TallyKeep.Services.Treasury

namespace TallyKeep

/-- What the endpoint answers for an exception: 404, 422, or as it is. -/
def executionRefusal (error : PyError) : PyError :=
  if error.cls = .policyNotFound ∨ error.cls = .treasuryServiceError then
    ⟨.httpException, error.message⟩
  else error

/-- `execute_sweep_policy_now`: the session of the request is committed where nothing was raised,
    and closed without a commit elsewhere. -/
def executeSweepPolicyNow (custody : Custody) (metadata : HoldingMetadata) (db : TreasuryDatabase)
    (policyId : Uuid) (amountSats : Option Int) (now : Timestamp) : SweepOutcome :=
  let outcome := executeSweepNow custody metadata db policyId amountSats now
  { outcome with raised := outcome.raised.map executionRefusal }

/-- `_do_execute`, with a session of its own. -/
def doExecute (custody : Custody) (metadata : HoldingMetadata) (db : TreasuryDatabase)
    (policyId : Uuid) (amountSats : Option Int) (now : Timestamp) : SweepOutcome :=
  executeSweepNow custody metadata db policyId amountSats now

end TallyKeep
