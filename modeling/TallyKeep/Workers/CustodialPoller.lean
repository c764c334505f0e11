/-
Module: TallyKeep.Workers.CustodialPoller
Layer: Workers
Purpose: The orchestrator of poll cycles in the worker: its gate, and the threads it starts on the
  ticks of the scheduler and on the events of the lock.
Trusted boundary: translation of `workers/subscribers/custodial_poller.py` and of
  `_tick` in `workers/schedulers/custodial_poll_scheduler.py`.  A tick names its provider, as the
  scheduler writes it; the lines of the log, the timeouts and the interval between ticks are left
  out
Main exports: PollerEvent, PollerThread, CustodialPoller, onPollerEvent, catchUpBurst,
  tickedProviders
-/
import TallyKeep.Repositories.Custodial

namespace TallyKeep

/-! ### Events and threads -/

/-- The events the poller subscribes to. -/
inductive PollerEvent where
  | pollTick (providerId : Uuid)
  | systemUnlocked
  | systemLocked
deriving Repr, DecidableEq

/-- A thread the poller has started. -/
inductive PollerThread where
  | catchUpBurst
  | dispatchCycle (providerId : Uuid)
deriving Repr, DecidableEq

/-- `_dispatch_enabled`, and the threads that are running. -/
structure CustodialPoller where
  dispatchEnabled : Bool
  threads : List PollerThread
deriving DecidableEq

/-- `__init__`. -/
def CustodialPoller.started : CustodialPoller := ⟨true, []⟩

/-- The gate after an event. -/
def PollerEvent.gate : PollerEvent → Bool → Bool
  | pollTick _, enabled => enabled
  | systemUnlocked, _ => true
  | systemLocked, _ => false

/-- The threads that are started on an event, with the gate as it was before. -/
def PollerEvent.starts : PollerEvent → Bool → List PollerThread
  | pollTick providerId, enabled => if enabled then [.dispatchCycle providerId] else []
  | systemUnlocked, _ => [.catchUpBurst]
  | systemLocked, _ => []

/-- `_on_event`. -/
def onPollerEvent (poller : CustodialPoller) (event : PollerEvent) : CustodialPoller where
  dispatchEnabled := event.gate poller.dispatchEnabled
  threads := poller.threads ++ event.starts poller.dispatchEnabled

/-! ### Providers -/

/-- The active providers, as far as a session gets to list them. -/
def listedProviders (listed : Bool) (db : CustodialDatabase) : List Uuid :=
  if listed then
    match ConnectedProviderRepo.listActive db with
    | .error _ => []
    | .ok providers => providers.map fun provider => provider.id
  else []

/-- `_catch_up_burst`: the cycles it submits, each to a thread of its own. -/
def catchUpBurst (listed : Bool) (db : CustodialDatabase) : List PollerThread :=
  (listedProviders listed db).map .dispatchCycle

/-- `_tick`: the providers a tick is published for. -/
def tickedProviders (listed : Bool) (db : CustodialDatabase) : List Uuid :=
  listedProviders listed db

end TallyKeep
