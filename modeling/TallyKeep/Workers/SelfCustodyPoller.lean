/-
Module: TallyKeep.Workers.SelfCustodyPoller
Layer: Workers
Purpose: `SelfCustodyPoller`: one poll over the enabled policies, and the sweeps it triggers.
Trusted boundary: translation of `workers/schedulers/self_custody_poller.py`.  The
  sessions of one poll follow each other without a write of another component between them
Main exports: polledBalance, triggerSweep, PollContext, pollPolicy, PollOutcome, pollRounds,
  pollOnce
-/
import TallyKeep.Services.Banking
import TallyKeep.Workers.SweepEngine

namespace TallyKeep

open Relational

variable {Psbt Tx : Type}

/-- The sum of `descriptor_balance_sats` over the descriptors of a holding. -/
def polledBalance (db : TreasuryDatabase) (holdingId : Uuid) : Int :=
  ((DescriptorRepo.listDescriptorsForHolding db.toDatabase holdingId).map fun descriptor =>
    (((UtxoRepo.listUnspentForDescriptor db.toDatabase descriptor.id).map
      UtxoRow.valueSats).sum : Int)).sum

/-- The payment a sweep asks for. -/
def SweepPolicyRow.paymentOrder (policy : SweepPolicyRow) (address : String) (amountSats : Int) :
    PaymentOrder where
  holdingId := policy.sourceHoldingId
  destinationAddress := address
  amountSats := some amountSats
  feeStrategy := some "normal"
  feeSatPerVbyte := none
  description := some ("Auto-sweep for policy " ++ toString policy.id)
  confirmedLongTerm := false

/-- The address a sweep pays to, or the text of the failure. -/
def sweepAddress (db : TreasuryDatabase) (destinationHoldingId : Uuid) : Except String String :=
  match DescriptorRepo.listDescriptorsForHolding db.toDatabase destinationHoldingId with
  | [] => .error "Destination holding has no descriptors"
  | descriptor :: _ =>
      match DescriptorRepo.nextUnusedAddress db.toDatabase descriptor.id false with
      | none => .error "No unused receive address on destination holding"
      | some address => .ok address.address

/-- `_trigger_sweep`: the committed database and the request that was made. -/
def triggerSweep (bdk : Bdk Psbt Tx) (node : PaymentNode) (db : TreasuryDatabase)
    (policy : SweepPolicyRow) (balanceSats amountSats : Int) (now : Timestamp) :
    Except PyError (TreasuryDatabase × Option PaymentRequestRow) := do
  let session := SweepSession.start db
  let execution ← thresholdExecution session policy balanceSats amountSats now
  let created := session.create execution
  let failed (text : String) : TreasuryDatabase :=
    (created.updateStatus execution.id .failed none (some text) (some now)).commit
  if policy.isDryRun then
    return ((created.updateStatus execution.id .completed none none (some now)).commit, none)
  match sweepAddress created.visible policy.destinationHoldingId with
  | .error text => return (failed text, none)
  | .ok address =>
      match buildPaymentRequest bdk node created.visible.toDatabase
          (policy.paymentOrder address amountSats) now with
      | .error error => return (failed ("PaymentRequest build failed: " ++ error.message), none)
      | .ok (_, none) =>
          -- A long-term vault: the result carries no request, and `.id` is read from `None`.
          throw ⟨.attributeError, "'NoneType' object has no attribute 'id'"⟩
      | .ok (_, some request) =>
          return (((created.addRequest request).linkRequest request.id execution.id).commit,
            some request)

/-- What one poll finds outside the database: bitcoind, the holdings' unmodelled columns, the order
    of the listing, the clock in the round of each policy, and the bus that is told of a new
    request. -/
structure PollContext where
  node : PaymentNode
  metadata : HoldingMetadata
  listing : PolicyListing
  clock : Uuid → Timestamp
  publish : Uuid → Except PyError Unit

/-- One round of the loop over the policies, up to its commit. -/
def pollPolicy (bdk : Bdk Psbt Tx) (ctx : PollContext) (db : TreasuryDatabase)
    (policy : SweepPolicyRow) : Except PyError (TreasuryDatabase × Option PaymentRequestRow) := do
  match ← getHolding ctx.metadata db policy.sourceHoldingId with
  | none => return (db, none)
  | some source =>
      if source.row.holdingType = .account then return (db, none)
      let balanceSats := polledBalance db policy.sourceHoldingId
      match ← evaluateThreshold policy balanceSats with
      | none => return (db, none)
      | some amountSats =>
          triggerSweep bdk ctx.node db policy balanceSats amountSats (ctx.clock policy.id)

/-- How a poll ends, with the threshold policies whose round began. -/
structure PollOutcome extends SweepOutcome where
  evaluated : List Uuid

/-- The loop over the policies: an exception ends it, also one of the bus after the commit. -/
def pollRounds (bdk : Bdk Psbt Tx) (ctx : PollContext) (db : TreasuryDatabase) :
    List SweepPolicyRow → PollOutcome
  | [] => ⟨⟨db, [], none⟩, []⟩
  | policy :: policies =>
      if policy.triggerType ≠ .threshold then pollRounds bdk ctx db policies
      else
        match pollPolicy bdk ctx db policy with
        | .error error => ⟨⟨db, [], some error⟩, [policy.id]⟩
        | .ok (after, none) =>
            let later := pollRounds bdk ctx after policies
            { later with evaluated := policy.id :: later.evaluated }
        | .ok (after, some request) =>
            let made := SweepEffect.paymentRequest policy.id request.id
            match ctx.publish request.id with
            | .error error => ⟨⟨after, [made], some error⟩, [policy.id]⟩
            | .ok _ =>
                let later := pollRounds bdk ctx after policies
                { later with
                  effects := made :: later.effects
                  evaluated := policy.id :: later.evaluated }

/-- `_poll_once`. -/
def pollOnce (bdk : Bdk Psbt Tx) (ctx : PollContext) (db : TreasuryDatabase) : PollOutcome :=
  match SweepPolicyRepo.listPolicies ctx.listing db none (some true) with
  | .error error => ⟨⟨db, [], some error⟩, []⟩
  | .ok policies => pollRounds bdk ctx db policies

end TallyKeep
