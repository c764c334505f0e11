/-
Module: TallyKeep.Proofs.ThresholdDelivery
Layer: Proofs
Purpose: What the threshold policies of an Account do once all events of a poll cycle are
  delivered: no published topic is the one the sweep engine waits for.
Trusted boundary: none
Main exports: custodialTopics, topic_of_published, engineDeliver_published,
  ThresholdsTriggered, thresholdsTriggered_iff
-/
import TallyKeep.CustodialSystem
import TallyKeep.Proofs.PollCycles

namespace TallyKeep

open Relational

/-! ### Topics -/

/-- The topics a poll cycle publishes. -/
def custodialTopics : List String :=
  ["treasury.custodial.cycle_completed", "treasury.custodial.ledger_entry_added",
    "treasury.custodial.ledger_entry_updated", "treasury.custodial.connection_state_changed"]

theorem topic_of_cycleEvents {provider : ConnectedProviderRow} {balanceSats : Int}
    {added : List EntryPayload} {updated : List (EntryPayload × List EntryField)}
    {polledAt : Timestamp} {event : CustodialEvent}
    (published : event ∈ cycleEvents provider balanceSats added updated polledAt) :
    event.topic ∈ custodialTopics := by
  have change : ∀ condition : Prop, [Decidable condition] →
      event ∈ (if condition then [connectionStateChanged provider .healthy] else []) →
        event.topic ∈ custodialTopics := by
    intro condition _ member
    split at member
    · rw [List.mem_singleton.mp member]
      simp [connectionStateChanged, custodialTopics]
    · cases member
  rw [cycleEvents, List.mem_append] at published
  rcases published with early | late
  · simp only [List.cons_append, List.mem_cons, List.mem_append, List.mem_map] at early
    rcases early with rfl | ⟨entry, -, rfl⟩ | ⟨entry, -, rfl⟩ <;> simp [custodialTopics]
  · exact change _ late

/-- No pattern of the sweep engine matches a topic of a poll cycle. -/
theorem anyMatches_custodialTopics {topic : String} (listed : topic ∈ custodialTopics) :
    anyMatches sweepEnginePatterns topic = false := by
  have others : ∀ topic ∈ custodialTopics,
      '\n' ∉ topic.toList ∧ topic ≠ "custodial_provider.balance_updated" := by
    decide
  obtain ⟨plain, other⟩ := others topic listed
  rw [sweepEnginePatterns, anyMatches_singleton (by decide) plain]
  exact decide_eq_false other

section Delivery

variable {env : PollEnv} {db : CustodialDatabase} {providerId : Uuid} {out : PollCycleOut}

/-- Nothing that a successful cycle publishes reaches the sweep engine. -/
theorem delivered_eq_nil (run : (pollCycle env db providerId).answer = .ok out)
    {delivered : List CustodialEvent}
    (all : Delivered sweepEnginePatterns (pollCycle env db providerId).events delivered) :
    delivered = [] := by
  rw [pollCycle_answer] at run
  obtain ⟨provider, seen, cycle⟩ := observedCycle_of_ok run
  rw [List.eq_nil_iff_forall_not_mem]
  intro event member
  obtain ⟨published, hit⟩ := all.sound event member
  rw [pollCycle_events, cycle.events] at published
  rw [anyMatches_custodialTopics (topic_of_cycleEvents published)] at hit
  cases hit

/-! ### Executions -/

/-- The executions that are in one database and not in an earlier one. -/
def newExecutions (before after : CustodialDatabase) : List SweepExecutionRow :=
  after.sweepExecutions.rows.filter fun row =>
    decide (before.sweepExecutions.get? row.id = none)

/-- A successful cycle creates no execution. -/
theorem newExecutions_pollCycle (run : (pollCycle env db providerId).answer = .ok out) :
    newExecutions db (pollCycle env db providerId).db = [] := by
  rw [pollCycle_answer] at run
  obtain ⟨provider, seen, cycle⟩ := observedCycle_of_ok run
  have ids : (pollCycle env db providerId).db.sweepExecutions.rows.map SweepExecutionRow.id =
      db.sweepExecutions.rows.map SweepExecutionRow.id := by
    rw [pollCycle_db_of_ok run, checkWithdrawalTxids_ids, cycle.tables]
  rw [newExecutions, List.filter_eq_nil_iff]
  intro row member
  rw [decide_eq_true_iff, Table.get?_eq_none_iff, not_not]
  change row.id ∈ db.sweepExecutions.rows.map SweepExecutionRow.id
  rw [← ids]
  exact List.mem_map_of_mem member

/-- An enabled threshold policy of the holding. -/
structure SweepPolicyRow.Watches (policy : SweepPolicyRow) (db : CustodialDatabase)
    (holdingId : Uuid) : Prop where
  stored : policy ∈ db.sweepPolicies.rows
  source : policy.sourceHoldingId = holdingId
  enabled : policy.isEnabled = true
  threshold : policy.triggerType = .threshold

/-- Of the enabled threshold policies of the holding, those and no others whose threshold the
    balance exceeds, with something left to sweep, have a new execution, with the balance and the
    amount. -/
structure ThresholdsTriggered (before after : CustodialDatabase) (holdingId : Uuid)
    (balanceSats : Int) : Prop where
  crossing : ∀ policy : SweepPolicyRow, policy.Watches before holdingId → policy.Crosses balanceSats →
    ∃ row ∈ newExecutions before after, row.sweepPolicyId = policy.id ∧
      row.preBalanceSats = balanceSats ∧ row.intendedAmountSats = policy.sweepAmount balanceSats
  others : ∀ row ∈ newExecutions before after, ∃ policy : SweepPolicyRow, policy.Watches before holdingId ∧
    policy.Crosses balanceSats ∧ row.sweepPolicyId = policy.id

theorem thresholdsTriggered_of_no_executions {before after : CustodialDatabase}
    (idle : newExecutions before after = []) {holdingId : Uuid} {balanceSats : Int} :
    ThresholdsTriggered before after holdingId balanceSats ↔
      ∀ policy : SweepPolicyRow, policy.Watches before holdingId → ¬policy.Crosses balanceSats := by
  constructor
  · intro triggered policy watches crosses
    obtain ⟨row, added, -⟩ := triggered.crossing policy watches crosses
    rw [idle] at added
    cases added
  · intro quiet
    constructor
    · intro policy watches crosses
      exact absurd crosses (quiet policy watches)
    · intro row added
      rw [idle] at added
      cases added

/-- A successful cycle of the provider of an Account, with the balance it was told. -/
structure SuccessfulPoll (env : PollEnv) (db : CustodialDatabase) (providerId holdingId : Uuid)
    (balanceSats : Int) : Prop where
  account : (db.custodialProviders.get? providerId).map (fun row => row.holdingId) = some holdingId
  balance : Kraken.getBalance env.exchange = .ok balanceSats
  succeeded : ∃ out, (pollCycle env db providerId).answer = .ok out

/-- After a successful cycle and all deliveries to the sweep engine the threshold policies of the
    Account are triggered as they should exactly when none of them has anything to sweep. -/
theorem thresholdsTriggered_iff {holdingId : Uuid} {balanceSats : Int}
    (poll : SuccessfulPoll env db providerId holdingId balanceSats)
    {delivered : List CustodialEvent}
    (all : Delivered sweepEnginePatterns (pollCycle env db providerId).events delivered)
    (listing : PolicyListing) (clock : Uuid → Timestamp) :
    ThresholdsTriggered db
        (engineDeliver listing clock (pollCycle env db providerId).db delivered) holdingId
        balanceSats ↔
      ∀ policy : SweepPolicyRow, policy.Watches db holdingId → ¬policy.Crosses balanceSats := by
  obtain ⟨out, run⟩ := poll.succeeded
  rw [delivered_eq_nil run all]
  exact thresholdsTriggered_of_no_executions (newExecutions_pollCycle run)

end Delivery

/-- An exchange on which 40,000 satoshis are free, below the threshold of the sample policy. -/
def sampleLowExchange : Exchange := { sampleExchange [] with fetchFreeBtc := .ok (some (4 / 10000)) }

theorem thresholdsTriggered_iff_lowBalance :
    ThresholdsTriggered (sampleConnectedTo (sampleEnabled 30 false))
      (engineDeliver .inOrder (fun _ => 0)
        (pollCycle (samplePollEnv sampleLowExchange) (sampleConnectedTo (sampleEnabled 30 false))
          1).db
        (handedOver sweepEnginePatterns
          (pollCycle (samplePollEnv sampleLowExchange) (sampleConnectedTo (sampleEnabled 30 false))
            1).events)) 30 40000 := by
  have poll : SuccessfulPoll (samplePollEnv sampleLowExchange)
      (sampleConnectedTo (sampleEnabled 30 false)) 1 30 40000 := by
    refine ⟨by decide +kernel, by decide +kernel, ⟨⟨0, 0, 0, hour, .healthy⟩, ?_⟩⟩
    decide +kernel
  apply (thresholdsTriggered_iff poll (handedOver_delivered _ _) .inOrder fun _ => 0).mpr
  intro policy watches crosses
  have below : ∀ policy ∈ (sampleConnectedTo (sampleEnabled 30 false)).sweepPolicies.rows,
      exceedsThreshold policy.triggerConfiguration 40000 ≠ .ok true := by
    decide
  exact below policy watches.stored crosses.1

/-- The sample policy sweeps 40,000 of the 100,000 satoshis by an event with this balance, and
    nothing once all events of the cycle are delivered. -/
theorem not_thresholdsTriggered_of_highBalance :
    SuccessfulPoll (samplePollEnv (sampleExchange [])) (sampleConnectedTo (sampleEnabled 30 false)) 1
        30 100000 ∧
      ¬ThresholdsTriggered (sampleConnectedTo (sampleEnabled 30 false))
        (engineDeliver .inOrder (fun _ => 0)
          (pollCycle (samplePollEnv (sampleExchange [])) (sampleConnectedTo (sampleEnabled 30 false))
            1).db
          (handedOver sweepEnginePatterns
            (pollCycle (samplePollEnv (sampleExchange []))
              (sampleConnectedTo (sampleEnabled 30 false)) 1).events)) 30 100000 := by
  have poll : SuccessfulPoll (samplePollEnv (sampleExchange []))
      (sampleConnectedTo (sampleEnabled 30 false)) 1 30 100000 := by
    refine ⟨by decide +kernel, by decide +kernel, ⟨⟨0, 0, 0, hour, .healthy⟩, ?_⟩⟩
    decide +kernel
  refine ⟨poll, ?_⟩
  obtain ⟨out, run⟩ := poll.succeeded
  rw [delivered_eq_nil run (handedOver_delivered _ _)]
  intro triggered
  have crossed : ∃ policy ∈ (sampleConnectedTo (sampleEnabled 30 false)).sweepPolicies.rows,
      (policy.sourceHoldingId = 30 ∧ policy.isEnabled = true ∧ policy.triggerType = .threshold) ∧
        exceedsThreshold policy.triggerConfiguration 100000 = .ok true ∧
        0 < policy.sweepAmount 100000 := by
    decide
  obtain ⟨policy, stored, ⟨source, enabled, threshold⟩, above, left⟩ := crossed
  exact (thresholdsTriggered_of_no_executions (newExecutions_pollCycle run)).mp triggered policy
    ⟨stored, source, enabled, threshold⟩ ⟨above, left⟩

end TallyKeep
