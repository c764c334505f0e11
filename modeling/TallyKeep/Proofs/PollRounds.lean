/-
Module: TallyKeep.Proofs.PollRounds
Layer: Proofs
Purpose: The rounds of a poll: which skip their policy, which raise, which commit an execution, and
  what a sequence of them leaves.
Trusted boundary: none
Main exports: needsConfirmation, roundVerdict, PollChecks, pollPolicy_of_skips,
  pollPolicy_of_raises, pollPolicy_of_sweeps, SweptIn, PollLeaves, pollRounds_leaves, PollLists,
  pollOnce_cases
-/
import TallyKeep.Proofs.Banking
import TallyKeep.Proofs.SweepTriggers

namespace TallyKeep

open Relational

variable {Psbt Tx : Type}

/-! ### What a round finds -/

/-- The payment of the sweep would be one that the user has to confirm first: of a long-term vault,
    once there is an address to pay to. -/
def needsConfirmation (db : TreasuryDatabase) (policy : SweepPolicyRow) : Bool :=
  !policy.isDryRun && (sweepAddress db policy.destinationHoldingId).toOption.isSome &&
    (db.holdings.get? policy.sourceHoldingId).any fun row =>
      decide (row.holdingType = .vault ∧ row.purpose = .longTerm)

/-- How a round ends: its policy is passed over, it raises before its commit, or it commits an
    execution. -/
inductive RoundVerdict where
  | skips
  | raises
  | sweeps
deriving Repr, DecidableEq

/-- The verdict on a policy, from the database before its round. -/
def roundVerdict (metadata : HoldingMetadata) (db : TreasuryDatabase) (policy : SweepPolicyRow) :
    RoundVerdict :=
  match getHolding metadata db policy.sourceHoldingId with
  | .error _ => .raises
  | .ok none => .skips
  | .ok (some source) =>
      if source.row.holdingType = .account then .skips
      else
        match evaluateThreshold policy (polledBalance db policy.sourceHoldingId) with
        | .error _ => .raises
        | .ok none => .skips
        | .ok (some _) => if needsConfirmation db policy then .raises else .sweeps

/-- The round of a policy gets past its checks. -/
def PollChecks (metadata : HoldingMetadata) (db : TreasuryDatabase) (policy : SweepPolicyRow) :
    Prop :=
  ∃ source, getHolding metadata db policy.sourceHoldingId = .ok (some source) ∧
    source.row.holdingType ≠ .account ∧
      policy.Crosses (polledBalance db policy.sourceHoldingId)

theorem roundVerdict_sweeps_iff {metadata : HoldingMetadata} {db : TreasuryDatabase}
    {policy : SweepPolicyRow} :
    roundVerdict metadata db policy = .sweeps ↔
      PollChecks metadata db policy ∧ needsConfirmation db policy = false := by
  rw [roundVerdict, PollChecks]
  cases found : getHolding metadata db policy.sourceHoldingId with
  | error error => simp
  | ok source? =>
      cases source? with
      | none => simp
      | some source =>
          by_cases account : source.row.holdingType = .account
          · simp [account]
          · cases evaluated : evaluateThreshold policy (polledBalance db policy.sourceHoldingId) with
            | error error =>
                have incomparable := evaluateThreshold_error_iff.mp ⟨error, evaluated⟩
                have low : ¬policy.Crosses (polledBalance db policy.sourceHoldingId) :=
                  fun crosses => incomparable crosses.comparable
                simp [account, low]
            | ok amount? =>
                cases amount? with
                | none => simp [account, (evaluateThreshold_none_iff.mp evaluated).2]
                | some amount => simp [account, (evaluateThreshold_some_iff.mp evaluated).1]

/-- A holding that was read is stored, and its constructor accepted it. -/
theorem getHolding_some {metadata : HoldingMetadata} {db : TreasuryDatabase} {holdingId : Uuid}
    {holding : Holding} (found : getHolding metadata db holdingId = .ok (some holding)) :
    db.holdings.get? holdingId = some holding.row ∧
      (holding.row.holdingType ≠ .account →
        holding.row.declaredSigningModel ≠ .notApplicable) := by
  rw [getHolding, bind_ok_iff] at found
  obtain ⟨provider, -, found⟩ := found
  split at found
  · cases found
  · rename_i row stored
    rw [bind_ok_iff] at found
    obtain ⟨built, constructed, same⟩ := found
    cases same
    rw [Holding.postInit] at constructed
    have sameRow : holding.row = row ∧ (row.holdingType ≠ .account →
        row.declaredSigningModel ≠ .notApplicable) := by
      simp only at constructed
      split at constructed
      · rename_i account
        repeat' split at constructed
        all_goals try cases constructed
        cases checked : metadata row.id with
        | error error => simp [checked, Except.map] at constructed
        | ok _ =>
            simp only [checked, Except.map, Except.ok.injEq] at constructed
            rw [← constructed]
            exact ⟨rfl, fun other => absurd account other⟩
      · repeat' split at constructed
        all_goals try cases constructed
        rename_i signing
        cases checked : metadata row.id with
        | error error => simp [checked, Except.map] at constructed
        | ok _ =>
            simp only [checked, Except.map, Except.ok.injEq] at constructed
            rw [← constructed]
            exact ⟨rfl, fun _ => signing⟩
    rw [sameRow.1]
    exact ⟨stored, sameRow.2⟩

/-! ### One round -/

section Rounds

variable {bdk : Bdk Psbt Tx} {ctx : PollContext} {db : TreasuryDatabase} {policy : SweepPolicyRow}

theorem pollPolicy_of_skips (bdk : Bdk Psbt Tx)
    (skips : roundVerdict ctx.metadata db policy = .skips) :
    pollPolicy bdk ctx db policy = .ok (db, none) := by
  rw [roundVerdict] at skips
  rw [pollPolicy]
  cases found : getHolding ctx.metadata db policy.sourceHoldingId with
  | error error => simp [found] at skips
  | ok source? =>
      cases source? with
      | none => rfl
      | some source =>
          by_cases account : source.row.holdingType = .account
          · simp [account, bind, Except.bind, pure, Except.pure]
          · cases evaluated : evaluateThreshold policy (polledBalance db policy.sourceHoldingId) with
            | error error => simp [found, account, evaluated] at skips
            | ok amount? =>
                cases amount? with
                | none => simp [account, evaluated, bind, Except.bind, pure, Except.pure]
                | some amount =>
                    simp only [found, account, evaluated, if_false] at skips
                    split at skips <;> cases skips

/-- Past its checks a round is its trigger. -/
theorem pollPolicy_of_checks (checks : PollChecks ctx.metadata db policy) :
    pollPolicy bdk ctx db policy =
      triggerSweep bdk ctx.node db policy (polledBalance db policy.sourceHoldingId)
        (policy.sweepAmount (polledBalance db policy.sourceHoldingId)) (ctx.clock policy.id) := by
  obtain ⟨source, found, other, crosses⟩ := checks
  have evaluated := evaluateThreshold_some_iff.mpr ⟨crosses, rfl⟩
  simp [pollPolicy, found, other, evaluated, bind, Except.bind]

/-- The checks before the coin selection ask for a confirmation exactly for a long-term vault. -/
theorem admitPayment_requires_iff {base : Database} (order : PaymentOrder)
    (unconfirmed : order.confirmedLongTerm = false) {row : HoldingRow}
    (stored : base.holdings.get? order.holdingId = some row) (sends : row.holdingType ≠ .account)
    (signs : row.declaredSigningModel ≠ .notApplicable) :
    (∃ message, admitPayment base order = .ok (.requiresConfirmation message)) ↔
      row.holdingType = .vault ∧ row.purpose = .longTerm := by
  rw [admitPayment, stored]
  simp only
  rw [if_neg (not_or.mpr ⟨sends, signs⟩)]
  by_cases longTerm : row.holdingType = .vault ∧ row.purpose = .longTerm
  · rw [if_pos ⟨longTerm.1, longTerm.2, unconfirmed⟩]
    exact iff_of_true ⟨_, rfl⟩ longTerm
  · rw [if_neg fun held => longTerm ⟨held.1, held.2.1⟩]
    apply iff_of_false _ longTerm
    rintro ⟨message, answer⟩
    split at answer <;> cases answer

/-- The builder returns no request exactly where its checks ask for a confirmation. -/
theorem buildPaymentRequest_none_iff (bdk : Bdk Psbt Tx) (node : PaymentNode) (base : Database)
    (order : PaymentOrder) (now : Timestamp) :
    (∃ after, buildPaymentRequest bdk node base order now = .ok (after, none)) ↔
      ∃ message, admitPayment base order = .ok (.requiresConfirmation message) := by
  rw [buildPaymentRequest]
  cases admission : admitPayment base order with
  | error error => simp [bind, Except.bind]
  | ok answer =>
      cases answer with
      | requiresConfirmation message => simp [bind, Except.bind, pure, Except.pure]
      | admitted =>
          cases composed : composePayment bdk node base order base.paymentRequests.freshKey now with
          | error error => simp [bind, Except.bind]
          | ok request => simp [bind, Except.bind, pure, Except.pure]

/-- A request that was built is new, and knows of no execution. -/
theorem buildPaymentRequest_some {node : PaymentNode} {base after : Database}
    {order : PaymentOrder} {now : Timestamp} {request : PaymentRequestRow}
    (run : buildPaymentRequest bdk node base order now = .ok (after, some request)) :
    base.paymentRequests.get? request.id = none ∧ request.sweepExecutionId = none := by
  rcases buildPaymentRequest_ok run with ⟨-, impossible⟩ | ⟨-, psbtOrder, psbtBase64, -, made, -⟩
  · cases impossible
  · cases made
    exact ⟨base.paymentRequests.get?_freshKey, rfl⟩

theorem needsConfirmation_iff :
    needsConfirmation db policy = true ↔
      policy.isDryRun = false ∧
        (∃ address, sweepAddress db policy.destinationHoldingId = .ok address) ∧
          ∃ row, db.holdings.get? policy.sourceHoldingId = some row ∧ row.holdingType = .vault ∧
            row.purpose = .longTerm := by
  rw [needsConfirmation]
  cases sweepAddress db policy.destinationHoldingId <;>
    cases db.holdings.get? policy.sourceHoldingId <;> simp [Except.toOption]

/-- The holding a sweep leaves can send: it is no Account and declares how it signs. -/
def Sends (db : TreasuryDatabase) (policy : SweepPolicyRow) : Prop :=
  ∃ row, db.holdings.get? policy.sourceHoldingId = some row ∧ row.holdingType ≠ .account ∧
    row.declaredSigningModel ≠ .notApplicable

theorem PollChecks.sends (checks : PollChecks ctx.metadata db policy) : Sends db policy := by
  obtain ⟨source, found, other, -⟩ := checks
  obtain ⟨stored, signs⟩ := getHolding_some found
  exact ⟨source.row, stored, other, signs other⟩

/-- The payment of a sweep lacks a request exactly for a long-term vault. -/
theorem paymentOrder_none_iff (bdk : Bdk Psbt Tx) (node : PaymentNode) (sends : Sends db policy)
    (address : String) (amountSats : Int) (now : Timestamp) :
    (∃ after, buildPaymentRequest bdk node db.toDatabase (policy.paymentOrder address amountSats)
        now = .ok (after, none)) ↔
      ∃ row, db.holdings.get? policy.sourceHoldingId = some row ∧ row.holdingType = .vault ∧
        row.purpose = .longTerm := by
  obtain ⟨row, stored, other, signs⟩ := sends
  rw [buildPaymentRequest_none_iff,
    admitPayment_requires_iff (policy.paymentOrder address amountSats) rfl stored other signs]
  constructor
  · intro longTerm
    exact ⟨row, stored, longTerm⟩
  · rintro ⟨row', stored', longTerm⟩
    rw [stored] at stored'
    cases stored'
    exact longTerm

variable {balanceSats : Int} {now : Timestamp}

/-- A sweep whose payment needs a confirmation raises: its result has no request to read an id
    from. -/
theorem triggerSweep_of_needs (loads : policy.Loads) (crosses : policy.Crosses balanceSats)
    (sends : Sends db policy) (needed : needsConfirmation db policy = true) :
    ∃ error, triggerSweep bdk ctx.node db policy balanceSats (policy.sweepAmount balanceSats) now =
      .error error := by
  obtain ⟨dispatched, ⟨address, resolved⟩, longTerm⟩ := needsConfirmation_iff.mp needed
  have built := thresholdExecution_ok loads crosses (SweepSession.start db) now
  obtain ⟨after, requested⟩ := (paymentOrder_none_iff bdk ctx.node sends address
    (policy.sweepAmount balanceSats) now).mpr longTerm
  have sees : ((SweepSession.start db).create
      (policy.sweepRow (SweepSession.start db).freshExecutionId balanceSats now)).visible = db := rfl
  refine ⟨⟨.attributeError, "'NoneType' object has no attribute 'id'"⟩, ?_⟩
  simp only [triggerSweep, built, dispatched, sees, resolved, requested, bind, Except.bind]
  rfl

/-- Every other sweep commits its execution as it was added, and its request without a link to
    it. -/
theorem triggerSweep_of_not_needs (loads : policy.Loads) (crosses : policy.Crosses balanceSats)
    (sends : Sends db policy) (direct : needsConfirmation db policy = false) :
    ∃ after request,
      triggerSweep bdk ctx.node db policy balanceSats (policy.sweepAmount balanceSats) now =
          .ok (after, request) ∧
        SweepAdds db
            [policy.sweepRow (SweepSession.start db).freshExecutionId balanceSats now]
            request.toList after ∧
          (policy.isDryRun = true → request = none) ∧
            ∀ made, request = some made → made.sweepExecutionId = none := by
  have built := thresholdExecution_ok loads crosses (SweepSession.start db) now
  have started := SweepSession.Added.start db
  obtain ⟨row, sameRow⟩ : ∃ row,
      row = policy.sweepRow (SweepSession.start db).freshExecutionId balanceSats now := ⟨_, rfl⟩
  rw [← sameRow] at built ⊢
  have fresh : row.id = (SweepSession.start db).freshExecutionId := by
    rw [sameRow]
    rfl
  have unseen : (SweepSession.start db).visible.sweepExecutions.get? row.id = none := by
    rw [fresh]
    exact started.get?_fresh
  have added := started.create fresh
  have unwritten := (SweepSession.start db).updateStatus_added unseen
  generalize created : (SweepSession.start db).create row = session at *
  have alone : SweepAdds db [row] (none : Option PaymentRequestRow).toList session.commit :=
    added.written
  have nothingMade : ∀ made : PaymentRequestRow, none = some made → made.sweepExecutionId = none := by
    intro made impossible
    cases impossible
  by_cases dry : policy.isDryRun = true
  · refine ⟨session.commit, none, ?_, alone, fun _ => rfl, nothingMade⟩
    simp only [triggerSweep, built, created, dry, unwritten, bind, Except.bind, pure, Except.pure,
      if_true]
  · simp only [Bool.not_eq_true] at dry
    cases resolved : sweepAddress db policy.destinationHoldingId with
    | error text =>
        refine ⟨session.commit, none, ?_, alone, fun _ => rfl, nothingMade⟩
        simp only [triggerSweep, built, created, dry, unwritten, added.visible, resolved, bind,
          Except.bind, pure, Except.pure]
        rfl
    | ok address =>
        cases requested : buildPaymentRequest bdk ctx.node db.toDatabase
            (policy.paymentOrder address (policy.sweepAmount balanceSats)) now with
        | error error =>
            refine ⟨session.commit, none, ?_, alone, fun _ => rfl, nothingMade⟩
            simp only [triggerSweep, built, created, dry, unwritten, added.visible, resolved,
              requested, bind, Except.bind, pure, Except.pure]
            rfl
        | ok result =>
            obtain ⟨base, request?⟩ := result
            cases request? with
            | none =>
                have longTerm := (paymentOrder_none_iff bdk ctx.node sends address
                  (policy.sweepAmount balanceSats) now).mp ⟨base, requested⟩
                have needed := needsConfirmation_iff.mpr ⟨dry, ⟨address, resolved⟩, longTerm⟩
                rw [direct] at needed
                cases needed
            | some request =>
                obtain ⟨absent, unlinked⟩ := buildPaymentRequest_some requested
                have unlinkable := session.linkRequest_added
                  (by rw [added.visible]; exact absent) row.id
                have addedBoth := added.addRequest
                  (by rw [added.written.paymentRequests]; exact absent)
                refine ⟨_, some request, ?_, addedBoth.written, by simp [dry], ?_⟩
                · simp only [triggerSweep, built, created, dry, added.visible, resolved,
                    requested, unlinkable, bind, Except.bind, pure, Except.pure]
                  rfl
                · intro made same
                  cases same
                  exact unlinked

theorem pollPolicy_of_raises (bdk : Bdk Psbt Tx) (loads : policy.Loads)
    (raises : roundVerdict ctx.metadata db policy = .raises) :
    ∃ error, pollPolicy bdk ctx db policy = .error error := by
  rw [roundVerdict] at raises
  cases found : getHolding ctx.metadata db policy.sourceHoldingId with
  | error error => exact ⟨error, by simp [pollPolicy, found, bind, Except.bind]⟩
  | ok source? =>
      cases source? with
      | none => simp [found] at raises
      | some source =>
          by_cases account : source.row.holdingType = .account
          · simp [found, account] at raises
          · cases evaluated : evaluateThreshold policy (polledBalance db policy.sourceHoldingId) with
            | error error =>
                exact ⟨error, by simp [pollPolicy, found, account, evaluated, bind, Except.bind]⟩
            | ok amount? =>
                cases amount? with
                | none => simp [found, account, evaluated] at raises
                | some amount =>
                    have crosses := (evaluateThreshold_some_iff.mp evaluated).1
                    have checks : PollChecks ctx.metadata db policy :=
                      ⟨source, found, account, crosses⟩
                    have needed : needsConfirmation db policy = true := by
                      by_contra direct
                      simp [found, account, evaluated, direct] at raises
                    rw [pollPolicy_of_checks checks]
                    exact triggerSweep_of_needs loads crosses checks.sends needed

theorem pollPolicy_of_sweeps (bdk : Bdk Psbt Tx) (loads : policy.Loads)
    (sweeps : roundVerdict ctx.metadata db policy = .sweeps) :
    ∃ after request, pollPolicy bdk ctx db policy = .ok (after, request) ∧
      SweepAdds db
          [policy.sweepRow (SweepSession.start db).freshExecutionId
            (polledBalance db policy.sourceHoldingId) (ctx.clock policy.id)]
          request.toList after ∧
        (policy.isDryRun = true → request = none) ∧
          ∀ made, request = some made → made.sweepExecutionId = none := by
  obtain ⟨checks, direct⟩ := roundVerdict_sweeps_iff.mp sweeps
  rw [pollPolicy_of_checks checks]
  have sends := checks.sends
  obtain ⟨_, _, _, crosses⟩ := checks
  exact triggerSweep_of_not_needs loads crosses sends direct

end Rounds

/-! ### What earlier rounds leave alone -/

section Frames

variable {before after : TreasuryDatabase} {executions : List SweepExecutionRow}
  {requests : List PaymentRequestRow}

theorem SweepAdds.polledBalance (adds : SweepAdds before executions requests after)
    (holdingId : Uuid) :
    TallyKeep.polledBalance after holdingId = TallyKeep.polledBalance before holdingId := by
  rw [adds.tables]
  rfl

theorem SweepAdds.roundVerdict (adds : SweepAdds before executions requests after)
    (metadata : HoldingMetadata) (policy : SweepPolicyRow) :
    TallyKeep.roundVerdict metadata after policy = TallyKeep.roundVerdict metadata before policy := by
  rw [adds.tables]
  rfl

end Frames

/-! ### The loop -/

section Loop

variable (bdk : Bdk Psbt Tx) (ctx : PollContext)

/-- After the round of a policy the loop goes on from the second database. -/
def Continues (db : TreasuryDatabase) (policy : SweepPolicyRow) (after : TreasuryDatabase)
    (effects : List SweepEffect) : Prop :=
  ∀ policies, (pollRounds bdk ctx db (policy :: policies)).toSweepOutcome =
    ⟨(pollRounds bdk ctx after policies).db,
      effects ++ (pollRounds bdk ctx after policies).effects,
      (pollRounds bdk ctx after policies).raised⟩

/-- The round of a policy ends the loop and leaves the second database. -/
def Ends (db : TreasuryDatabase) (policy : SweepPolicyRow) (after : TreasuryDatabase)
    (effects : List SweepEffect) : Prop :=
  ∃ error, ∀ policies, (pollRounds bdk ctx db (policy :: policies)).toSweepOutcome =
    ⟨after, effects, some error⟩

/-- A poll over a list sweeps the policy: its round begins, since none before raised, and
    commits. -/
def SweptIn (db : TreasuryDatabase) (policies : List SweepPolicyRow) (policy : SweepPolicyRow) :
    Prop :=
  ∃ earlier later, policies = earlier ++ policy :: later ∧
    (pollRounds bdk ctx db earlier).raised = none ∧ policy.triggerType = .threshold ∧
      roundVerdict ctx.metadata db policy = .sweeps

variable {bdk ctx} {db after : TreasuryDatabase} {head : SweepPolicyRow}
  {rest : List SweepPolicyRow} {effects : List SweepEffect} {executions : List SweepExecutionRow}
  {requests : List PaymentRequestRow}

@[simp] theorem not_sweptIn_nil (policy : SweepPolicyRow) : ¬SweptIn bdk ctx db [] policy := by
  rintro ⟨earlier, later, split, -⟩
  simp at split

/-- Where the first round lets the loop go on, a policy is swept by it or by a later one. -/
theorem sweptIn_cons_of_continues (continues : Continues bdk ctx db head after effects)
    (adds : SweepAdds db executions requests after) (rest : List SweepPolicyRow)
    (policy : SweepPolicyRow) :
    SweptIn bdk ctx db (head :: rest) policy ↔
      policy = head ∧ head.triggerType = .threshold ∧
          roundVerdict ctx.metadata db head = .sweeps ∨
        SweptIn bdk ctx after rest policy := by
  have raised : ∀ earlier, (pollRounds bdk ctx db (head :: earlier)).raised =
      (pollRounds bdk ctx after earlier).raised := by
    intro earlier
    rw [continues earlier]
  constructor
  · rintro ⟨earlier, later, split, reached, threshold, sweeps⟩
    cases earlier with
    | nil =>
        cases split
        exact .inl ⟨rfl, threshold, sweeps⟩
    | cons first earlier =>
        cases split
        refine .inr ⟨earlier, later, rfl, ?_, threshold, ?_⟩
        · rw [← raised earlier]
          exact reached
        · rw [adds.roundVerdict]
          exact sweeps
  · rintro (⟨rfl, threshold, sweeps⟩ | ⟨earlier, later, rfl, reached, threshold, sweeps⟩)
    · exact ⟨[], rest, rfl, rfl, threshold, sweeps⟩
    · refine ⟨head :: earlier, later, rfl, ?_, threshold, ?_⟩
      · rw [raised earlier]
        exact reached
      · rw [adds.roundVerdict] at sweeps
        exact sweeps

/-- Where the first round ends the loop, no other policy is swept. -/
theorem sweptIn_cons_of_ends (ends : Ends bdk ctx db head after effects)
    (rest : List SweepPolicyRow) (policy : SweepPolicyRow) :
    SweptIn bdk ctx db (head :: rest) policy ↔
      policy = head ∧ head.triggerType = .threshold ∧
        roundVerdict ctx.metadata db head = .sweeps := by
  constructor
  · rintro ⟨earlier, later, split, reached, threshold, sweeps⟩
    cases earlier with
    | nil =>
        cases split
        exact ⟨rfl, threshold, sweeps⟩
    | cons first earlier =>
        cases split
        obtain ⟨error, outcome⟩ := ends
        rw [outcome earlier] at reached
        cases reached
  · rintro ⟨rfl, threshold, sweeps⟩
    exact ⟨[], rest, rfl, rfl, threshold, sweeps⟩

/-- What a poll over a list leaves: one execution for each swept policy, as its round added it. -/
structure PollLeaves (bdk : Bdk Psbt Tx) (ctx : PollContext) (db : TreasuryDatabase)
    (policies : List SweepPolicyRow) (new : List SweepExecutionRow)
    (made : List PaymentRequestRow) : Prop where
  adds : SweepAdds db new made (pollRounds bdk ctx db policies).db
  once : (new.map SweepExecutionRow.sweepPolicyId).Sublist (policies.map SweepPolicyRow.id)
  swept : ∀ row ∈ new, ∃ policy, SweptIn bdk ctx db policies policy ∧
    row.erased = policy.sweepRow 0 (polledBalance db policy.sourceHoldingId) (ctx.clock policy.id)
  complete : ∀ policy, SweptIn bdk ctx db policies policy →
    ∃ row ∈ new, row.sweepPolicyId = policy.id
  effects : ∀ effect ∈ (pollRounds bdk ctx db policies).effects,
    ∃ policy, SweptIn bdk ctx db policies policy ∧ policy.isDryRun = false ∧
      effect.policyId = policy.id
  unlinked : ∀ request ∈ made, request.sweepExecutionId = none
  unreferenced : ∀ row ∈ new, ∀ request ∈ db.paymentRequests.rows,
    request.sweepExecutionId ≠ some row.id

/-- What a single round leaves. -/
structure RoundLeaves (ctx : PollContext) (db : TreasuryDatabase) (policy : SweepPolicyRow)
    (after : TreasuryDatabase) (effects : List SweepEffect) (new : List SweepExecutionRow)
    (made : List PaymentRequestRow) : Prop where
  adds : SweepAdds db new made after
  once : (new.map SweepExecutionRow.sweepPolicyId).Sublist [policy.id]
  swept : ∀ row ∈ new, policy.triggerType = .threshold ∧
    roundVerdict ctx.metadata db policy = .sweeps ∧
    row.erased = policy.sweepRow 0 (polledBalance db policy.sourceHoldingId) (ctx.clock policy.id)
  complete : policy.triggerType = .threshold → roundVerdict ctx.metadata db policy = .sweeps →
    ∃ row ∈ new, row.sweepPolicyId = policy.id
  effects : ∀ effect ∈ effects, policy.triggerType = .threshold ∧
    roundVerdict ctx.metadata db policy = .sweeps ∧ policy.isDryRun = false ∧
      effect.policyId = policy.id
  unlinked : ∀ request ∈ made, request.sweepExecutionId = none
  unreferenced : ∀ row ∈ new, ∀ request ∈ db.paymentRequests.rows,
    request.sweepExecutionId ≠ some row.id

variable {new new' : List SweepExecutionRow} {made made' : List PaymentRequestRow}

/-- A round after which the loop goes on, and the rounds that follow. -/
theorem RoundLeaves.cons (round : RoundLeaves ctx db head after effects new made)
    (continues : Continues bdk ctx db head after effects)
    (leaves : PollLeaves bdk ctx after rest new' made') :
    PollLeaves bdk ctx db (head :: rest) (new ++ new') (made ++ made') := by
  have swept := sweptIn_cons_of_continues continues round.adds rest
  constructor
  · rw [continues rest]
    exact round.adds.trans leaves.adds
  · rw [List.map_append, List.map_cons]
    exact round.once.append leaves.once
  · intro row added
    rcases List.mem_append.mp added with first | later
    · obtain ⟨threshold, sweeps, same⟩ := round.swept row first
      exact ⟨head, (swept head).mpr (.inl ⟨rfl, threshold, sweeps⟩), same⟩
    · obtain ⟨policy, sweeps, same⟩ := leaves.swept row later
      rw [round.adds.polledBalance] at same
      exact ⟨policy, (swept policy).mpr (.inr sweeps), same⟩
  · intro policy sweeps
    rcases (swept policy).mp sweeps with ⟨rfl, threshold, verdict⟩ | later
    · obtain ⟨row, added, same⟩ := round.complete threshold verdict
      exact ⟨row, List.mem_append_left _ added, same⟩
    · obtain ⟨row, added, same⟩ := leaves.complete policy later
      exact ⟨row, List.mem_append_right _ added, same⟩
  · intro effect happened
    rw [continues rest] at happened
    rcases List.mem_append.mp happened with first | later
    · obtain ⟨threshold, sweeps, real, same⟩ := round.effects effect first
      exact ⟨head, (swept head).mpr (.inl ⟨rfl, threshold, sweeps⟩), real, same⟩
    · obtain ⟨policy, sweeps, real, same⟩ := leaves.effects effect later
      exact ⟨policy, (swept policy).mpr (.inr sweeps), real, same⟩
  · intro request added
    rcases List.mem_append.mp added with first | later
    · exact round.unlinked request first
    · exact leaves.unlinked request later
  · intro row added request stored
    rcases List.mem_append.mp added with first | later
    · exact round.unreferenced row first request stored
    · apply leaves.unreferenced row later request
      rw [round.adds.requests]
      exact List.mem_append_left made stored

/-- A round that ends the loop. -/
theorem RoundLeaves.last (round : RoundLeaves ctx db head after effects new made)
    (ends : Ends bdk ctx db head after effects) (rest : List SweepPolicyRow) :
    PollLeaves bdk ctx db (head :: rest) new made := by
  have swept := sweptIn_cons_of_ends ends rest
  obtain ⟨error, outcome⟩ := ends
  constructor
  · rw [outcome rest]
    exact round.adds
  · exact round.once.trans (List.singleton_sublist.mpr List.mem_cons_self)
  · intro row added
    obtain ⟨threshold, sweeps, same⟩ := round.swept row added
    exact ⟨head, (swept head).mpr ⟨rfl, threshold, sweeps⟩, same⟩
  · intro policy sweeps
    obtain ⟨rfl, threshold, verdict⟩ := (swept policy).mp sweeps
    exact round.complete threshold verdict
  · intro effect happened
    rw [outcome rest] at happened
    obtain ⟨threshold, sweeps, real, same⟩ := round.effects effect happened
    exact ⟨head, (swept head).mpr ⟨rfl, threshold, sweeps⟩, real, same⟩
  · exact round.unlinked
  · exact round.unreferenced

/-- A round that commits nothing. -/
theorem RoundLeaves.idle
    (idle : head.triggerType = .threshold → roundVerdict ctx.metadata db head ≠ .sweeps) :
    RoundLeaves ctx db head db [] [] [] where
  adds := .refl db
  once := List.nil_sublist _
  swept := by simp
  complete := fun threshold sweeps => absurd sweeps (idle threshold)
  effects := by simp
  unlinked := by simp
  unreferenced := by simp

/-- A round that commits an execution, with the effect of its request. -/
theorem RoundLeaves.of_sweeps {request : Option PaymentRequestRow}
    (threshold : head.triggerType = .threshold)
    (sweeps : roundVerdict ctx.metadata db head = .sweeps)
    (adds : SweepAdds db
      [head.sweepRow (SweepSession.start db).freshExecutionId
        (polledBalance db head.sourceHoldingId) (ctx.clock head.id)]
      request.toList after)
    (dry : head.isDryRun = true → request = none)
    (unlinked : ∀ made, request = some made → made.sweepExecutionId = none) :
    RoundLeaves ctx db head after
      (request.toList.map fun made => .paymentRequest head.id made.id)
      [head.sweepRow (SweepSession.start db).freshExecutionId
        (polledBalance db head.sourceHoldingId) (ctx.clock head.id)]
      request.toList where
  adds := adds
  once := List.Sublist.refl _
  swept := by
    intro row added
    rw [List.mem_singleton.mp added]
    exact ⟨threshold, sweeps, rfl⟩
  complete := fun _ _ => ⟨_, List.mem_singleton_self _, rfl⟩
  effects := by
    intro effect happened
    obtain ⟨made, present, rfl⟩ := List.mem_map.mp happened
    refine ⟨threshold, sweeps, ?_, rfl⟩
    by_contra isDry
    rw [dry (by simpa using isDry)] at present
    simp at present
  unlinked := by
    intro made present
    exact unlinked made (by simpa using present)
  unreferenced := by
    intro row added request stored
    rw [List.mem_singleton.mp added]
    exact (SweepSession.start db).sweepExecutionId_ne_freshExecutionId stored

/-- A round leaves what its verdict says, and the loop goes on or ends. -/
theorem round_leaves (bdk : Bdk Psbt Tx) (ctx : PollContext) (loads : head.Loads)
    (db : TreasuryDatabase) :
    ∃ after effects new made, RoundLeaves ctx db head after effects new made ∧
      (Continues bdk ctx db head after effects ∨ Ends bdk ctx db head after effects) := by
  by_cases threshold : head.triggerType = .threshold
  · cases verdict : roundVerdict ctx.metadata db head with
    | skips =>
        have run := pollPolicy_of_skips bdk verdict
        refine ⟨db, [], [], [], .idle fun _ => by rw [verdict]; simp, .inl ?_⟩
        intro policies
        simp [pollRounds, threshold, run]
    | raises =>
        obtain ⟨error, run⟩ := pollPolicy_of_raises bdk loads verdict
        refine ⟨db, [], [], [], .idle fun _ => by rw [verdict]; simp, .inr ⟨error, ?_⟩⟩
        intro policies
        simp [pollRounds, threshold, run]
    | sweeps =>
        obtain ⟨after, request, run, adds, dry, unlinked⟩ := pollPolicy_of_sweeps bdk loads verdict
        refine ⟨after, _, _, _, .of_sweeps threshold verdict adds dry unlinked, ?_⟩
        cases request with
        | none =>
            apply Or.inl
            intro policies
            simp [pollRounds, threshold, run]
        | some request =>
            cases told : ctx.publish request.id with
            | error error =>
                refine .inr ⟨error, ?_⟩
                intro policies
                simp [pollRounds, threshold, run, told]
            | ok _ =>
                apply Or.inl
                intro policies
                simp [pollRounds, threshold, run, told]
  · refine ⟨db, [], [], [], .idle fun is => absurd is threshold, .inl ?_⟩
    intro policies
    simp [pollRounds, threshold]

/-- What a poll over policies that load leaves. -/
theorem pollRounds_leaves (bdk : Bdk Psbt Tx) (ctx : PollContext) {policies : List SweepPolicyRow}
    (loads : ∀ policy ∈ policies, policy.Loads) (db : TreasuryDatabase) :
    ∃ new made, PollLeaves bdk ctx db policies new made := by
  induction policies generalizing db with
  | nil =>
      refine ⟨[], [], .refl db, List.nil_sublist _, by simp, by simp, ?_, by simp, by simp⟩
      simp [pollRounds]
  | cons head rest inductionHypothesis =>
      have restLoads := fun policy listed => loads policy (List.mem_cons_of_mem head listed)
      obtain ⟨after, effects, new, made, round, continues | ends⟩ :=
        round_leaves bdk ctx (loads head List.mem_cons_self) db
      · obtain ⟨new', made', leaves⟩ := inductionHypothesis restLoads after
        exact ⟨new ++ new', made ++ made', round.cons continues leaves⟩
      · exact ⟨new, made, round.last ends rest⟩

end Loop

/-! ### Polls -/

/-- The policies a poll works through. -/
def polledPolicies (ctx : PollContext) (db : TreasuryDatabase) : List SweepPolicyRow :=
  ctx.listing.arrange (SweepPolicyRepo.selected db none (some true))

/-- The listing of a poll returns. -/
def PollLists (db : TreasuryDatabase) : Prop :=
  ∀ row ∈ SweepPolicyRepo.selected db none (some true), row.Loads

theorem PollLists.loads {db : TreasuryDatabase} (lists : PollLists db) (ctx : PollContext) :
    ∀ policy ∈ polledPolicies ctx db, policy.Loads :=
  fun policy listed => lists policy (ctx.listing.mem_arrange.mp listed)

/-- A poll works through its listing, or stops at it. -/
theorem pollOnce_cases (bdk : Bdk Psbt Tx) (ctx : PollContext) (db : TreasuryDatabase) :
    PollLists db ∧ pollOnce bdk ctx db = pollRounds bdk ctx db (polledPolicies ctx db) ∧
        (∃ new made, PollLeaves bdk ctx db (polledPolicies ctx db) new made) ∨
      ¬PollLists db ∧ ∃ error, pollOnce bdk ctx db = ⟨⟨db, [], some error⟩, []⟩ := by
  rw [pollOnce]
  cases listed : SweepPolicyRepo.listPolicies ctx.listing db none (some true) with
  | error error =>
      refine .inr ⟨?_, error, rfl⟩
      intro lists
      have returns : SweepPolicyRepo.listPolicies ctx.listing db none (some true) =
          .ok (polledPolicies ctx db) := listPolicies_ok_iff.mpr ⟨rfl, lists⟩
      rw [listed] at returns
      cases returns
  | ok policies =>
      obtain ⟨rfl, lists⟩ := listPolicies_ok_iff.mp listed
      exact .inl ⟨lists, rfl, pollRounds_leaves bdk ctx (PollLists.loads lists ctx) db⟩

end TallyKeep
