/-
Module: TallyKeep.Proofs.SweepFunding
Layer: Proofs
Purpose: When the payments of a poll's sweeps can be funded and leave the floor of their policy.
Trusted boundary: none
Main exports: spendableSats, withheldSats, polledBalance_eq, SweepAsks, FundedBy, RefusedForFunds,
  SweepFeasible, SweepRoom, sweepFeasible_iff, roundsBegun, sweepsFeasible_iff
-/
import TallyKeep.Adapters.Funding
import TallyKeep.Proofs.PollRecords
import TallyKeep.Proofs.SpendableInputs

namespace TallyKeep

open Relational

variable {Psbt Tx : Type}

/-! ### The two balances -/

/-- The sum a payment may spend. -/
def spendableSats (db : Database) (descriptorId : Uuid) : Nat :=
  ((gatherSpendableUtxos db descriptorId).map UtxoRow.valueSats).sum

/-- The sum of the unspent coins a payment may not spend: frozen ones, and unconfirmed ones. -/
def withheldSats (db : Database) (descriptorId : Uuid) : Nat :=
  (((UtxoRepo.listUnspentForDescriptor db descriptorId).filter fun row =>
    !(!row.isFrozen && row.confirmationHeight.isSome)).map UtxoRow.valueSats).sum

/-- The balance of a poll is what a payment may spend, with what it may not. -/
theorem polledBalance_eq {db : TreasuryDatabase} {holdingId : Uuid} {descriptor : DescriptorRow}
    (single : DescriptorRepo.listDescriptorsForHolding db.toDatabase holdingId = [descriptor]) :
    polledBalance db holdingId =
      spendableSats db.toDatabase descriptor.id + withheldSats db.toDatabase descriptor.id := by
  have parted := (List.filter_append_perm
    (fun row : UtxoRow => !row.isFrozen && row.confirmationHeight.isSome)
    (UtxoRepo.listUnspentForDescriptor db.toDatabase descriptor.id)).map UtxoRow.valueSats
  have sums := parted.sum_eq
  rw [List.map_append, List.sum_append] at sums
  rw [polledBalance, single, List.map_singleton, List.sum_singleton, ← sums]
  exact Nat.cast_add _ _

/-- What a sweep takes fits below a limit exactly when all above the floor does, or the cap. -/
theorem SweepPolicyRow.sweepAmount_add_le_iff (policy : SweepPolicyRow)
    (balanceSats feeSats limit : Int) :
    policy.sweepAmount balanceSats + feeSats ≤ limit ↔
      balanceSats - policy.minimumBalanceSats + feeSats ≤ limit ∨
        ∃ cap, policy.maximumPerPeriodSats = some cap ∧ cap + feeSats ≤ limit := by
  rw [sweepAmount]
  cases policy.maximumPerPeriodSats with
  | none => simp
  | some cap =>
      simp only [Option.some.injEq, exists_eq_left']
      rw [← le_sub_iff_add_le, min_le_iff, le_sub_iff_add_le, le_sub_iff_add_le]

/-! ### The payment of a sweep -/

/-- A policy whose checks pass has a source above its threshold. -/
theorem PollChecks.crosses {metadata : HoldingMetadata} {db : TreasuryDatabase}
    {policy : SweepPolicyRow} (checks : PollChecks metadata db policy) :
    policy.Crosses (polledBalance db policy.sourceHoldingId) := by
  obtain ⟨-, -, -, crosses⟩ := checks
  exact crosses

/-- A round is past its checks and asks the banking service for a payment. -/
structure SweepAsks (ctx : PollContext) (db : TreasuryDatabase) (policy : SweepPolicyRow)
    (order : PaymentOrder) : Prop where
  checks : PollChecks ctx.metadata db policy
  dispatched : policy.isDryRun = false
  resolved : ∃ address, sweepAddress db policy.destinationHoldingId = .ok address ∧
    order = policy.paymentOrder address
      (policy.sweepAmount (polledBalance db policy.sourceHoldingId))

/-- A sweep asks for the amount of its policy. -/
theorem SweepAsks.amountSats {ctx : PollContext} {db : TreasuryDatabase} {policy : SweepPolicyRow}
    {order : PaymentOrder} (asks : SweepAsks ctx db policy order) :
    order.amountSats = some (policy.sweepAmount (polledBalance db policy.sourceHoldingId)) := by
  obtain ⟨address, -, rfl⟩ := asks.resolved
  rfl

/-- A sweep asks for a payment of the source of its policy. -/
theorem SweepAsks.holdingId {ctx : PollContext} {db : TreasuryDatabase} {policy : SweepPolicyRow}
    {order : PaymentOrder} (asks : SweepAsks ctx db policy order) :
    order.holdingId = policy.sourceHoldingId := by
  obtain ⟨address, -, rfl⟩ := asks.resolved
  rfl

/-- A sweep asks for a positive amount. -/
theorem SweepAsks.positive {ctx : PollContext} {db : TreasuryDatabase} {policy : SweepPolicyRow}
    {order : PaymentOrder} (asks : SweepAsks ctx db policy order) :
    0 < policy.sweepAmount (polledBalance db policy.sourceHoldingId) :=
  asks.checks.crosses.2

/-- The database a session reads after it has added an execution is the one it began with. -/
theorem visible_create_start (db : TreasuryDatabase) (row : SweepExecutionRow) :
    ((SweepSession.start db).create row).visible = db := rfl

/-- What a sweep commits when its payment is made. -/
theorem triggerSweep_of_built {bdk : Bdk Psbt Tx} {node : PaymentNode} {db : TreasuryDatabase}
    {policy : SweepPolicyRow} {balanceSats : Int} {now : Timestamp} {address : String}
    {base : Database} {request : PaymentRequestRow} (loads : policy.Loads)
    (crosses : policy.Crosses balanceSats) (dispatched : policy.isDryRun = false)
    (resolved : sweepAddress db policy.destinationHoldingId = .ok address)
    (built : buildPaymentRequest bdk node db.toDatabase
      (policy.paymentOrder address (policy.sweepAmount balanceSats)) now =
        .ok (base, some request)) :
    ∃ after, triggerSweep bdk node db policy balanceSats (policy.sweepAmount balanceSats) now =
      .ok (after, some request) := by
  have execution := thresholdExecution_ok loads crosses (SweepSession.start db) now
  simp only [triggerSweep, execution, dispatched, visible_create_start, resolved, built, bind,
    Except.bind]
  exact ⟨_, rfl⟩

/-- A sweep makes no request without an address and a payment to it. -/
theorem built_of_triggerSweep {bdk : Bdk Psbt Tx} {node : PaymentNode} {db after : TreasuryDatabase}
    {policy : SweepPolicyRow} {balanceSats : Int} {now : Timestamp} {request : PaymentRequestRow}
    (loads : policy.Loads) (crosses : policy.Crosses balanceSats)
    (run : triggerSweep bdk node db policy balanceSats (policy.sweepAmount balanceSats) now =
      .ok (after, some request)) :
    policy.isDryRun = false ∧ ∃ address base,
      sweepAddress db policy.destinationHoldingId = .ok address ∧
        buildPaymentRequest bdk node db.toDatabase
          (policy.paymentOrder address (policy.sweepAmount balanceSats)) now =
            .ok (base, some request) := by
  have execution := thresholdExecution_ok loads crosses (SweepSession.start db) now
  simp only [triggerSweep, execution, visible_create_start, bind, Except.bind] at run
  by_cases dry : policy.isDryRun = true
  · simp [dry, pure, Except.pure] at run
  · rw [Bool.not_eq_true] at dry
    refine ⟨dry, ?_⟩
    rw [if_neg (by simp [dry])] at run
    cases resolved : sweepAddress db policy.destinationHoldingId with
    | error text => simp [resolved, pure, Except.pure] at run
    | ok address =>
        simp only [resolved] at run
        cases built : buildPaymentRequest bdk node db.toDatabase
            (policy.paymentOrder address (policy.sweepAmount balanceSats)) now with
        | error error => simp [built, pure, Except.pure] at run
        | ok result =>
            obtain ⟨base, made⟩ := result
            cases made with
            | none => simp [built, throw, throwThe, MonadExceptOf.throw] at run
            | some made =>
                simp only [built, pure, Except.pure, Except.ok.injEq, Prod.mk.injEq] at run
                obtain ⟨-, same⟩ := run
                cases same
                exact ⟨address, base, rfl, built⟩

/-- A round that makes a request is past its checks. -/
theorem pollChecks_of_request {bdk : Bdk Psbt Tx} {ctx : PollContext} {db after : TreasuryDatabase}
    {policy : SweepPolicyRow} {request : PaymentRequestRow} (loads : policy.Loads)
    (run : pollPolicy bdk ctx db policy = .ok (after, some request)) :
    PollChecks ctx.metadata db policy := by
  cases verdict : roundVerdict ctx.metadata db policy with
  | skips =>
      rw [pollPolicy_of_skips bdk verdict] at run
      cases run
  | raises =>
      obtain ⟨error, raised⟩ := pollPolicy_of_raises bdk loads verdict
      rw [raised] at run
      cases run
  | sweeps => exact (roundVerdict_sweeps_iff.mp verdict).1

/-- A round makes a request exactly when it asks for a payment and is given one. -/
theorem pollPolicy_request_iff {bdk : Bdk Psbt Tx} {ctx : PollContext} {db : TreasuryDatabase}
    {policy : SweepPolicyRow} (loads : policy.Loads) {request : PaymentRequestRow} :
    (∃ after, pollPolicy bdk ctx db policy = .ok (after, some request)) ↔
      ∃ order, SweepAsks ctx db policy order ∧ ∃ base,
        buildPaymentRequest bdk ctx.node db.toDatabase order (ctx.clock policy.id) =
          .ok (base, some request) := by
  constructor
  · rintro ⟨after, run⟩
    have checks := pollChecks_of_request loads run
    rw [pollPolicy_of_checks checks] at run
    have crosses := checks.crosses
    obtain ⟨dispatched, address, base, resolved, built⟩ := built_of_triggerSweep loads crosses run
    exact ⟨_, ⟨checks, dispatched, address, resolved, rfl⟩, base, built⟩
  · rintro ⟨order, ⟨checks, dispatched, address, resolved, rfl⟩, base, built⟩
    rw [pollPolicy_of_checks checks]
    exact triggerSweep_of_built loads checks.crosses dispatched resolved built

/-! ### What the builder answers -/

/-- The payment of an order gets to the builder, which finds these coins in the wallet. -/
def Opens (bdk : Bdk Psbt Tx) (library : WalletLibrary) (node : PaymentNode) (db : Database)
    (order : PaymentOrder) (coins : List WalletCoin) (builderOrder : BuilderOrder) : Prop :=
  ∃ psbtOrder, psbtOffered bdk node db order = .ok psbtOrder ∧
    openWallet library psbtOrder = .ok (coins, builderOrder)

/-- The builder funds the payment of an order. -/
def FundedBy (bdk : Bdk Psbt Tx) (library : WalletLibrary) (builder : FundedBuilder)
    (node : PaymentNode) (db : Database) (order : PaymentOrder) (funding : Funding) : Prop :=
  ∃ coins builderOrder, Opens bdk library node db order coins builderOrder ∧
    builder.finish coins builderOrder = .ok funding

/-- The payment of an order is refused for insufficient balance, by the service or by the
    builder. -/
def RefusedForFunds (bdk : Bdk Psbt Tx) (library : WalletLibrary) (builder : FundedBuilder)
    (node : PaymentNode) (db : Database) (order : PaymentOrder) (now : Timestamp) : Prop :=
  (∃ message, buildPaymentRequest (bdk.withWallet library builder.toTxBuilder) node db order now =
      .error ⟨.insufficientBalance, message⟩) ∨
    admitPayment db order = .ok .admitted ∧
      ∃ coins builderOrder text, Opens bdk library node db order coins builderOrder ∧
        builder.finish coins builderOrder = .error (.insufficientFunds text)

section Builds

variable {bdk : Bdk Psbt Tx} {library : WalletLibrary} {builder : FundedBuilder}
  {node : PaymentNode} {db : Database} {order : PaymentOrder} {now : Timestamp}
  {coins : List WalletCoin} {builderOrder : BuilderOrder}

/-- What the builder lacks funds for is refused with its text. -/
theorem buildPaymentRequest_of_lacksFunds {text : String}
    (admitted : admitPayment db order = .ok .admitted)
    (opens : Opens bdk library node db order coins builderOrder)
    (lacks : builder.finish coins builderOrder = .error (.insufficientFunds text)) :
    buildPaymentRequest (bdk.withWallet library builder.toTxBuilder) node db order now =
      .error ⟨.bankingError, "PSBT build failed: " ++ text⟩ := by
  obtain ⟨psbtOrder, offered, opened⟩ := opens
  have unbuilt : (bdk.withWallet library builder.toTxBuilder).buildPsbt psbtOrder =
      .error text := by
    change DescriptorAdapter.buildPsbt library builder.toTxBuilder psbtOrder = .error text
    rw [DescriptorAdapter.buildPsbt, opened]
    simp [bind, Except.bind, FundedBuilder.toTxBuilder, lacks, BuilderError.text]
  rw [buildPaymentRequest, admitted]
  change (composePayment _ _ _ _ _ _ >>= _) = _
  rw [composePayment_eq, psbtOffered_withWallet, offered]
  simp only [bind, Except.bind, unbuilt]

/-- The parts of what the builder is told. -/
theorem openWallet_ok {psbtOrder : PsbtOrder}
    (opened : openWallet library psbtOrder = .ok (coins, builderOrder)) :
    library.scriptPubkey psbtOrder.recipientAddress psbtOrder.network =
        .ok builderOrder.recipientScript ∧
      psbtOrder.amountSats.mapM asU64 = .ok builderOrder.amountSats ∧
      asU64 (Binary64.roundHalfEven psbtOrder.feeRateSatPerVbyte) =
        .ok builderOrder.feeRateSatPerVbyte := by
  rw [openWallet, bind_ok_iff] at opened
  obtain ⟨_, -, opened⟩ := opened
  have rest : ∃ unconfirmed script amount feeRate,
      library.scriptPubkey psbtOrder.recipientAddress psbtOrder.network = .ok script ∧
        psbtOrder.amountSats.mapM asU64 = .ok amount ∧
          asU64 (Binary64.roundHalfEven psbtOrder.feeRateSatPerVbyte) = .ok feeRate ∧
            (coinSet (library.knowsScript (walletKeys psbtOrder)) unconfirmed,
              (⟨script, amount, feeRate⟩ : BuilderOrder)) = (coins, builderOrder) := by
    split at opened
    all_goals simp only [bind_ok_iff] at opened
    · obtain ⟨_, -, unconfirmed, -, script, scripted, amount, asked, feeRate, rounded, built⟩ :=
        opened
      exact ⟨unconfirmed, script, amount, feeRate, scripted, asked, rounded, Except.ok.inj built⟩
    · obtain ⟨_, -, _, -, unconfirmed, -, script, scripted, amount, asked, feeRate, rounded,
        built⟩ := opened
      exact ⟨unconfirmed, script, amount, feeRate, scripted, asked, rounded, Except.ok.inj built⟩
  obtain ⟨_, script, amount, feeRate, scripted, asked, rounded, same⟩ := rest
  cases same
  exact ⟨scripted, asked, rounded⟩

/-- The order of the builder is that of the service. -/
theorem terms_of_opens {descriptor : DescriptorRow}
    (single : DescriptorRepo.listDescriptorsForHolding db order.holdingId = [descriptor])
    (opens : Opens bdk library node db order coins builderOrder) :
    order.terms library node descriptor.network = some builderOrder := by
  obtain ⟨psbtOrder, offered, opened⟩ := opens
  rw [psbtOffered, spendingDescriptor, single] at offered
  simp only [bind_ok_iff] at offered
  obtain ⟨_, same, offered⟩ := offered
  cases same
  split at offered
  · cases offered
  · split at offered
    · cases offered
    · split at offered
      · cases offered
      · simp only [bind_ok_iff] at offered
        obtain ⟨feeRate, rated, parents, _, built⟩ := offered
        cases built
        obtain ⟨scripted, asked, rounded⟩ := openWallet_ok opened
        simp only at scripted asked rounded
        simp [PaymentOrder.terms, rated, scripted, asked, rounded, Except.toOption]

/-- A fee rate that is not resolved is no lack of balance. -/
theorem resolveFeeRate_cls {strategy : Option String} {satPerVbyte : Option ℚ} {error : PyError}
    (raised : resolveFeeRate node strategy satPerVbyte = .error error) :
    error.cls ≠ .insufficientBalance := by
  rw [resolveFeeRate.eq_def] at raised
  repeat' split at raised
  all_goals cases raised
  all_goals simp

/-- A parent that is not fetched is no lack of balance. -/
theorem parentRawHex_cls {row : UtxoRow} {error : PyError}
    (raised : parentRawHex node row = .error error) : error.cls ≠ .insufficientBalance := by
  rw [parentRawHex] at raised
  repeat' split at raised
  all_goals cases raised
  all_goals simp

/-- What a loop raises, one of its rounds raises. -/
theorem exists_of_mapM_error {α β : Type} {f : α → Except PyError β} {items : List α}
    {error : PyError} (raised : items.mapM f = .error error) :
    ∃ item ∈ items, f item = .error error := by
  induction items with
  | nil => cases raised
  | cons item items ih =>
      rw [List.mapM_cons] at raised
      cases first : f item with
      | error found =>
          rw [first] at raised
          cases raised
          exact ⟨item, List.mem_cons_self, first⟩
      | ok result =>
          cases later : items.mapM f with
          | error found =>
              simp only [first, later, bind, Except.bind] at raised
              cases raised
              obtain ⟨culprit, member, run⟩ := ih later
              exact ⟨culprit, List.mem_cons_of_mem item member, run⟩
          | ok results =>
              simp only [first, later, bind, Except.bind] at raised
              cases raised

/-- With spendable coins in one descriptor, the service finds the balance insufficient exactly where
    they sum to less than the amount. -/
theorem psbtOffered_insufficient_iff {descriptor : DescriptorRow}
    (single : DescriptorRepo.listDescriptorsForHolding db order.holdingId = [descriptor])
    (some : gatherSpendableUtxos db descriptor.id ≠ []) :
    (∃ message, psbtOffered bdk node db order = .error ⟨.insufficientBalance, message⟩) ↔
      ∃ amount ∈ order.amountSats, (spendableSats db descriptor.id : Int) < amount := by
  have asked : (order.amountSats.any fun amount =>
      decide ((((gatherSpendableUtxos db descriptor.id).map UtxoRow.valueSats).sum : Nat) <
        (amount : Int))) = true ↔
          ∃ amount ∈ order.amountSats, (spendableSats db descriptor.id : Int) < amount := by
    cases order.amountSats <;> simp [spendableSats]
  rw [← asked, psbtOffered, spendingDescriptor, single]
  simp only [bind, Except.bind, some, if_false]
  split
  · next short =>
    exact iff_of_true ⟨_, rfl⟩ short
  · next enough =>
    apply iff_of_false _ enough
    rintro ⟨message, refused⟩
    split at refused
    · cases refused
    · cases rated : resolveFeeRate node order.feeStrategy order.feeSatPerVbyte with
      | error error =>
          rw [rated] at refused
          cases refused
          exact resolveFeeRate_cls rated rfl
      | ok feeRate =>
          cases fetched : (gatherSpendableUtxos db descriptor.id).mapM (parentRawHex node) with
          | error error =>
              simp only [rated, fetched] at refused
              cases refused
              obtain ⟨row, -, unknown⟩ := exists_of_mapM_error fetched
              exact parentRawHex_cls unknown rfl
          | ok parents =>
              simp only [rated, fetched] at refused
              cases refused

/-- A payment that is not admitted is no lack of balance. -/
theorem admitPayment_cls {error : PyError} (raised : admitPayment db order = .error error) :
    error.cls ≠ .insufficientBalance := by
  rw [admitPayment] at raised
  repeat' split at raised
  all_goals cases raised
  all_goals simp

/-- The service finds the balance insufficient before it gets to the builder. -/
theorem buildPaymentRequest_insufficient_iff :
    (∃ message, buildPaymentRequest (bdk.withWallet library builder.toTxBuilder) node db order now =
        .error ⟨.insufficientBalance, message⟩) ↔
      admitPayment db order = .ok .admitted ∧
        ∃ message, psbtOffered bdk node db order = .error ⟨.insufficientBalance, message⟩ := by
  rw [buildPaymentRequest]
  cases admission : admitPayment db order with
  | error error =>
      apply iff_of_false
      · rintro ⟨message, refused⟩
        cases refused
        exact admitPayment_cls admission rfl
      · simp
  | ok answer =>
      cases answer with
      | requiresConfirmation message =>
          apply iff_of_false
          · rintro ⟨_, refused⟩
            cases refused
          · simp
      | admitted =>
          simp only [true_and]
          change (∃ message, (composePayment _ _ _ _ _ _ >>= _) = _) ↔ _
          rw [composePayment_eq, psbtOffered_withWallet]
          cases offered : psbtOffered bdk node db order with
          | error error => simp [bind, Except.bind]
          | ok psbtOrder =>
              apply iff_of_false
              · rintro ⟨message, refused⟩
                simp only [bind, Except.bind] at refused
                split at refused
                · rename_i composed
                  split at composed
                  · cases composed
                    cases refused
                  · rw [PaymentRequestRow.postInit] at composed
                    split at composed
                    · cases composed
                      cases refused
                    · cases composed
                · cases refused
              · simp

/-- Where one descriptor has spendable coins, a payment is refused for insufficient balance exactly
    when it is admitted and they sum to less than its amount, or the builder accepts it and no coins
    of the wallet cover it. -/
theorem refusedForFunds_iff (lawful : builder.Lawful) {descriptor : DescriptorRow}
    (single : DescriptorRepo.listDescriptorsForHolding db order.holdingId = [descriptor])
    (some : gatherSpendableUtxos db descriptor.id ≠ []) :
    RefusedForFunds bdk library builder node db order now ↔
      admitPayment db order = .ok .admitted ∧
        ((∃ amount ∈ order.amountSats, (spendableSats db descriptor.id : Int) < amount) ∨
          ∃ coins builderOrder, Opens bdk library node db order coins builderOrder ∧
            builder.accepts builderOrder = true ∧ ∀ selected, selected.Subperm coins →
              ¬builderOrder.CoveredBy selected (builder.neededFee selected builderOrder)) := by
  rw [RefusedForFunds, buildPaymentRequest_insufficient_iff,
    psbtOffered_insufficient_iff single some, ← and_or_left]
  apply and_congr_right
  intro _
  apply or_congr_right
  constructor
  · rintro ⟨coins, builderOrder, text, opens, lacks⟩
    exact ⟨coins, builderOrder, opens, (lawful coins builderOrder).mp ⟨text, lacks⟩⟩
  · rintro ⟨coins, builderOrder, opens, short⟩
    obtain ⟨text, lacks⟩ := (lawful coins builderOrder).mpr short
    exact ⟨coins, builderOrder, text, opens, lacks⟩

/-- A payment whose amount is positive is made exactly when it is admitted and funded. -/
theorem buildPaymentRequest_funded_iff (now : Timestamp)
    (positive : ∀ amount ∈ order.amountSats, 0 < amount) :
    (∃ base request, buildPaymentRequest (bdk.withWallet library builder.toTxBuilder) node db order
        now = .ok (base, Option.some request)) ↔
      admitPayment db order = .ok .admitted ∧
        ∃ funding, FundedBy bdk library builder node db order funding := by
  simp only [buildPaymentRequest_withWallet_iff]
  constructor
  · rintro ⟨base, request, admitted, ⟨psbtOrder, coins, builderOrder, selected, offered, opened,
      selection, -⟩, -, -⟩
    refine ⟨admitted, ?_⟩
    rw [FundedBuilder.toTxBuilder] at selection
    cases answer : builder.finish coins builderOrder with
    | error error =>
        rw [answer] at selection
        cases selection
    | ok funding =>
        exact ⟨funding, coins, builderOrder, ⟨psbtOrder, offered, opened⟩, answer⟩
  · rintro ⟨admitted, funding, coins, builderOrder, ⟨psbtOrder, offered, opened⟩, answer⟩
    refine ⟨_, _, admitted, ⟨psbtOrder, coins, builderOrder, funding.selected, offered, opened, ?_,
      rfl⟩, positive, rfl⟩
    rw [FundedBuilder.toTxBuilder, answer]

/-- A payment gets to the builder with one wallet and one order. -/
theorem Opens.unique {coins' : List WalletCoin} {builderOrder' : BuilderOrder}
    (opens : Opens bdk library node db order coins builderOrder)
    (opens' : Opens bdk library node db order coins' builderOrder') :
    coins' = coins ∧ builderOrder' = builderOrder := by
  obtain ⟨psbtOrder, offered, opened⟩ := opens
  obtain ⟨psbtOrder', offered', opened'⟩ := opens'
  rw [offered] at offered'
  cases offered'
  rw [opened] at opened'
  cases opened'
  exact ⟨rfl, rfl⟩

end Builds

/-! ### Feasible rounds -/

section Feasibility

/-- The sweep of a round from a holding with one descriptor is feasible and respects the floor: a
    payment that is made is covered by spendable coins and leaves the floor, and none is refused for
    insufficient balance where the spendable coins exceed the floor and the fee to spend them. -/
structure SweepFeasible (bdk : Bdk Psbt Tx) (library : WalletLibrary) (builder : FundedBuilder)
    (ctx : PollContext) (db : TreasuryDatabase) (policy : SweepPolicyRow)
    (descriptor : DescriptorRow) : Prop where
  made : ∀ after request amount order funding,
    pollPolicy (bdk.withWallet library builder.toTxBuilder) ctx db policy =
      .ok (after, some request) →
    request.amountSats = some amount → SweepAsks ctx db policy order →
    FundedBy bdk library builder ctx.node db.toDatabase order funding →
      amount + funding.feeSats ≤ spendableSats db.toDatabase descriptor.id ∧
        policy.minimumBalanceSats ≤
          polledBalance db policy.sourceHoldingId - amount - funding.feeSats
  sought : ∀ order builderOrder, SweepAsks ctx db policy order →
    order.terms library ctx.node descriptor.network = some builderOrder →
    0 < (spendableSats db.toDatabase descriptor.id : Int) -
      builder.neededFee (spendableCoins db.toDatabase descriptor.id) builderOrder -
        policy.minimumBalanceSats →
    ¬RefusedForFunds bdk library builder ctx.node db.toDatabase order (ctx.clock policy.id)

/-- The policy takes all above the floor and that is within a limit which so much is missing from,
    or its cap is. -/
def SweepPolicyRow.Within (policy : SweepPolicyRow) (missing limit : Int) : Prop :=
  missing ≤ policy.minimumBalanceSats ∨
    ∃ cap, policy.maximumPerPeriodSats = some cap ∧ cap ≤ limit

/-- The terms of the policy leave room for the fee and for the coins that may not be spent. -/
structure SweepRoom (bdk : Bdk Psbt Tx) (library : WalletLibrary) (builder : FundedBuilder)
    (ctx : PollContext) (db : TreasuryDatabase) (policy : SweepPolicyRow)
    (descriptor : DescriptorRow) : Prop where
  funded : ∀ order funding, SweepAsks ctx db policy order →
    admitPayment db.toDatabase order = .ok .admitted →
    FundedBy bdk library builder ctx.node db.toDatabase order funding →
      (funding.feeSats = 0 ∨ ∃ cap, policy.maximumPerPeriodSats = some cap ∧
        cap + funding.feeSats ≤
          polledBalance db policy.sourceHoldingId - policy.minimumBalanceSats) ∧
      policy.Within (withheldSats db.toDatabase descriptor.id + funding.feeSats)
        (spendableSats db.toDatabase descriptor.id - funding.feeSats)
  sought : ∀ order builderOrder, SweepAsks ctx db policy order →
    admitPayment db.toDatabase order = .ok .admitted →
    order.terms library ctx.node descriptor.network = some builderOrder →
    policy.minimumBalanceSats +
      builder.neededFee (spendableCoins db.toDatabase descriptor.id) builderOrder <
        (spendableSats db.toDatabase descriptor.id : Int) →
      policy.Within (withheldSats db.toDatabase descriptor.id)
          (spendableSats db.toDatabase descriptor.id) ∧
        ∀ coins, Opens bdk library ctx.node db.toDatabase order coins builderOrder →
          builder.accepts builderOrder = true →
          ∃ selected : List WalletCoin, selected.Subperm coins ∧
            policy.Within
              (polledBalance db policy.sourceHoldingId +
                builder.neededFee selected builderOrder -
                  (selected.map WalletCoin.valueSats).sum)
              ((selected.map WalletCoin.valueSats).sum - builder.neededFee selected builderOrder)

variable {bdk : Bdk Psbt Tx} {library : WalletLibrary} {builder : FundedBuilder}
  {ctx : PollContext} {db : TreasuryDatabase} {policy : SweepPolicyRow}
  {descriptor : DescriptorRow} {order : PaymentOrder}

/-- What is within a limit with a fee. -/
theorem SweepPolicyRow.within_iff (policy : SweepPolicyRow) (balanceSats feeSats : Int)
    {limit missing below : Int} (same : missing = balanceSats + feeSats - limit)
    (less : below = limit - feeSats) :
    policy.sweepAmount balanceSats + feeSats ≤ limit ↔ policy.Within missing below := by
  rw [sweepAmount_add_le_iff, Within, same, less]
  apply or_congr
  · constructor <;> intro fits <;> omega
  · simp only [le_sub_iff_add_le]

/-- The floor is left exactly when no fee is paid, or the cap leaves room for it. -/
theorem SweepPolicyRow.leaves_floor_iff (policy : SweepPolicyRow) (balanceSats : Int)
    (feeSats : Nat) :
    policy.minimumBalanceSats ≤ balanceSats - policy.sweepAmount balanceSats - feeSats ↔
      feeSats = 0 ∨ ∃ cap, policy.maximumPerPeriodSats = some cap ∧
        cap + feeSats ≤ balanceSats - policy.minimumBalanceSats := by
  have fits := policy.sweepAmount_add_le_iff balanceSats feeSats
    (balanceSats - policy.minimumBalanceSats)
  constructor
  · intro left
    rcases fits.mp (by omega) with free | capped
    · exact .inl (by omega)
    · exact .inr capped
  · rintro (free | capped)
    · have := fits.mpr (.inl (by omega))
      omega
    · have := fits.mpr (.inr capped)
      omega

/-- A round asks for one payment. -/
theorem SweepAsks.unique {order' : PaymentOrder} (asks : SweepAsks ctx db policy order)
    (asks' : SweepAsks ctx db policy order') : order = order' := by
  obtain ⟨address, resolved, rfl⟩ := asks.resolved
  obtain ⟨address', resolved', rfl⟩ := asks'.resolved
  rw [resolved] at resolved'
  cases resolved'
  rfl

/-- The amount a round asks for is positive. -/
theorem SweepAsks.forall_pos (asks : SweepAsks ctx db policy order) :
    ∀ amount ∈ order.amountSats, 0 < amount := by
  intro amount asked
  rw [asks.amountSats] at asked
  cases asked
  exact asks.positive

/-- The request a round makes is for what the policy takes, and its payment was admitted. -/
theorem admitted_of_request (loads : policy.Loads) {after : TreasuryDatabase}
    {request : PaymentRequestRow}
    (run : pollPolicy (bdk.withWallet library builder.toTxBuilder) ctx db policy =
      .ok (after, some request)) (asks : SweepAsks ctx db policy order) :
    admitPayment db.toDatabase order = .ok .admitted ∧
      request.amountSats =
        some (policy.sweepAmount (polledBalance db policy.sourceHoldingId)) := by
  obtain ⟨order', asks', base, built⟩ := (pollPolicy_request_iff loads).mp ⟨after, run⟩
  obtain rfl := asks.unique asks'
  obtain ⟨admitted, ⟨_, _, _, _, -, -, -, rfl⟩, -, -⟩ :=
    (buildPaymentRequest_withWallet_iff builder.toTxBuilder (ctx.clock policy.id)).mp built
  exact ⟨admitted, asks.amountSats⟩

/-- A round whose payment is admitted and funded makes a request. -/
theorem request_of_funded (loads : policy.Loads) (asks : SweepAsks ctx db policy order)
    (admitted : admitPayment db.toDatabase order = .ok .admitted) {funding : Funding}
    (funded : FundedBy bdk library builder ctx.node db.toDatabase order funding) :
    ∃ after request,
      pollPolicy (bdk.withWallet library builder.toTxBuilder) ctx db policy =
        .ok (after, some request) := by
  obtain ⟨base, request, built⟩ := (buildPaymentRequest_funded_iff (ctx.clock policy.id)
    asks.forall_pos).mpr ⟨admitted, funding, funded⟩
  obtain ⟨after, run⟩ := (pollPolicy_request_iff loads).mpr ⟨order, asks, base, built⟩
  exact ⟨after, request, run⟩

/-- The amount of a builder's order is the one of the payment, as an unsigned integer. -/
theorem terms_amount {node : PaymentNode} {network : Network} {builderOrder : BuilderOrder}
    (terms : order.terms library node network = some builderOrder) :
    order.amountSats.mapM asU64 = .ok builderOrder.amountSats := by
  rw [PaymentOrder.terms] at terms
  simp only [bind, Option.bind_eq_some_iff, pure, Option.some.injEq] at terms
  obtain ⟨_, -, _, -, amount, asked, _, -, rfl⟩ := terms
  cases read : order.amountSats.mapM asU64 with
  | error text => simp [read, Except.toOption] at asked
  | ok amount' =>
      rw [read] at asked
      cases asked
      rfl

/-- What is taken from a wallet is covered by its coins exactly when it is within them. -/
theorem coveredBy_iff {coins : List WalletCoin} {builderOrder : BuilderOrder} {feeSats : Nat}
    (asks : SweepAsks ctx db policy order) {network : Network}
    (terms : order.terms library ctx.node network = some builderOrder) :
    builderOrder.CoveredBy coins feeSats ↔
      policy.Within (polledBalance db policy.sourceHoldingId + feeSats -
          (coins.map WalletCoin.valueSats).sum)
        ((coins.map WalletCoin.valueSats).sum - feeSats) := by
  have positive := asks.positive
  have amount : builderOrder.amountSats =
      some (policy.sweepAmount (polledBalance db policy.sourceHoldingId)).toNat := by
    have read := terms_amount terms
    rw [asks.amountSats, Option.mapM_some, asU64] at read
    split at read
    · exact (Except.ok.inj read).symm
    · cases read
  rw [← policy.within_iff _ _ rfl rfl, BuilderOrder.CoveredBy, amount, Option.getD_some]
  constructor <;> intro covered <;> omega

/-- The sweep of a round is feasible and respects the floor exactly when the terms of its policy
    leave room. -/
theorem sweepFeasible_iff (lawful : builder.Lawful) (loads : policy.Loads)
    (single : DescriptorRepo.listDescriptorsForHolding db.toDatabase policy.sourceHoldingId =
      [descriptor]) :
    SweepFeasible bdk library builder ctx db policy descriptor ↔
      SweepRoom bdk library builder ctx db policy descriptor := by
  have balance := polledBalance_eq single
  have floor := (SweepPolicyRow.loads_iff.mp loads).2.1
  have taken : policy.sweepAmount (polledBalance db policy.sourceHoldingId) ≤
        spendableSats db.toDatabase descriptor.id ↔
      policy.Within (withheldSats db.toDatabase descriptor.id)
        (spendableSats db.toDatabase descriptor.id) := by
    rw [← policy.within_iff (polledBalance db policy.sourceHoldingId) 0 (by rw [balance]; omega)
      (sub_zero _).symm, add_zero]
  have refused : ∀ {order : PaymentOrder}, SweepAsks ctx db policy order →
      0 < (spendableSats db.toDatabase descriptor.id : Int) →
      (RefusedForFunds bdk library builder ctx.node db.toDatabase order (ctx.clock policy.id) ↔
        _) := fun asks rich =>
    refusedForFunds_iff lawful (asks.holdingId ▸ single) (by
      intro empty
      simp [spendableSats, empty] at rich)
  constructor
  · intro feasible
    refine ⟨?_, ?_⟩
    · intro order funding asks admitted funded
      obtain ⟨after, request, run⟩ := request_of_funded loads asks admitted funded
      obtain ⟨-, amount⟩ := admitted_of_request loads run asks
      obtain ⟨covered, floor⟩ := feasible.made after request _ order funding run amount asks funded
      refine ⟨(policy.leaves_floor_iff _ _).mp floor, (policy.within_iff _ _ ?_ rfl).mp covered⟩
      rw [balance]
      omega
    · intro order builderOrder asks admitted terms rich
      have allowed := feasible.sought order builderOrder asks terms (by omega)
      rw [refused asks (by omega), not_and] at allowed
      have neither := not_or.mp (allowed admitted)
      refine ⟨?_, ?_⟩
      · exact taken.mp (not_lt.mp fun short => neither.1 ⟨_, asks.amountSats, short⟩)
      · intro coins opens accepted
        by_contra none
        refine neither.2 ⟨coins, builderOrder, opens, accepted, ?_⟩
        intro selected chosen covered
        exact none ⟨selected, chosen, (coveredBy_iff asks terms).mp covered⟩
  · intro room
    refine ⟨?_, ?_⟩
    · intro after request amount order funding run asked asks funded
      obtain ⟨admitted, amount'⟩ := admitted_of_request loads run asks
      rw [amount'] at asked
      cases asked
      obtain ⟨floor, within⟩ := room.funded order funding asks admitted funded
      refine ⟨(policy.within_iff _ _ ?_ rfl).mpr within, (policy.leaves_floor_iff _ _).mpr floor⟩
      rw [balance]
      omega
    · intro order builderOrder asks terms rich
      rw [refused asks (by omega)]
      rintro ⟨admitted, short⟩
      obtain ⟨within, enough⟩ := room.sought order builderOrder asks admitted terms (by omega)
      rcases short with ⟨amount, asked, short⟩ | ⟨coins, builderOrder', opens, accepted, uncovered⟩
      · rw [asks.amountSats] at asked
        cases asked
        exact absurd (taken.mpr within) (not_le.mpr short)
      · have same := terms_of_opens (asks.holdingId ▸ single) opens
        rw [terms] at same
        cases same
        obtain ⟨selected, chosen, within⟩ := enough coins opens accepted
        exact uncovered selected chosen ((coveredBy_iff asks terms).mpr within)

end Feasibility

/-! ### Polls -/

/-- The rounds that begin in a loop over policies, each with the database it begins from. -/
def roundsBegun (bdk : Bdk Psbt Tx) (ctx : PollContext) (db : TreasuryDatabase) :
    List SweepPolicyRow → List (TreasuryDatabase × SweepPolicyRow)
  | [] => []
  | policy :: policies =>
      if policy.triggerType ≠ .threshold then roundsBegun bdk ctx db policies
      else
        (db, policy) ::
          match pollPolicy bdk ctx db policy with
          | .error _ => []
          | .ok (after, none) => roundsBegun bdk ctx after policies
          | .ok (after, some request) =>
              match ctx.publish request.id with
              | .error _ => []
              | .ok _ => roundsBegun bdk ctx after policies

/-- The rounds that begin in a poll. -/
def pollBegins (bdk : Bdk Psbt Tx) (ctx : PollContext) (db : TreasuryDatabase) :
    List (TreasuryDatabase × SweepPolicyRow) :=
  match SweepPolicyRepo.listPolicies ctx.listing db none (some true) with
  | .error _ => []
  | .ok policies => roundsBegun bdk ctx db policies

/-- The requests of rounds, as a poll tells of them. -/
def requestsMade (bdk : Bdk Psbt Tx) (ctx : PollContext)
    (rounds : List (TreasuryDatabase × SweepPolicyRow)) : List SweepEffect :=
  rounds.filterMap fun round =>
    match pollPolicy bdk ctx round.1 round.2 with
    | .ok (_, some request) => some (.paymentRequest round.2.id request.id)
    | _ => none

/-- The rounds of a loop are those it evaluates, and make all its requests. -/
theorem roundsBegun_complete (bdk : Bdk Psbt Tx) (ctx : PollContext)
    (policies : List SweepPolicyRow) (db : TreasuryDatabase) :
    (pollRounds bdk ctx db policies).evaluated =
        (roundsBegun bdk ctx db policies).map (fun round => round.2.id) ∧
      (pollRounds bdk ctx db policies).effects =
        requestsMade bdk ctx (roundsBegun bdk ctx db policies) := by
  induction policies generalizing db with
  | nil => exact ⟨rfl, rfl⟩
  | cons policy policies ih =>
      rw [pollRounds, roundsBegun]
      by_cases other : policy.triggerType ≠ .threshold
      · rw [if_pos other, if_pos other]
        exact ih db
      · rw [if_neg other, if_neg other, requestsMade, List.map_cons, List.filterMap_cons]
        cases run : pollPolicy bdk ctx db policy with
        | error error => simp
        | ok result =>
            obtain ⟨after, made⟩ := result
            obtain ⟨evaluated, effects⟩ := ih after
            rw [requestsMade] at effects
            cases made with
            | none => simp only [evaluated, effects, and_self]
            | some request =>
                cases told : ctx.publish request.id with
                | error error => simp [told]
                | ok _ => simp [told, evaluated, effects]

/-- A poll begins a round for each policy that is listed. -/
theorem pollBegins_of_lists (bdk : Bdk Psbt Tx) (ctx : PollContext) {db : TreasuryDatabase}
    {policies : List SweepPolicyRow}
    (listed : SweepPolicyRepo.listPolicies ctx.listing db none (some true) = .ok policies) :
    pollBegins bdk ctx db = roundsBegun bdk ctx db policies := by
  rw [pollBegins, listed]

/-- A poll evaluates the policies of its rounds, and makes their requests. -/
theorem pollBegins_complete (bdk : Bdk Psbt Tx) (ctx : PollContext) (db : TreasuryDatabase) :
    (pollOnce bdk ctx db).evaluated = (pollBegins bdk ctx db).map (fun round => round.2.id) ∧
      (pollOnce bdk ctx db).effects = requestsMade bdk ctx (pollBegins bdk ctx db) := by
  rw [pollOnce, pollBegins]
  cases SweepPolicyRepo.listPolicies ctx.listing db none (some true) with
  | error error => exact ⟨rfl, rfl⟩
  | ok policies => exact roundsBegun_complete bdk ctx policies db

/-- The policy of a round is one of those that are listed. -/
theorem mem_of_mem_roundsBegun {bdk : Bdk Psbt Tx} {ctx : PollContext}
    {policies : List SweepPolicyRow} {db : TreasuryDatabase}
    {round : TreasuryDatabase × SweepPolicyRow} (begun : round ∈ roundsBegun bdk ctx db policies) :
    round.2 ∈ policies := by
  induction policies generalizing db with
  | nil => cases begun
  | cons policy policies ih =>
      rw [roundsBegun] at begun
      split at begun
      · exact List.mem_cons_of_mem policy (ih begun)
      · rcases List.mem_cons.mp begun with rfl | later
        · exact List.mem_cons_self
        · apply List.mem_cons_of_mem policy
          split at later
          · cases later
          · exact ih later
          · split at later
            · cases later
            · exact ih later

/-- A policy that a poll works through loads. -/
theorem loads_of_pollBegins {bdk : Bdk Psbt Tx} {ctx : PollContext} {db : TreasuryDatabase}
    {round : TreasuryDatabase × SweepPolicyRow} (begun : round ∈ pollBegins bdk ctx db) :
    round.2.Loads := by
  rw [pollBegins] at begun
  cases listed : SweepPolicyRepo.listPolicies ctx.listing db none (some true) with
  | error error =>
      rw [listed] at begun
      cases begun
  | ok policies =>
      rw [listed] at begun
      obtain ⟨rfl, loads⟩ := listPolicies_ok_iff.mp listed
      exact loads _ (ctx.listing.mem_arrange.mp (mem_of_mem_roundsBegun begun))

/-- In a poll every sweep from a holding with one descriptor is feasible and respects the floor of
    its policy exactly when for each of them the terms of the policy leave room for the fee and for
    the coins that may not be spent. -/
theorem sweepsFeasible_iff (bdk : Bdk Psbt Tx) (library : WalletLibrary) {builder : FundedBuilder}
    (lawful : builder.Lawful) (ctx : PollContext) (db : TreasuryDatabase) :
    (∀ round ∈ pollBegins (bdk.withWallet library builder.toTxBuilder) ctx db,
        ∀ descriptor, DescriptorRepo.listDescriptorsForHolding round.1.toDatabase
          round.2.sourceHoldingId = [descriptor] →
        SweepFeasible bdk library builder ctx round.1 round.2 descriptor) ↔
      ∀ round ∈ pollBegins (bdk.withWallet library builder.toTxBuilder) ctx db,
        ∀ descriptor, DescriptorRepo.listDescriptorsForHolding round.1.toDatabase
          round.2.sourceHoldingId = [descriptor] →
        SweepRoom bdk library builder ctx round.1 round.2 descriptor := by
  apply forall₂_congr
  intro round begun
  apply forall₂_congr
  intro descriptor single
  exact sweepFeasible_iff lawful (loads_of_pollBegins begun) single

/-! ### A floor of 20000 -/

/-- A builder that spends all coins, at a fee of 200. -/
def spendAll : FundedBuilder where
  accepts _ := true
  neededFee _ _ := 200
  finish coins order :=
    if order.amountSats.getD 0 + 200 ≤ (coins.map WalletCoin.valueSats).sum then .ok ⟨coins, 200⟩
    else .error (.insufficientFunds "InsufficientFunds")

/-- The sample builder is a lawful one. -/
theorem spendAll_lawful : spendAll.Lawful := by
  intro coins order
  constructor
  · rintro ⟨text, lacks⟩
    simp only [spendAll] at lacks
    split at lacks
    · cases lacks
    · next short =>
      refine ⟨rfl, fun selected sub covered => short ?_⟩
      obtain ⟨chosen, perm, sublist⟩ := sub
      rw [BuilderOrder.CoveredBy, ← (perm.map WalletCoin.valueSats).sum_eq] at covered
      exact covered.trans
        ((sublist.map WalletCoin.valueSats).sum_le_sum fun _ _ => Nat.zero_le _)
  · rintro ⟨-, short⟩
    exact ⟨_, if_neg (short coins (List.Subperm.refl coins))⟩

/-- The wallet library that finds the one output of the sample payment. -/
def sampleOneCoinLibrary : WalletLibrary :=
  { sampleWalletLibrary with
    parseTransaction := fun _ => .ok ⟨samplePayment.txid, [], [⟨100000, "ours"⟩]⟩ }

/-- The first sample holding has received the sample payment, and a policy with a floor sweeps it
    above 50000. -/
def sampleFloored (maximum : Option Int) : TreasuryDatabase :=
  [.createSweepPolicy sampleMetadata
      { samplePolicyOrder 10 false with
        minimumBalanceSats := 20000, maximumPerPeriodSats := maximum },
    .acknowledgeWarnings 1, .enableSweepPolicy 1,
    .elsewhere (.handleTx samplePayment (sampleCall (some 100)))].foldl
      (treasuryStep sampleBdk) sampleTreasury

/-- The policy, once it is enabled. -/
def sampleFlooredPolicy (maximum : Option Int) : SweepPolicyRow :=
  (sampleFloored maximum).sweepPolicies.rows.headD (samplePolicy 10 false)

/-- One threshold policy makes one round. -/
theorem roundsBegun_singleton (bdk : Bdk Psbt Tx) (ctx : PollContext) (db : TreasuryDatabase)
    {policy : SweepPolicyRow} (checked : policy.triggerType = .threshold) :
    roundsBegun bdk ctx db [policy] = [(db, policy)] := by
  rw [roundsBegun, if_neg (not_not.mpr checked)]
  congr 1
  split
  · rfl
  · rfl
  · split <;> rfl

deriving instance DecidableEq for PsbtOrder

/-- The coin of the sample payment. -/
def sampleWalletCoin : WalletCoin := ⟨⟨samplePayment.txid, 0⟩, 100000⟩

/-- What the policy takes from the balance of the first sample holding. -/
def sampleFlooredAmount (maximum : Option Int) : Int :=
  (sampleFlooredPolicy maximum).sweepAmount 100000

/-- What the library is asked for. -/
def sampleFlooredPsbt (maximum : Option Int) : PsbtOrder :=
  ⟨"wpkh(a/0/*)", some "wpkh(a/1/*)", .regtest, [⟨samplePayment.txid, 0, 100000, "00"⟩], "bcrt1qb",
    some (sampleFlooredAmount maximum), 10, 0, 0⟩

section Floored

variable {maximum : Option Int} (listed : maximum = none ∨ maximum = some 40000)

include listed

/-- What the two samples evaluate to. -/
theorem sampleFloored_facts :
    SweepPolicyRepo.listPolicies .inOrder (sampleFloored maximum) none (some true) =
        .ok [sampleFlooredPolicy maximum] ∧
      (sampleFlooredPolicy maximum).triggerType = .threshold ∧
      polledBalance (sampleFloored maximum) 10 = 100000 ∧
      ((sampleFlooredPolicy maximum).sourceHoldingId = 10 ∧
        (sampleFlooredPolicy maximum).minimumBalanceSats = 20000 ∧
          (sampleFlooredPolicy maximum).maximumPerPeriodSats = maximum) ∧
      roundVerdict sampleMetadata (sampleFloored maximum) (sampleFlooredPolicy maximum) = .sweeps ∧
      admitPayment (sampleFloored maximum).toDatabase
        ((sampleFlooredPolicy maximum).paymentOrder "bcrt1qb" (sampleFlooredAmount maximum)) =
          .ok .admitted ∧
      spendAll.finish [sampleWalletCoin]
        ⟨"theirs", some (sampleFlooredAmount maximum).toNat, 10⟩ =
          .ok ⟨[sampleWalletCoin], 200⟩ ∧
      ((DescriptorRepo.listDescriptorsForHolding (sampleFloored maximum).toDatabase 10).map
        DescriptorRow.id = [1] ∧ withheldSats (sampleFloored maximum).toDatabase 1 = 0) ∧
      ((sampleFlooredPolicy maximum).isDryRun = false ∧
        sweepAddress (sampleFloored maximum) (sampleFlooredPolicy maximum).destinationHoldingId =
          .ok "bcrt1qb") ∧
      psbtOffered sampleBdk samplePaymentNode (sampleFloored maximum).toDatabase
        ((sampleFlooredPolicy maximum).paymentOrder "bcrt1qb" (sampleFlooredAmount maximum)) =
          .ok (sampleFlooredPsbt maximum) ∧
      openWallet sampleOneCoinLibrary (sampleFlooredPsbt maximum) =
        .ok ([sampleWalletCoin], ⟨"theirs", some (sampleFlooredAmount maximum).toNat, 10⟩) := by
  rcases listed with rfl | rfl <;> decide +kernel

theorem sampleFloored_begins :
    pollBegins (sampleBdk.withWallet sampleOneCoinLibrary spendAll.toTxBuilder) samplePoll
      (sampleFloored maximum) = [(sampleFloored maximum, sampleFlooredPolicy maximum)] := by
  obtain ⟨listing, checked, -⟩ := sampleFloored_facts listed
  rw [pollBegins_of_lists _ samplePoll listing]
  exact roundsBegun_singleton _ _ _ checked

theorem sampleFloored_balance : polledBalance (sampleFloored maximum) 10 = 100000 :=
  (sampleFloored_facts listed).2.2.1

theorem sampleFloored_terms :
    (sampleFlooredPolicy maximum).sourceHoldingId = 10 ∧
      (sampleFlooredPolicy maximum).minimumBalanceSats = 20000 ∧
        (sampleFlooredPolicy maximum).maximumPerPeriodSats = maximum :=
  (sampleFloored_facts listed).2.2.2.1

theorem sampleFloored_asks :
    SweepAsks samplePoll (sampleFloored maximum) (sampleFlooredPolicy maximum)
      ((sampleFlooredPolicy maximum).paymentOrder "bcrt1qb" (sampleFlooredAmount maximum)) where
  checks := by
    obtain ⟨-, -, -, -, verdict, -⟩ := sampleFloored_facts listed
    exact (roundVerdict_sweeps_iff.mp verdict).1
  dispatched := by
    obtain ⟨-, -, -, -, -, -, -, -, dispatched, -⟩ := sampleFloored_facts listed
    exact dispatched.1
  resolved := by
    refine ⟨"bcrt1qb", ?_, ?_⟩
    · obtain ⟨-, -, -, -, -, -, -, -, resolved, -⟩ := sampleFloored_facts listed
      exact resolved.2
    · rw [(sampleFloored_terms listed).1, sampleFloored_balance listed]
      rfl

theorem sampleFloored_admitted :
    admitPayment (sampleFloored maximum).toDatabase
      ((sampleFlooredPolicy maximum).paymentOrder "bcrt1qb" (sampleFlooredAmount maximum)) =
        .ok .admitted := by
  obtain ⟨-, -, -, -, -, admitted, -⟩ := sampleFloored_facts listed
  exact admitted

/-- The wallet of the sample opens with its one coin. -/
theorem sampleFloored_opens :
    Opens sampleBdk sampleOneCoinLibrary samplePaymentNode (sampleFloored maximum).toDatabase
      ((sampleFlooredPolicy maximum).paymentOrder "bcrt1qb" (sampleFlooredAmount maximum))
      [sampleWalletCoin] ⟨"theirs", some (sampleFlooredAmount maximum).toNat, 10⟩ := by
  obtain ⟨-, -, -, -, -, -, -, -, -, offered, opens⟩ := sampleFloored_facts listed
  exact ⟨_, offered, opens⟩

/-- The sample builder funds the sweep with that coin. -/
theorem sampleFloored_funding :
    spendAll.finish [sampleWalletCoin]
      ⟨"theirs", some (sampleFlooredAmount maximum).toNat, 10⟩ =
        .ok ⟨[sampleWalletCoin], 200⟩ := by
  obtain ⟨-, -, -, -, -, -, finished, -⟩ := sampleFloored_facts listed
  exact finished

theorem sampleFloored_descriptors :
    (DescriptorRepo.listDescriptorsForHolding (sampleFloored maximum).toDatabase 10).map
      DescriptorRow.id = [1] ∧ withheldSats (sampleFloored maximum).toDatabase 1 = 0 := by
  obtain ⟨-, -, -, -, -, -, -, descriptors, -⟩ := sampleFloored_facts listed
  exact descriptors

end Floored

/-- A cap far below what the floor leaves: the sweep of a poll is feasible and leaves the floor. -/
theorem sweepsFeasible_iff_capped :
    (sampleFloored (some 40000), sampleFlooredPolicy (some 40000)) ∈
        pollBegins (sampleBdk.withWallet sampleOneCoinLibrary spendAll.toTxBuilder) samplePoll
          (sampleFloored (some 40000)) ∧
      ∀ round ∈ pollBegins (sampleBdk.withWallet sampleOneCoinLibrary spendAll.toTxBuilder)
          samplePoll (sampleFloored (some 40000)),
        ∀ descriptor, DescriptorRepo.listDescriptorsForHolding round.1.toDatabase
          round.2.sourceHoldingId = [descriptor] →
        SweepFeasible sampleBdk sampleOneCoinLibrary spendAll samplePoll round.1 round.2
          descriptor := by
  refine ⟨?_, ?_⟩
  · rw [sampleFloored_begins (.inr rfl)]
    exact List.mem_singleton_self _
  apply (sweepsFeasible_iff sampleBdk sampleOneCoinLibrary spendAll_lawful samplePoll
    (sampleFloored (some 40000))).mpr
  have listed : some (40000 : Int) = none ∨ some (40000 : Int) = some 40000 := .inr rfl
  obtain ⟨source, floor, cap⟩ := sampleFloored_terms listed
  have balance := sampleFloored_balance listed
  obtain ⟨ids, withheld⟩ := sampleFloored_descriptors listed
  intro round begun descriptor single
  rw [sampleFloored_begins listed, List.mem_singleton] at begun
  cases begun
  simp only [source] at single
  rw [single, List.map_singleton, List.singleton_inj] at ids
  have asks := sampleFloored_asks listed
  constructor
  · intro order funding asked _ funded
    obtain rfl := asks.unique asked
    obtain ⟨coins, builderOrder, opens, answer⟩ := funded
    obtain ⟨rfl, rfl⟩ := (sampleFloored_opens listed).unique opens
    rw [sampleFloored_funding listed] at answer
    cases answer
    refine ⟨.inr ⟨40000, cap, ?_⟩, .inl ?_⟩
    · rw [source, balance, floor]
      decide
    · rw [ids, withheld, floor]
      decide
  · intro order builderOrder asked _ _ _
    obtain rfl := asks.unique asked
    refine ⟨.inl ?_, ?_⟩
    · rw [ids, withheld, floor]
      decide
    · intro coins opens _
      obtain ⟨rfl, rfl⟩ := (sampleFloored_opens listed).unique opens
      refine ⟨[sampleWalletCoin], List.Subperm.refl _, .inl ?_⟩
      rw [source, balance, floor]
      decide

/-- Without a cap the sweep takes all above the floor, and the fee comes off the floor. -/
theorem not_sweepsFeasible_of_uncapped :
    ¬∀ round ∈ pollBegins (sampleBdk.withWallet sampleOneCoinLibrary spendAll.toTxBuilder)
        samplePoll (sampleFloored none),
      ∀ descriptor, DescriptorRepo.listDescriptorsForHolding round.1.toDatabase
        round.2.sourceHoldingId = [descriptor] →
      SweepFeasible sampleBdk sampleOneCoinLibrary spendAll samplePoll round.1 round.2
        descriptor := by
  intro feasible
  have listed : (none : Option Int) = none ∨ (none : Option Int) = some 40000 := .inl rfl
  have begun : (sampleFloored none, sampleFlooredPolicy none) ∈
      pollBegins (sampleBdk.withWallet sampleOneCoinLibrary spendAll.toTxBuilder) samplePoll
        (sampleFloored none) := by
    rw [sampleFloored_begins listed]
    exact List.mem_singleton_self _
  obtain ⟨source, floor, cap⟩ := sampleFloored_terms listed
  obtain ⟨descriptor, single⟩ : ∃ descriptor,
      DescriptorRepo.listDescriptorsForHolding (sampleFloored none).toDatabase
        (sampleFlooredPolicy none).sourceHoldingId = [descriptor] := by
    apply List.length_eq_one_iff.mp
    rw [source, ← List.length_map (f := DescriptorRow.id), (sampleFloored_descriptors listed).1]
    rfl
  have asks := sampleFloored_asks listed
  have funded : FundedBy sampleBdk sampleOneCoinLibrary spendAll samplePaymentNode
      (sampleFloored none).toDatabase _ _ :=
    ⟨_, _, sampleFloored_opens listed, sampleFloored_funding listed⟩
  have loads := loads_of_pollBegins begun
  obtain ⟨after, request, run⟩ :=
    request_of_funded loads asks (sampleFloored_admitted listed) funded
  obtain ⟨-, amount⟩ := admitted_of_request loads run asks
  have left := ((feasible _ begun descriptor single).made after request _ _ _ run amount asks
    funded).2
  simp only [SweepPolicyRow.sweepAmount, source, sampleFloored_balance listed, floor, cap] at left
  omega

end TallyKeep
