/-
Module: TallyKeep.Proofs.SpendableInputs
Layer: Proofs
Purpose: When the PSBT of a payment spends only coins the service offered.
Trusted boundary: none
Main exports: Spendable, psbtOffered, composePayment_eq, BuildsFrom, spendsSpendable_iff
-/
import TallyKeep.Adapters.Descriptor
import TallyKeep.Proofs.EntryLinks
import Mathlib.Algebra.Order.BigOperators.Group.List

namespace TallyKeep

open Relational

variable {Psbt Tx : Type}

/-- The holding has one descriptor, and the outpoint is that of an unspent, unfrozen and confirmed
    coin of it. -/
def Spendable (db : Database) (holdingId : Uuid) (outpoint : Outpoint) : Prop :=
  ∃ descriptor, DescriptorRepo.listDescriptorsForHolding db holdingId = [descriptor] ∧
    ∃ row ∈ db.utxos.rows, row.descriptorId = descriptor.id ∧ row.outpoint = outpoint ∧
      row.isSpent = false ∧ row.isFrozen = false ∧ row.confirmationHeight.isSome = true

/-- What `build_payment_request` hands to `build_psbt`, when nothing before it raises. -/
def psbtOffered (bdk : Bdk Psbt Tx) (node : PaymentNode) (db : Database) (order : PaymentOrder) :
    Except PyError PsbtOrder := do
  let descriptor ← spendingDescriptor db order.holdingId
  let utxos := gatherSpendableUtxos db descriptor.id
  if utxos = [] then
    throw ⟨.insufficientBalance, "No spendable UTXOs (all are spent or frozen)."⟩
  let availableSats := (utxos.map UtxoRow.valueSats).sum
  if order.amountSats.any fun amount => decide ((availableSats : Int) < amount) then
    throw ⟨.insufficientBalance,
      "Requested " ++ toString (order.amountSats.getD 0) ++ " sats, available " ++
        toString availableSats ++ " sats."⟩
  match bdk.parseAddress descriptor.network order.destinationAddress with
  | .error text => throw ⟨.invalidDestination, "Destination is not a valid address: " ++ text⟩
  | .ok _ => pure ()
  let feeRate ← resolveFeeRate node order.feeStrategy order.feeSatPerVbyte
  let utxosForBuild ← utxos.mapM (parentRawHex node)
  return ⟨descriptor.expression, descriptor.changeExpression, descriptor.network, utxosForBuild,
    order.destinationAddress, order.amountSats, feeRate,
    highWaterIndex db descriptor.id false, highWaterIndex db descriptor.id true⟩

/-- The call of the library cuts the composition of a payment in two. -/
theorem composePayment_eq (bdk : Bdk Psbt Tx) (node : PaymentNode) (db : Database)
    (order : PaymentOrder) (requestId : Uuid) (now : Timestamp) :
    composePayment bdk node db order requestId now =
      psbtOffered bdk node db order >>= fun psbtOrder =>
        match bdk.buildPsbt psbtOrder with
        | .error text => .error ⟨.bankingError, "PSBT build failed: " ++ text⟩
        | .ok psbtBase64 => (order.request requestId psbtBase64 now).postInit := by
  rw [composePayment, psbtOffered]
  simp only [bind_assoc]
  congr 1
  funext descriptor
  split
  · rfl
  · split
    · rfl
    · cases bdk.parseAddress descriptor.network order.destinationAddress with
      | error text => rfl
      | ok _ =>
          simp only [bind_assoc]
          rfl

variable {bdk : Bdk Psbt Tx} {library : WalletLibrary} {node : PaymentNode} {db : Database}
  {order : PaymentOrder}

/-- The wallet has no part in what is handed to it. -/
theorem psbtOffered_withWallet (builder : TxBuilder) :
    psbtOffered (bdk.withWallet library builder) node db order = psbtOffered bdk node db order :=
  rfl

/-- The payment gets as far as the builder, which finds these coins in the wallet and may cover the
    amount with them. -/
structure BuildsFrom (bdk : Bdk Psbt Tx) (library : WalletLibrary) (node : PaymentNode)
    (db : Database) (order : PaymentOrder) (coins : List WalletCoin)
    (builderOrder : BuilderOrder) : Prop where
  admitted : admitPayment db order = .ok .admitted
  opened : ∃ psbtOrder, psbtOffered bdk node db order = .ok psbtOrder ∧
    openWallet library psbtOrder = .ok (coins, builderOrder)
  positive : ∀ amount ∈ order.amountSats, 0 < amount
  covered : ∀ amount ∈ builderOrder.amountSats, amount ≤ (coins.map WalletCoin.valueSats).sum

theorem request_postInit_ok_iff {requestId : Uuid} {psbtBase64 : String} {now : Timestamp}
    {request : PaymentRequestRow} :
    (order.request requestId psbtBase64 now).postInit = .ok request ↔
      (∀ amount ∈ order.amountSats, 0 < amount) ∧
        request = order.request requestId psbtBase64 now := by
  have amount : (order.request requestId psbtBase64 now).amountSats = order.amountSats := rfl
  rw [PaymentRequestRow.postInit, amount]
  cases order.amountSats with
  | none => simp [eq_comm]
  | some amount =>
      by_cases positive : 0 < amount
      · simp only [Option.any_some, decide_eq_true_eq, not_le.mpr positive, if_false,
          Except.ok.injEq, Option.mem_some_iff, forall_eq', positive, true_and]
        exact eq_comm
      · simp [positive, not_lt.mp positive]

theorem buildPsbt_ok_iff {builder : TxBuilder} {psbtOrder : PsbtOrder} {psbtBase64 : String} :
    DescriptorAdapter.buildPsbt library builder psbtOrder = .ok psbtBase64 ↔
      ∃ coins builderOrder selected, openWallet library psbtOrder = .ok (coins, builderOrder) ∧
        builder coins builderOrder = .ok selected ∧
        psbtBase64 = library.serialize ⟨selected.map WalletCoin.outpoint, builderOrder⟩ := by
  rw [DescriptorAdapter.buildPsbt]
  cases openWallet library psbtOrder with
  | error text => simp [bind, Except.bind]
  | ok opened =>
      obtain ⟨coins, builderOrder⟩ := opened
      cases selection : builder coins builderOrder with
      | error text => simp [bind, Except.bind, selection]
      | ok selected => simp [bind, Except.bind, selection, pure, Except.pure, eq_comm]

/-- A request is built exactly when the builder selects, and then around what it selects. -/
theorem buildPaymentRequest_withWallet_iff (builder : TxBuilder) (now : Timestamp)
    {db' : Database} {request : PaymentRequestRow} :
    buildPaymentRequest (bdk.withWallet library builder) node db order now =
        .ok (db', some request) ↔
      admitPayment db order = .ok .admitted ∧
        (∃ psbtOrder coins builderOrder selected,
          psbtOffered bdk node db order = .ok psbtOrder ∧
          openWallet library psbtOrder = .ok (coins, builderOrder) ∧
          builder coins builderOrder = .ok selected ∧
          request = order.request db.paymentRequests.freshKey
            (library.serialize ⟨selected.map WalletCoin.outpoint, builderOrder⟩) now) ∧
        (∀ amount ∈ order.amountSats, 0 < amount) ∧
        db' = PaymentRequestRepo.insert db request := by
  rw [buildPaymentRequest, bind_ok_iff]
  constructor
  · rintro ⟨admission, admitted, run⟩
    cases admission with
    | requiresConfirmation message => cases run
    | admitted =>
        simp only [bind_ok_iff] at run
        obtain ⟨composed, run, stored⟩ := run
        cases stored
        rw [composePayment_eq, bind_ok_iff] at run
        obtain ⟨psbtOrder, offered, run⟩ := run
        split at run
        · cases run
        · next psbtBase64 built =>
          obtain ⟨coins, builderOrder, selected, opened, selection, rfl⟩ :=
            buildPsbt_ok_iff.mp built
          obtain ⟨positive, rfl⟩ := request_postInit_ok_iff.mp run
          exact ⟨admitted, ⟨psbtOrder, coins, builderOrder, selected, offered, opened, selection,
            rfl⟩, positive, rfl⟩
  · rintro ⟨admitted, ⟨psbtOrder, coins, builderOrder, selected, offered, opened, selection, same⟩,
      positive, stored⟩
    have built : (bdk.withWallet library builder).buildPsbt psbtOrder =
        .ok (library.serialize ⟨selected.map WalletCoin.outpoint, builderOrder⟩) :=
      buildPsbt_ok_iff.mpr ⟨coins, builderOrder, selected, opened, selection, rfl⟩
    have composed : composePayment (bdk.withWallet library builder) node db order
        db.paymentRequests.freshKey now = .ok request := by
      rw [composePayment_eq, psbtOffered_withWallet, offered]
      change (match (bdk.withWallet library builder).buildPsbt psbtOrder with
        | .error text => _
        | .ok psbtBase64 => _) = _
      rw [built]
      exact request_postInit_ok_iff.mpr ⟨positive, same⟩
    refine ⟨.admitted, admitted, ?_⟩
    simp only [bind_ok_iff]
    exact ⟨request, composed, by rw [stored]; rfl⟩

/-- The builder that selects all coins wherever they cover the amount. -/
def selectAll : TxBuilder := fun coins order =>
  if order.amountSats.all fun amount => decide (amount ≤ (coins.map WalletCoin.valueSats).sum) then
    .ok coins
  else .error "InsufficientFunds"

theorem selectAll_lawful : selectAll.Lawful := by
  intro coins order selected selection
  rw [selectAll] at selection
  split at selection
  · next covered =>
    cases selection
    refine ⟨List.Subperm.refl coins, ?_⟩
    cases amount : order.amountSats with
    | none => rfl
    | some amount' => simpa [amount] using covered
  · cases selection

/-- A selection that covers an amount is covered by all coins. -/
theorem TxBuilder.Lawful.covered {builder : TxBuilder} (lawful : builder.Lawful)
    {coins selected : List WalletCoin} {builderOrder : BuilderOrder}
    (selection : builder coins builderOrder = .ok selected) :
    ∀ amount ∈ builderOrder.amountSats, amount ≤ (coins.map WalletCoin.valueSats).sum := by
  intro amount asked
  obtain ⟨sub, covers⟩ := lawful coins builderOrder selected selection
  rw [Option.mem_def.mp asked] at covers
  obtain ⟨chosen, perm, sublist⟩ := sub
  calc amount ≤ (selected.map WalletCoin.valueSats).sum := covers
    _ = (chosen.map WalletCoin.valueSats).sum := (perm.symm.map WalletCoin.valueSats).sum_eq
    _ ≤ (coins.map WalletCoin.valueSats).sum :=
        (sublist.map WalletCoin.valueSats).sum_le_sum fun _ _ => Nat.zero_le _

/-- However the builder selects, a payment spends only spendable coins of the descriptor, exactly
    when all coins of the wallet it could be built from are such coins. -/
theorem spendsSpendable_iff (bdk : Bdk Psbt Tx) (library : WalletLibrary) (node : PaymentNode)
    (db : Database) (order : PaymentOrder) (now : Timestamp) :
    (∀ builder : TxBuilder, builder.Lawful → ∀ db' request,
      buildPaymentRequest (bdk.withWallet library builder) node db order now =
        .ok (db', some request) →
      ∀ outpoint ∈ request.psbtInputs library, Spendable db order.holdingId outpoint) ↔
    ∀ coins builderOrder, BuildsFrom bdk library node db order coins builderOrder →
      ∀ coin ∈ coins, Spendable db order.holdingId coin.outpoint := by
  have inputs : ∀ (selected : List WalletCoin) builderOrder,
      (order.request db.paymentRequests.freshKey (library.serialize
        ⟨selected.map WalletCoin.outpoint, builderOrder⟩) now).psbtInputs library =
          selected.map WalletCoin.outpoint :=
    fun _ _ => library.psbtInputs_serialize _
  constructor
  · intro safe coins builderOrder buildsFrom coin member
    obtain ⟨admitted, ⟨psbtOrder, offered, opened⟩, positive, covered⟩ := buildsFrom
    have selection : selectAll coins builderOrder = .ok coins := by
      rw [selectAll, if_pos]
      cases amount : builderOrder.amountSats with
      | none => rfl
      | some amount' => simpa using covered amount' amount
    have built := (buildPaymentRequest_withWallet_iff selectAll now).mpr
      ⟨admitted, ⟨psbtOrder, coins, builderOrder, coins, offered, opened, selection, rfl⟩, positive,
        rfl⟩
    apply safe selectAll selectAll_lawful _ _ built
    rw [inputs]
    exact List.mem_map_of_mem member
  · intro safe builder lawful db' request built outpoint member
    obtain ⟨admitted, ⟨psbtOrder, coins, builderOrder, selected, offered, opened, selection, rfl⟩,
      positive, _⟩ := (buildPaymentRequest_withWallet_iff builder now).mp built
    rw [inputs, List.mem_map] at member
    obtain ⟨coin, chosen, rfl⟩ := member
    have among := (lawful coins builderOrder selected selection).1.subset chosen
    exact safe coins builderOrder
      ⟨admitted, ⟨psbtOrder, offered, opened⟩, positive, lawful.covered selection⟩ coin among

/-! ### Two outputs of one transaction -/

/-- Inputs written one after another: a transaction id, the index as that many ones, a zero. -/
def writeInputs (inputs : List Outpoint) : List Char :=
  inputs.flatMap fun input => input.txid.text.toList ++ (List.replicate input.vout '1' ++ ['0'])

/-- At most so many inputs are read back. -/
def readInputs : Nat → List Char → List Outpoint
  | 0, _ => []
  | fuel + 1, text =>
      if valid : (String.ofList (text.take 64)).length = 64 then
        ⟨⟨String.ofList (text.take 64), valid⟩,
            ((text.drop 64).takeWhile fun c => c = '1').length⟩ ::
          readInputs fuel (((text.drop 64).dropWhile fun c => c = '1').drop 1)
      else []

theorem readInputs_writeInputs {inputs : List Outpoint} {fuel : Nat} (enough : inputs.length < fuel) :
    readInputs fuel (writeInputs inputs) = inputs := by
  induction inputs generalizing fuel with
  | nil =>
      cases fuel with
      | zero => rfl
      | succ fuel => rfl
  | cons input rest inductionHypothesis =>
      cases fuel with
      | zero => simp at enough
      | succ fuel =>
          obtain ⟨⟨text, length⟩, vout⟩ := input
          have size : text.toList.length = 64 := by rw [String.length_toList]; exact length
          have later := inductionHypothesis (Nat.lt_of_succ_lt_succ enough)
          have head : (writeInputs (⟨⟨text, length⟩, vout⟩ :: rest)).take 64 = text.toList := by
            simp [writeInputs, ← size]
          have tail : (writeInputs (⟨⟨text, length⟩, vout⟩ :: rest)).drop 64 =
              List.replicate vout '1' ++ '0' :: writeInputs rest := by
            simp [writeInputs, ← size]
          rw [readInputs]
          simp only [head, tail, String.ofList_toList, length, dif_pos]
          have ones : ((List.replicate vout '1' ++ '0' :: writeInputs rest).takeWhile
              fun c => c = '1') = List.replicate vout '1' := by
            rw [List.takeWhile_append_of_pos (by simp)]
            simp
          have zero : ((List.replicate vout '1' ++ '0' :: writeInputs rest).dropWhile
              fun c => c = '1') = '0' :: writeInputs rest := by
            rw [List.dropWhile_append_of_pos (by simp)]
            simp
          rw [ones, zero, List.length_replicate, List.drop_one, List.tail_cons, later]

theorem length_le_writeInputs (inputs : List Outpoint) :
    inputs.length ≤ (writeInputs inputs).length := by
  induction inputs with
  | nil => simp
  | cons input rest inductionHypothesis =>
      have grown : (writeInputs (input :: rest)).length =
          (input.txid.text.toList.length + (input.vout + 1)) + (writeInputs rest).length := by
        simp only [writeInputs, List.flatMap_cons, List.length_append, List.length_replicate,
          List.length_singleton]
      rw [grown, List.length_cons]
      omega

/-- A library whose wallets know one script, on a chain with one transaction that pays it twice.  As
    in `bdkpython`, no wallet has one descriptor for both of its keychains. -/
def sampleWalletLibrary : WalletLibrary where
  parseDescriptor _ _ := .ok ()
  newWallet keys :=
    if keys.externalDescriptor = keys.changeDescriptor then
      .error "External and internal descriptors are the same"
    else .ok ()
  knowsScript _ script := decide (script = "ours")
  parseTransaction _ := .ok ⟨samplePayment.txid, [], [⟨100000, "ours"⟩, ⟨50000, "ours"⟩]⟩
  scriptPubkey _ _ := .ok "theirs"
  serialize psbt := String.ofList (writeInputs psbt.inputs)
  psbtInputs text := readInputs (text.toList.length + 1) text.toList
  psbtInputs_serialize := by
    intro psbt
    rw [String.toList_ofList]
    exact readInputs_writeInputs (Nat.lt_succ_of_le (length_le_writeInputs psbt.inputs))

/-- A coin of the first sample descriptor. -/
def sampleCoin (vout valueSats : Nat) (isFrozen : Bool) : UtxoRow where
  id := vout + 1
  descriptorId := 1
  addressId := 1
  outpoint := ⟨samplePayment.txid, vout⟩
  valueSats := valueSats
  confirmationHeight := some 100
  isFrozen := isFrozen
  isSpent := false
  spentInTxid := none
  hygieneFlags := []
  spentConsistent := rfl

/-- One transaction paid the holding twice, and the user froze the second coin. -/
def frozenSibling : Database :=
  { (setupOperations 10 20).foldl (step sampleBdk) Database.empty with
    utxos := ⟨[sampleCoin 0 100000 false, sampleCoin 1 50000 true], by decide⟩ }

/-- The order to send everything there is. -/
def sampleDrain : PaymentOrder := ⟨10, "bcrt1qb", none, none, none, none, false⟩

/-- The drain of a holding spends the frozen coin, whose parent is that of a spendable one. -/
theorem not_spendsSpendable_of_frozenSibling :
    ¬∀ builder : TxBuilder, builder.Lawful → ∀ db' request,
      buildPaymentRequest (sampleBdk.withWallet sampleWalletLibrary builder) samplePaymentNode
        frozenSibling sampleDrain 0 = .ok (db', some request) →
      ∀ outpoint ∈ request.psbtInputs sampleWalletLibrary, Spendable frozenSibling 10 outpoint := by
  intro safe
  let coins : List WalletCoin :=
    [⟨⟨samplePayment.txid, 0⟩, 100000⟩, ⟨⟨samplePayment.txid, 1⟩, 50000⟩]
  have offered : psbtOffered sampleBdk samplePaymentNode frozenSibling sampleDrain =
      .ok ⟨"wpkh(a/0/*)", some "wpkh(a/1/*)", .regtest, [⟨samplePayment.txid, 0, 100000, "00"⟩],
        "bcrt1qb", none, 10, 0, 0⟩ := rfl
  have opened : openWallet sampleWalletLibrary ⟨"wpkh(a/0/*)", some "wpkh(a/1/*)", .regtest,
      [⟨samplePayment.txid, 0, 100000, "00"⟩], "bcrt1qb", none, 10, 0, 0⟩ =
        .ok (coins, ⟨"theirs", none, 10⟩) := by
    decide +kernel
  have built := (buildPaymentRequest_withWallet_iff selectAll 0).mpr ⟨rfl,
    ⟨_, coins, ⟨"theirs", none, 10⟩, coins, offered, opened, rfl, rfl⟩, by simp [sampleDrain], rfl⟩
  have spent := safe selectAll selectAll_lawful _ _ built ⟨samplePayment.txid, 1⟩ (by
    change _ ∈ sampleWalletLibrary.psbtInputs (sampleWalletLibrary.serialize _)
    rw [sampleWalletLibrary.psbtInputs_serialize]
    exact List.mem_cons_of_mem _ List.mem_cons_self)
  obtain ⟨_, _, row, stored, _, same, _, thawed, _⟩ := spent
  have frozen : ∀ row ∈ frozenSibling.utxos.rows, row.outpoint = ⟨samplePayment.txid, 1⟩ →
      row.isFrozen = true := by
    decide
  rw [frozen row stored same] at thawed
  cases thawed

end TallyKeep
