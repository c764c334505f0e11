/-
Module: TallyKeep.Proofs.Confirmation
Layer: Proofs
Purpose: When the confirmation of a watched transaction is recorded: exactly when every lookup by
  transaction id in the database phase finds at most one row.
Trusted boundary: none
Main exports: ConfirmationRecorded, confirmationRecorded_iff, sampleChain, setupOperations
-/
import TallyKeep.Proofs.SystemInvariant

namespace TallyKeep

open Relational Transition

/-- The phase completes, and then the transaction row and all coins of the transaction have a
    height. -/
def ConfirmationRecorded (db : Database) (tx : DecodedTx) (ctx : TxContext) : Prop :=
  ∃ db' events, handleTxDb db tx ctx = .ok (db', events) ∧
    (∃ row, db'.onchainTransactions.get? tx.txid = some row ∧ row.confirmationHeight.isSome) ∧
    ∀ row ∈ db'.utxos.rows, row.outpoint.txid = tx.txid → row.confirmationHeight.isSome

/-! ### Heights after a completed phase -/

theorem upsert_confirmationHeight (db : Database) (txid : Txid) (rawHex : Option String)
    {height : Option Nat} (confirmed : height.isSome) (blockTime : Option Timestamp) :
    ∃ row, (OnchainRepo.upsert db txid rawHex height blockTime).onchainTransactions.get? txid =
      some row ∧ row.confirmationHeight.isSome := by
  rw [OnchainRepo.upsert]
  cases known : db.onchainTransactions.get? txid with
  | none =>
      refine ⟨⟨txid, rawHex, height, blockTime⟩, ?_, confirmed⟩
      have fresh : db.onchainTransactions.get?
          (key (OnChainTransactionRow.mk txid rawHex height blockTime)) = none := known
      simp only [Table.get?_insert_of_fresh fresh]
      exact if_pos rfl
  | some row =>
      simp only [Table.get?_update, known, if_true, Option.map_some, Option.some.injEq]
      refine ⟨_, rfl, ?_⟩
      cases height with
      | none => cases confirmed
      | some h => rfl

/-- A coin without a height belongs to an output that discovery finds again. -/
theorem Sound.mem_watchedOutputs {chain : Chain} {db : Database} (sound : Sound chain db)
    {tx : DecodedTx} (told : tx = chain.txOf tx.txid) {vout : Nat} {row : UtxoRow}
    (known : db.coinAt ⟨tx.txid, vout⟩ = some row) (unconfirmed : row.confirmationHeight = none) :
    ∃ found ∈ watchedOutputs db tx, found.vout = vout := by
  obtain ⟨address, stored, sameDescriptor, valueSats, paid⟩ :=
    sound.unconfirmed _ row known unconfirmed
  obtain ⟨holdingId, held⟩ := Option.isSome_iff_exists.mp (sound.wellFormed.holder known)
  refine ⟨⟨vout, valueSats, address.address, address.id, address.descriptorId, holdingId⟩, ?_, rfl⟩
  apply TallyKeep.mem_watchedOutputs.mpr
  rw [← sameDescriptor] at held
  refine ⟨address, stored, held, ?_, rfl, rfl, rfl⟩
  rw [told]
  exact paid

/-- After processing at a height, every coin of the transaction has one. -/
theorem Sound.confirmed_coins {chain : Chain} {db db' : Database} (sound : Sound chain db)
    {tx : DecodedTx} (told : tx = chain.txOf tx.txid) {ctx : TxContext}
    (confirmed : ctx.confirmationHeight.isSome) {result : TxProcessingResult}
    {direction : Direction} {postings : List Posting}
    (processed : Processed db tx ctx db' result direction postings) {vout : Nat} {row : UtxoRow}
    (found : db'.coinAt ⟨tx.txid, vout⟩ = some row) : row.confirmationHeight.isSome := by
  rw [processed.coins, coinAfter, if_neg (tx.own_not_mem_prevouts vout), recordedAt] at found
  cases here : (discoverOutputs db ctx.rowOrder tx).find? fun output =>
      (⟨tx.txid, output.vout⟩ : Outpoint) = ⟨tx.txid, vout⟩ with
  | none =>
      rw [here] at found
      by_contra missing
      obtain ⟨output, watched, sameVout⟩ :=
        sound.mem_watchedOutputs told found (Option.not_isSome_iff_eq_none.mp missing)
      have listed := (discoverOutputs_perm db ctx.rowOrder tx).mem_iff.mpr watched
      have absent := List.find?_eq_none.mp here output listed
      exact absent (decide_eq_true (congrArg (Outpoint.mk tx.txid) sameVout))
  | some output =>
      rw [here] at found
      have same := Option.some.inj found
      rw [← same]
      cases db.coinAt ⟨tx.txid, vout⟩ with
      | none => exact confirmed
      | some before =>
          simp only [DiscoveredOutput.recorded, UtxoRow.refreshHeight]
          split
          · exact confirmed
          · rename_i fresh
            rw [not_and] at fresh
            exact Option.isSome_iff_ne_none.mpr (fresh confirmed)

variable {Psbt Tx : Type}

/-- In every reachable state, the confirmation of a watched transaction is recorded exactly when the
    lookups of the phase are unique: with no new entry there is at most one old one; with an entry
    at most one request was broadcast under the transaction; when it pays an address with an OPEN
    invoice and something is new, its entries are at most one; at most one execution expects it. -/
theorem confirmationRecorded_iff {bdk : Bdk Psbt Tx} {chain : Chain} {db : Database}
    (reached : Reached bdk chain db) {tx : DecodedTx} (told : tx = chain.txOf tx.txid)
    (touched : Touches db tx) {ctx : TxContext} (confirmed : ctx.confirmationHeight.isSome) :
    ConfirmationRecorded db tx ctx ↔ LookupsUnique db tx True := by
  have sound := sound_of_reached reached
  have sameCondition : (ctx.confirmationHeight.isSome = true) = True := eq_true confirmed
  rw [← sameCondition]
  constructor
  · rintro ⟨db', events, run, -⟩
    exact (handleTxDb_completes_iff sound.wellFormed tx ctx).mp ⟨_, run⟩
  · intro unique
    obtain ⟨⟨db', events⟩, run⟩ :=
      (handleTxDb_completes_iff sound.wellFormed tx ctx).mpr unique
    obtain ⟨-, direction, postings, handled⟩ := handled_of_ok sound.wellFormed run
    obtain ⟨chainDb, result, processed, tables⟩ := handled.processed
    refine ⟨db', events, run, ?_, ?_⟩
    · rw [tables]
      simp only
      rw [processed.onchainTouched touched]
      exact upsert_confirmationHeight db tx.txid tx.rawHex confirmed ctx.blockTime
    · intro row stored ofTx
      have found : chainDb.coinAt row.outpoint = some row.core := by
        rw [tables] at stored
        exact Database.coinAt_of_mem stored
      have place : row.outpoint = ⟨tx.txid, row.outpoint.vout⟩ := by rw [← ofTx]
      rw [place] at found
      have tall := sound.confirmed_coins told confirmed processed found
      exact tall

/-! ### A transfer between two holdings -/

/-- A transaction that moves nothing. -/
def idleTx (txid : Txid) : DecodedTx :=
  ⟨txid, "", [], [], List.nodup_nil, List.nodup_nil, DecodedTx.noSelfSpend_nil txid⟩

/-- A chain with two given transactions. -/
def Chain.ofTwo (first second : DecodedTx) : Chain where
  txOf txid :=
    if first.txid = txid then first
    else if second.txid = txid then second
    else idleTx txid
  txid_txOf txid := by
    by_cases isFirst : first.txid = txid
    · rw [if_pos isFirst, isFirst]
    · rw [if_neg isFirst]
      by_cases isSecond : second.txid = txid
      · rw [if_pos isSecond, isSecond]
      · rw [if_neg isSecond]
        rfl

/-- The chain of the sample payment and the sample transfer. -/
def sampleChain : Chain := Chain.ofTwo samplePayment sampleTransfer

/-- Two holdings with a descriptor each, the first with that of the first sample address; one
    address is derived on every branch. -/
def setupOperations (first second : Uuid) : List Operation :=
  [.registerHolding ⟨first, .purse, .spending, .hardwareOffline⟩,
    .registerHolding ⟨second, .purse, .reserve, .hardwareOffline⟩,
    .registerDescriptor first
      ⟨"wpkh(a/0/*)", some "wpkh(a/1/*)", .regtest, .nativeSegwit, 1, ["bcrt1qa"],
        ["bcrt1qachange"]⟩,
    .registerDescriptor second
      ⟨"wpkh(b/0/*)", some "wpkh(b/1/*)", .regtest, .nativeSegwit, 1, ["bcrt1qb"],
        ["bcrt1qbchange"]⟩]

theorem sampleChain_payment : samplePayment = sampleChain.txOf samplePayment.txid := by
  decide

theorem sampleChain_transfer : sampleTransfer = sampleChain.txOf sampleTransfer.txid := by
  decide

/-- The payment is seen in the mempool. -/
def paymentOperations : List Operation :=
  setupOperations 10 20 ++ [.handleTx samplePayment (sampleCall none)]

/-- Where the payment is known from the mempool. -/
def paymentSeen : Database := paymentOperations.foldl (step sampleBdk) Database.empty

theorem paymentOperations_legal : ∀ operation ∈ paymentOperations,
    Legal sampleChain operation := by
  simp only [paymentOperations, setupOperations, List.cons_append, List.nil_append,
    List.forall_mem_cons, List.not_mem_nil, false_implies, implies_true, Legal, and_true, true_and]
  exact sampleChain_payment

/-- A payment to one holding: its confirmation is recorded. -/
theorem confirmationRecorded_iff_payment :
    ConfirmationRecorded paymentSeen samplePayment (sampleCall (some 100)) := by
  apply (confirmationRecorded_iff (reached_of_legal sampleBdk paymentOperations_legal)
    sampleChain_payment (Or.inr (by decide +kernel)) rfl).mpr
  refine ⟨fun _ _ => ?_, fun _ _ => ?_, fun _ => Or.inl ?_, fun _ => ?_⟩ <;> decide +kernel

/-- The payment and then the transfer are seen in the mempool, the payment is confirmed in
    between. -/
def transferOperations : List Operation :=
  paymentOperations ++
    [.handleTx samplePayment (sampleCall (some 100)), .handleTx sampleTransfer (sampleCall none)]

theorem transferOperations_legal : ∀ operation ∈ transferOperations,
    Legal sampleChain operation := by
  rw [transferOperations, List.forall_mem_append]
  refine ⟨paymentOperations_legal, ?_⟩
  simp only [List.forall_mem_cons, List.not_mem_nil, false_implies, implies_true, Legal, and_true]
  exact ⟨sampleChain_payment, sampleChain_transfer⟩

/-- Where the transfer is known from the mempool. -/
def transferSeen : Database := transferOperations.foldl (step sampleBdk) Database.empty

/-- The transfer books an entry for either holding when it is first seen, so its confirmation
    raises. -/
theorem not_confirmationRecorded_of_transfer :
    Run (SystemStep sampleBdk sampleChain) Database.empty transferOperations transferSeen ∧
      Operation.handleTx sampleTransfer (sampleCall none) ∈ transferOperations ∧
      Touches transferSeen sampleTransfer ∧
      ¬ConfirmationRecorded transferSeen sampleTransfer (sampleCall (some 101)) := by
  refine ⟨run_of_legal sampleBdk transferOperations_legal Database.empty, ?_, ?_, ?_⟩
  · simp [transferOperations]
  · exact Or.inr (by decide +kernel)
  · rintro ⟨db', events, run, -⟩
    have raises : (handleTxDb transferSeen sampleTransfer (sampleCall (some 101))).isOk = false := by
      decide +kernel
    rw [run] at raises
    cases raises

end TallyKeep
