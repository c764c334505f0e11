/-
Module: TallyKeep.Proofs.SpentOrder
Layer: Proofs
Purpose: When the recorded spenders of the coins are independent of the order of deliveries.
Trusted boundary: none
Main exports: SpentRecorded, SpendersAfterCoins, spentRecorded_iff,
  unspentAt_of_sameTxs
-/
import TallyKeep.Proofs.CoinBook

namespace TallyKeep

open Relational CoinMarks

/-- Coin rows are spent, and by whom, exactly as the transactions say. -/
def SpentRecorded (db : Database) (txs : List DecodedTx) : Prop :=
  ∀ row ∈ db.utxos.rows, ∀ txid,
    (row.isSpent = true ∧ row.spentInTxid = some txid) ↔
      ∃ tx ∈ txs, tx.txid = txid ∧ row.outpoint ∈ tx.prevouts

/-- Whenever the list holds both the transaction that pays a watched address and one that spends
    this output, some delivery of the spender comes after some delivery of the payer. -/
def SpendersAfterCoins (base : Database) (txs : List DecodedTx) : Prop :=
  ∀ outpoint, (∃ payer ∈ txs, outpoint ∈ watchedOutpoints base payer) →
    ∀ spender ∈ txs, outpoint ∈ spender.prevouts →
      ∃ before after, txs = before ++ spender :: after ∧
        ∃ payer ∈ before, outpoint ∈ watchedOutpoints base payer

theorem isSpent_and_spentInTxid_iff (row : UtxoRow) (txid : Txid) :
    (row.isSpent = true ∧ row.spentInTxid = some txid) ↔ row.spentInTxid = some txid := by
  constructor
  · exact And.right
  · intro spender
    exact ⟨by rw [row.spentConsistent, spender]; rfl, spender⟩

/-- The coin table of a run records the spenders that the book of the run records. -/
theorem spentRecorded_iff_book {base db : Database} {txs : List DecodedTx}
    (represents : Represents base db (bookOf base txs)) (oneTx : OneTxPerId txs) :
    SpentRecorded db txs ↔
      ∀ outpoint, Created (watchedOutpoints base) txs outpoint → ∀ tx,
        ((bookOf base txs).spender outpoint = some tx ↔
          tx ∈ txs ∧ outpoint ∈ spentOutpoints tx) := by
  have spenderOf : ∀ row ∈ db.utxos.rows,
      row.spentInTxid = ((bookOf base txs).spender row.outpoint).map DecodedTx.txid := by
    intro row stored
    exact represents.spender row.outpoint row.core (Database.coinAt_of_mem stored)
  have listed : ∀ {outpoint tx}, (bookOf base txs).spender outpoint = some tx → tx ∈ txs := by
    intro outpoint tx marked
    obtain ⟨before, after, txsEq, -⟩ := Marks.spentOnceKnown_of_spender marked
    rw [txsEq]
    simp
  constructor
  · intro recorded outpoint created tx
    have known := (represents.known outpoint).mpr (Marks.mem_known_run.mpr created)
    obtain ⟨core, coin⟩ := Option.isSome_iff_exists.mp known
    obtain ⟨row, found, -⟩ := Option.map_eq_some_iff.mp coin
    obtain ⟨stored, rfl⟩ := Table.get?_eq_some_iff.mp found
    have entry := recorded row stored
    constructor
    · intro marked
      have spender : row.spentInTxid = some tx.txid := by
        have same := spenderOf row stored
        rw [show row.outpoint = key row from rfl, marked] at same
        exact same
      obtain ⟨tx', member', sameId, consumed⟩ :=
        (entry tx.txid).mp ((isSpent_and_spentInTxid_iff row tx.txid).mpr spender)
      rw [oneTx tx' member' tx (listed marked) sameId] at consumed
      exact ⟨listed marked, List.mem_toFinset.mpr consumed⟩
    · rintro ⟨member, consumed⟩
      have spent := (entry tx.txid).mpr ⟨tx, member, rfl, List.mem_toFinset.mp consumed⟩
      have same := spenderOf row stored
      rw [spent.2] at same
      obtain ⟨tx', marked, sameId⟩ := Option.map_eq_some_iff.mp same.symm
      rw [oneTx tx' (listed marked) tx member sameId] at marked
      exact marked
  · intro complete row stored txid
    have created : Created (watchedOutpoints base) txs row.outpoint := by
      refine Marks.mem_known_run.mp ((represents.known row.outpoint).mp ?_)
      rw [Database.coinAt_of_mem stored]
      rfl
    rw [isSpent_and_spentInTxid_iff, spenderOf row stored, Option.map_eq_some_iff]
    constructor
    · rintro ⟨tx, marked, rfl⟩
      obtain ⟨member, consumed⟩ := (complete row.outpoint created tx).mp marked
      exact ⟨tx, member, rfl, List.mem_toFinset.mp consumed⟩
    · rintro ⟨tx, member, rfl, consumed⟩
      exact ⟨tx, (complete row.outpoint created tx).mpr
        ⟨member, List.mem_toFinset.mpr consumed⟩, rfl⟩

/-- There is an unspent coin at the outpoint. -/
def UnspentAt (db : Database) (outpoint : Outpoint) : Prop :=
  ∃ row ∈ db.utxos.rows, row.outpoint = outpoint ∧ row.isSpent = false

theorem unspentAt_iff {base db : Database} {txs : List DecodedTx}
    (represents : Represents base db (bookOf base txs)) (recorded : SpentRecorded db txs)
    (outpoint : Outpoint) :
    UnspentAt db outpoint ↔
      (∃ payer ∈ txs, outpoint ∈ watchedOutpoints base payer) ∧
        ∀ tx ∈ txs, outpoint ∉ tx.prevouts := by
  constructor
  · rintro ⟨row, stored, rfl, unspent⟩
    have known := (represents.known row.outpoint).mp (by
      rw [Database.coinAt_of_mem stored]
      rfl)
    refine ⟨Marks.mem_known_run.mp known, fun tx member consumed => ?_⟩
    have spent := ((recorded row stored tx.txid).mpr ⟨tx, member, rfl, consumed⟩).1
    exact Bool.false_ne_true (unspent.symm.trans spent)
  · rintro ⟨created, unconsumed⟩
    have known := (represents.known outpoint).mpr (Marks.mem_known_run.mpr created)
    obtain ⟨core, coin⟩ := Option.isSome_iff_exists.mp known
    obtain ⟨row, found, -⟩ := Option.map_eq_some_iff.mp coin
    obtain ⟨stored, rfl⟩ := Table.get?_eq_some_iff.mp found
    refine ⟨row, stored, rfl, Bool.eq_false_iff.mpr fun spent => ?_⟩
    rw [row.spentConsistent] at spent
    obtain ⟨txid, spender⟩ := Option.isSome_iff_exists.mp spent
    obtain ⟨tx, member, -, consumed⟩ := (recorded row stored txid).mp
      ((isSpent_and_spentInTxid_iff row txid).mpr spender)
    exact unconsumed tx member consumed

/-- Two runs over the same transactions that record every spender leave the same coins unspent. -/
theorem unspentAt_of_sameTxs {base db db' : Database} {txs txs' : List DecodedTx}
    (represents : Represents base db (bookOf base txs))
    (represents' : Represents base db' (bookOf base txs'))
    (sameTxs : ∀ tx, tx ∈ txs ↔ tx ∈ txs') (recorded : SpentRecorded db txs)
    (recorded' : SpentRecorded db' txs') (outpoint : Outpoint) :
    UnspentAt db outpoint ↔ UnspentAt db' outpoint := by
  rw [unspentAt_iff represents recorded, unspentAt_iff represents' recorded']
  simp only [sameTxs]

/-- For every conflict-free list of deliveries the run returns, and its coin table records every
    spender exactly when each spender is delivered at least once after the coin it spends. -/
theorem spentRecorded_iff {base : Database} (wellFormed : ChainWellFormed base)
    (noCoins : base.utxos = .empty) (deliveries : List Delivery)
    (oneTx : OneTxPerId (deliveries.map Delivery.tx))
    (free : ConflictFree spentOutpoints (deliveries.map Delivery.tx)) :
    ∃ db, deliverAll base deliveries = .ok db ∧
      (SpentRecorded db (deliveries.map Delivery.tx) ↔
        SpendersAfterCoins base (deliveries.map Delivery.tx)) := by
  obtain ⟨db, run, represents⟩ := deliverAll_represents wellFormed noCoins deliveries
  refine ⟨db, run, ?_⟩
  rw [spentRecorded_iff_book represents oneTx, bookOf, Marks.marks_complete_iff free]
  simp only [Created, SpentOnceKnown, SpendersAfterCoins, spentOutpoints, List.mem_toFinset]
  refine forall_congr' fun outpoint => imp_congr_right fun _ => forall_congr' fun tx =>
    imp_congr_right fun member => imp_congr_right fun consumed => ?_
  constructor
  · rintro ⟨before, after, split, -, created⟩
    exact ⟨before, after, split, created⟩
  · rintro ⟨before, after, split, created⟩
    exact ⟨before, after, split, consumed, created⟩

theorem spentRecorded_iff_paymentFirst :
    ∃ db,
      deliverAll sampleWallet
          [⟨samplePayment, sampleCall none⟩, ⟨sampleTransfer, sampleCall (some 7)⟩] = .ok db ∧
        (SpentRecorded db [samplePayment, sampleTransfer] ↔
          SpendersAfterCoins sampleWallet [samplePayment, sampleTransfer]) :=
  spentRecorded_iff sampleWallet_wellFormed rfl
    [⟨samplePayment, sampleCall none⟩, ⟨sampleTransfer, sampleCall (some 7)⟩]
    (by decide) (sampleTxs_conflictFree _ (by simp))

/-- Handed over first, the spender of a coin leaves it unspent for good. -/
theorem not_spentRecorded_of_transferFirst :
    OneTxPerId [sampleTransfer, samplePayment] ∧
      ConflictFree spentOutpoints [sampleTransfer, samplePayment] ∧
      ∃ db,
        deliverAll sampleWallet
            [⟨sampleTransfer, sampleCall none⟩, ⟨samplePayment, sampleCall none⟩] = .ok db ∧
          ¬SpentRecorded db [sampleTransfer, samplePayment] := by
  refine ⟨by decide, sampleTxs_conflictFree _ (by simp), ?_⟩
  obtain ⟨db, run, -⟩ := deliverAll_represents sampleWallet_wellFormed rfl
    [⟨sampleTransfer, sampleCall none⟩, ⟨samplePayment, sampleCall none⟩]
  refine ⟨db, run, fun recorded => ?_⟩
  have unspent : (deliverAll sampleWallet
      [⟨sampleTransfer, sampleCall none⟩, ⟨samplePayment, sampleCall none⟩]).toOption.bind
        (fun db => (db.utxos.get? ⟨.repeated 'a', 0⟩).map UtxoRow.isSpent) = some false := by
    decide +kernel
  rw [run] at unspent
  obtain ⟨row, found, notSpent⟩ := Option.map_eq_some_iff.mp unspent
  obtain ⟨stored, place⟩ := Table.get?_eq_some_iff.mp found
  have consumed : row.outpoint ∈ sampleTransfer.prevouts := by
    rw [show row.outpoint = key row from rfl, place]
    decide
  have spent := (recorded row stored sampleTransfer.txid).mpr
    ⟨sampleTransfer, by simp, rfl, consumed⟩
  rw [notSpent] at spent
  exact Bool.false_ne_true spent.1

end TallyKeep
