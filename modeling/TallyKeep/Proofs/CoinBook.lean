/-
Module: TallyKeep.Proofs.CoinBook
Layer: Proofs
Purpose: Runs of `process_decoded_transaction` refine the abstract coin book: the coin table knows
  the watched outputs delivered so far and records the spenders the book records.
Trusted boundary: none
Main exports: watchedOutpoints, OneTxPerId, bookOf, Represents, Represents.processed,
  deliverAll_represents, Provenance, Provenance.processed
-/
import TallyKeep.Library.CoinMarks
import TallyKeep.Proofs.ChainProcessing

namespace TallyKeep

open Relational CoinMarks

/-! ### The abstract book of a run -/

/-- The watched outpoints a transaction creates. -/
def watchedOutpoints (db : Database) (tx : DecodedTx) : Finset Outpoint :=
  ((watchedOutputs db tx).map fun found => (⟨tx.txid, found.vout⟩ : Outpoint)).toFinset

/-- The outpoints a transaction consumes. -/
def spentOutpoints (tx : DecodedTx) : Finset Outpoint := tx.prevouts.toFinset

theorem mem_watchedOutpoints {db : Database} {tx : DecodedTx} {outpoint : Outpoint} :
    outpoint ∈ watchedOutpoints db tx ↔
      ∃ found ∈ watchedOutputs db tx, (⟨tx.txid, found.vout⟩ : Outpoint) = outpoint := by
  simp [watchedOutpoints]

theorem txid_of_mem_watchedOutpoints {db : Database} {tx : DecodedTx} {outpoint : Outpoint}
    (created : outpoint ∈ watchedOutpoints db tx) : outpoint.txid = tx.txid := by
  obtain ⟨found, -, rfl⟩ := mem_watchedOutpoints.mp created
  rfl

/-- An id names one transaction of the list. -/
def OneTxPerId (txs : List DecodedTx) : Prop :=
  ∀ tx ∈ txs, ∀ tx' ∈ txs, tx.txid = tx'.txid → tx = tx'

instance (txs : List DecodedTx) : Decidable (OneTxPerId txs) :=
  inferInstanceAs
    (Decidable (∀ tx ∈ txs, ∀ tx' ∈ txs, tx.txid = tx'.txid → tx = tx'))

/-- What the coin book of the descriptors and addresses in `base` holds after some transactions. -/
def bookOf (base : Database) (txs : List DecodedTx) : Marks DecodedTx Outpoint :=
  Marks.run (watchedOutpoints base) spentOutpoints txs

/-- The database watches what `base` watches, and its coins are those of the book. -/
structure Represents (base db : Database) (book : Marks DecodedTx Outpoint) : Prop where
  wellFormed : ChainWellFormed db
  descriptors : db.descriptors = base.descriptors
  addresses : db.addresses.rows.map AddressRow.core = base.addresses.rows.map AddressRow.core
  known : ∀ outpoint, (db.coinAt outpoint).isSome ↔ outpoint ∈ book.known
  spender : ∀ outpoint row, db.coinAt outpoint = some row →
    row.spentInTxid = (book.spender outpoint).map DecodedTx.txid
  unknown : ∀ outpoint, outpoint ∉ book.known → book.spender outpoint = none

namespace Represents

variable {base db db' : Database} {book : Marks DecodedTx Outpoint}

theorem watchedOutputs (represents : Represents base db book) (tx : DecodedTx) :
    TallyKeep.watchedOutputs db tx = TallyKeep.watchedOutputs base tx :=
  watchedOutputs_congr represents.descriptors represents.addresses tx

theorem holdingOf (represents : Represents base db book) : db.holdingOf = base.holdingOf := by
  funext descriptorId
  rw [Database.holdingOf, represents.descriptors, Database.holdingOf]

/-- A coin-free database stands for the empty book. -/
theorem start (wellFormed : ChainWellFormed base) (noCoins : base.utxos = .empty) :
    Represents base base Marks.empty where
  wellFormed := wellFormed
  descriptors := rfl
  addresses := rfl
  known := by simp [Database.coinAt, noCoins, Marks.empty]
  spender := by simp [Database.coinAt, noCoins]
  unknown := fun _ _ => rfl

/-- A found output stands at an outpoint exactly when the transaction creates it there. -/
theorem find?_discoverOutputs_eq_none_iff (represents : Represents base db book) (tx : DecodedTx)
    (order : RowOrder) (outpoint : Outpoint) :
    ((discoverOutputs db order tx).find? fun found =>
        (⟨tx.txid, found.vout⟩ : Outpoint) = outpoint) = none ↔
      outpoint ∉ watchedOutpoints base tx := by
  rw [List.find?_eq_none, mem_watchedOutpoints, ← represents.watchedOutputs]
  simp [(discoverOutputs_perm db order tx).mem_iff]

/-- One processed transaction is one step of the book. -/
theorem processed (represents : Represents base db book) {tx : DecodedTx} {ctx : TxContext}
    {result : TxProcessingResult} {direction : Direction} {postings : List Posting}
    (processed : Processed db tx ctx db' result direction postings) :
    Represents base db' (book.deliver (watchedOutpoints base) spentOutpoints tx) := by
  have created := represents.find?_discoverOutputs_eq_none_iff tx ctx.rowOrder
  refine ⟨processed.wellFormed represents.wellFormed,
    processed.descriptors.trans represents.descriptors,
    processed.addresses.trans represents.addresses, ?_, ?_, ?_⟩
  · intro outpoint
    rw [processed.coins, coinAfter, Marks.deliver, Finset.mem_union, ← represents.known]
    by_cases consumed : outpoint ∈ tx.prevouts
    · have elsewhere : outpoint ∉ watchedOutpoints base tx := by
        intro member
        exact tx.noSelfSpend outpoint consumed (txid_of_mem_watchedOutpoints member)
      simp [consumed, elsewhere]
    · rw [if_neg consumed, recordedAt]
      cases here : (discoverOutputs db ctx.rowOrder tx).find? fun found =>
          (⟨tx.txid, found.vout⟩ : Outpoint) = outpoint with
      | none => simp [(created outpoint).mp here]
      | some found =>
          have member : outpoint ∈ watchedOutpoints base tx := by
            by_contra absent
            rw [(created outpoint).mpr absent] at here
            cases here
          simp [member]
  · intro outpoint row found
    rw [processed.coins, coinAfter] at found
    by_cases consumed : outpoint ∈ tx.prevouts
    · rw [if_pos consumed] at found
      obtain ⟨before, known, rfl⟩ := Option.map_eq_some_iff.mp found
      have isKnown : outpoint ∈ book.known := (represents.known outpoint).mp (by simp [known])
      rw [UtxoRow.markSpent_spentInTxid, represents.spender outpoint before known, Marks.deliver]
      cases marked : book.spender outpoint with
      | none => simp [spentOutpoints, consumed, isKnown, marked]
      | some other => simp [marked]
    · have unmarked : outpoint ∉ spentOutpoints tx := by simpa [spentOutpoints] using consumed
      have sameSpender : (book.deliver (watchedOutpoints base) spentOutpoints tx).spender outpoint =
          book.spender outpoint := by
        simp [Marks.deliver, unmarked]
      rw [sameSpender]
      rw [if_neg consumed, recordedAt] at found
      split at found
      · exact represents.spender outpoint row found
      · cases known : db.coinAt outpoint with
        | none =>
            have unknown := represents.unknown outpoint fun member => by
              simpa [known] using (represents.known outpoint).mpr member
            rw [known] at found
            cases found
            rw [unknown]
            rfl
        | some before =>
            rw [known] at found
            cases found
            simpa [DiscoveredOutput.recorded] using represents.spender outpoint before known
  · intro outpoint unknown
    simp only [Marks.deliver, Finset.mem_union, not_or] at unknown ⊢
    simp [unknown.1, represents.unknown outpoint unknown.1]

end Represents

/-! ### Runs -/

/-- On a well-formed database a delivery returns the processed database. -/
theorem deliver_processed {db : Database} (wellFormed : ChainWellFormed db) (delivery : Delivery) :
    ∃ db' result direction postings, deliver db delivery = .ok db' ∧
      Processed db delivery.tx delivery.ctx db' result direction postings := by
  obtain ⟨db', result, direction, postings, run, processed⟩ :=
    processDecodedTransaction_spec wellFormed delivery.tx delivery.ctx
  refine ⟨db', result, direction, postings, ?_, processed⟩
  simp [deliver, run, bind, Except.bind, pure, Except.pure]

theorem deliverAll_concat {base db : Database} {deliveries : List Delivery}
    (run : deliverAll base deliveries = .ok db) (last : Delivery) :
    deliverAll base (deliveries ++ [last]) = deliver db last := by
  rw [deliverAll, List.foldlM_append, ← deliverAll, run]
  simp [bind, Except.bind, pure, Except.pure]
  cases deliver db last <;> rfl

/-- A run never raises and ends in the book of its transactions. -/
theorem deliverAll_represents {base : Database} (wellFormed : ChainWellFormed base)
    (noCoins : base.utxos = .empty) (deliveries : List Delivery) :
    ∃ db, deliverAll base deliveries = .ok db ∧
      Represents base db (bookOf base (deliveries.map Delivery.tx)) := by
  induction deliveries using List.reverseRecOn with
  | nil => exact ⟨base, rfl, .start wellFormed noCoins⟩
  | append_singleton before last inductionHypothesis =>
      obtain ⟨db, run, represents⟩ := inductionHypothesis
      obtain ⟨db', _, _, _, step, processed⟩ := deliver_processed represents.wellFormed last
      refine ⟨db', (deliverAll_concat run last).trans step, ?_⟩
      rw [List.map_append, bookOf, List.map_singleton, Marks.run_concat]
      exact represents.processed processed

/-! ### Where coins come from -/

/-- Every coin is an output that one of the transactions pays to a watched address. -/
def Provenance (base db : Database) (txs : List DecodedTx) : Prop :=
  ∀ outpoint row, db.coinAt outpoint = some row →
    ∃ tx ∈ txs, ∃ found ∈ watchedOutputs base tx, outpoint = ⟨tx.txid, found.vout⟩ ∧
      row.descriptorId = found.descriptorId ∧ row.addressId = found.addressId ∧
      row.valueSats = found.valueSats

theorem Provenance.start {base : Database} (noCoins : base.utxos = .empty) :
    Provenance base base [] := by
  intro outpoint row coin
  simp [Database.coinAt, noCoins] at coin

theorem Provenance.processed {base db db' : Database} {book : Marks DecodedTx Outpoint}
    {txs : List DecodedTx} {tx : DecodedTx} {ctx : TxContext} {result : TxProcessingResult}
    {direction : Direction} {postings : List Posting} (provenance : Provenance base db txs)
    (represents : Represents base db book)
    (processed : Processed db tx ctx db' result direction postings) :
    Provenance base db' (txs ++ [tx]) := by
  intro outpoint row coin
  rcases processed.coin_origin coin with
    ⟨before, known, sameDescriptor, sameAddress, sameValue⟩ | ⟨-, found, watched, rfl, rfl⟩
  · obtain ⟨earlier, member, found, watched, place, descriptor, address, value⟩ :=
      provenance outpoint before known
    exact ⟨earlier, List.mem_append_left _ member, found, watched, place,
      sameDescriptor.trans descriptor, sameAddress.trans address, sameValue.trans value⟩
  · rw [represents.watchedOutputs] at watched
    exact ⟨tx, by simp, found, watched, rfl, rfl, rfl, rfl⟩

/-! ### The sample transactions -/

theorem sampleTxs_conflictFree (txs : List DecodedTx)
    (samples : ∀ tx ∈ txs, tx = samplePayment ∨ tx = sampleTransfer) :
    ConflictFree spentOutpoints txs := by
  have coinbase : ∀ outpoint, outpoint ∉ spentOutpoints samplePayment := by
    intro outpoint
    simp [spentOutpoints, DecodedTx.prevouts, samplePayment, DecodedInput.prevout?]
  intro outpoint tx member tx' member' spends spends'
  rcases samples tx member with rfl | rfl
  · exact absurd spends (coinbase outpoint)
  · rcases samples tx' member' with rfl | rfl
    · exact absurd spends' (coinbase outpoint)
    · rfl

end TallyKeep
