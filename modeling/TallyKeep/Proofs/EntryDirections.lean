/-
Module: TallyKeep.Proofs.EntryDirections
Layer: Proofs
Purpose: Which direction the entries of a transaction are given, against the rule that only a
  transaction wholly among the user's coins and addresses is internal.
Trusted boundary: none
Main exports: WhollyOwned, DirectionLaw, stageDirection_eq, directionLaw_iff, entryDirections_iff
-/
import TallyKeep.Proofs.Confirmation

namespace TallyKeep

open Relational

/-! ### The rule -/

/-- A watched address: one of a row whose descriptor is there. -/
def Watched (db : Database) (address : String) : Prop :=
  ∃ row ∈ db.addresses.rows, row.address = address ∧ (db.holdingOf row.descriptorId).isSome

instance (db : Database) (address : String) : Decidable (Watched db address) :=
  inferInstanceAs (Decidable (∃ row ∈ db.addresses.rows, _ ∧ _))

/-- The input spends a coin of the coin table. -/
def SpendsWatched (db : Database) (input : DecodedInput) : Prop :=
  ∃ prevout ∈ input.prevout?, (db.utxos.get? prevout).isSome

instance (db : Database) (input : DecodedInput) : Decidable (SpendsWatched db input) :=
  inferInstanceAs (Decidable (∃ prevout ∈ input.prevout?, _))

/-- The output pays a watched address. -/
def PaysWatched (db : Database) (output : DecodedOutput) : Prop :=
  ∃ payment ∈ output.payment?, Watched db payment.1

instance (db : Database) (output : DecodedOutput) : Decidable (PaysWatched db output) :=
  inferInstanceAs (Decidable (∃ payment ∈ output.payment?, _))

/-- Every input spends a watched coin and every output pays a watched address. -/
def WhollyOwned (db : Database) (tx : DecodedTx) : Prop :=
  (∀ input ∈ tx.vin, SpendsWatched db input) ∧ ∀ output ∈ tx.vout, PaysWatched db output

instance (db : Database) (tx : DecodedTx) : Decidable (WhollyOwned db tx) :=
  inferInstanceAs (Decidable (_ ∧ _))

/-- The value of the watched coins that the transaction spends. -/
def watchedSpent (db : Database) (tx : DecodedTx) : Nat :=
  ((consumedRows db tx).map UtxoRow.valueSats).sum

/-- The value of the outputs that pay watched addresses. -/
def watchedReceived (db : Database) (tx : DecodedTx) : Nat :=
  ((tx.payments.filter fun payment => decide (Watched db payment.1)).map
    fun payment => payment.2.1).sum

/-- Internal exactly when wholly owned; and else by which side has more watched value. -/
def DirectionLaw (db : Database) (tx : DecodedTx) (direction : Direction) : Prop :=
  (direction = .internal ↔ WhollyOwned db tx) ∧
    (¬WhollyOwned db tx →
      (watchedSpent db tx < watchedReceived db tx → direction = .incoming) ∧
        (watchedReceived db tx < watchedSpent db tx → direction = .outgoing))

/-- Watched value on both sides. -/
def MovesBothWays (db : Database) (tx : DecodedTx) : Prop :=
  0 < watchedSpent db tx ∧ 0 < watchedReceived db tx

instance (db : Database) (tx : DecodedTx) : Decidable (MovesBothWays db tx) :=
  inferInstanceAs (Decidable (_ ∧ _))

/-! ### What the code infers -/

section Inferred

variable {db : Database} {tx : DecodedTx}

/-- An address that several rows have counts several times in the code, but not from nothing. -/
theorem receivedTotal_pos_iff :
    0 < receivedTotal (watchedOutputs db tx) ↔ 0 < watchedReceived db tx := by
  simp only [receivedTotal, watchedReceived, List.sum_pos_iff_exists_pos_nat, List.mem_map,
    exists_exists_and_eq_and]
  constructor
  · rintro ⟨found, watched, positive⟩
    obtain ⟨row, stored, held, paid, sameAddress, -, -⟩ := mem_watchedOutputs.mp watched
    refine ⟨_, List.mem_filter.mpr ⟨paid, decide_eq_true ?_⟩, positive⟩
    exact ⟨row, stored, sameAddress.symm, Option.isSome_iff_exists.mpr ⟨_, held⟩⟩
  · rintro ⟨payment, member, positive⟩
    obtain ⟨paid, watched⟩ := List.mem_filter.mp member
    obtain ⟨row, stored, sameAddress, held⟩ := of_decide_eq_true watched
    obtain ⟨holdingId, held⟩ := Option.isSome_iff_exists.mp held
    refine ⟨⟨payment.2.2, payment.2.1, payment.1, row.id, row.descriptorId, holdingId⟩,
      mem_watchedOutputs.mpr ⟨row, stored, held, paid, sameAddress.symm, rfl, rfl⟩, positive⟩

/-- The direction is internal as soon as watched value moves both ways. -/
theorem stageDirection_eq
    (holderOfCoin : ∀ row ∈ db.utxos.rows, (db.holdingOf row.descriptorId).isSome)
    (ctx : TxContext) :
    stageDirection db tx ctx =
      if MovesBothWays db tx then .internal
      else if watchedSpent db tx = 0 then .incoming
      else .outgoing := by
  rw [stageDirection_before, inferDirection]
  have spending := @spendingHoldings_card_pos db tx holderOfCoin
  have receiving := @receivingHoldings_card_pos (watchedOutputs db tx)
  have samePositive := @receivedTotal_pos_iff db tx
  by_cases both : MovesBothWays db tx
  · have received := samePositive.mpr both.2
    rw [if_pos both, if_pos ⟨both.1, received, spending both.1, receiving received⟩]
  · have notBoth := both
    rw [MovesBothWays, ← samePositive, watchedSpent] at notBoth
    rw [if_neg both, if_neg fun all => notBoth ⟨all.1, all.2.1⟩, watchedSpent]
    refine if_congr ?_ rfl rfl
    omega

theorem directionLaw_iff :
    DirectionLaw db tx
        (if MovesBothWays db tx then .internal
        else if watchedSpent db tx = 0 then .incoming
        else .outgoing) ↔
      (WhollyOwned db tx ↔ MovesBothWays db tx) := by
  rw [DirectionLaw]
  by_cases both : MovesBothWays db tx
  · rw [if_pos both]
    simp only [both, true_iff, iff_true, and_iff_left_iff_imp]
    intro owned foreign
    exact absurd owned foreign
  · have oneSided := both
    rw [MovesBothWays] at oneSided
    have notInternal : (if watchedSpent db tx = 0 then Direction.incoming else .outgoing) ≠
        .internal := by
      split <;> simp
    have more (gains : watchedSpent db tx < watchedReceived db tx) :
        (if watchedSpent db tx = 0 then Direction.incoming else .outgoing) = .incoming :=
      if_pos (by omega)
    have less (loses : watchedReceived db tx < watchedSpent db tx) :
        (if watchedSpent db tx = 0 then Direction.incoming else .outgoing) = .outgoing :=
      if_neg (by omega)
    rw [if_neg both]
    constructor
    · rintro ⟨sameInternal, -⟩
      rw [← sameInternal]
      exact iff_of_false notInternal both
    · intro sameBoth
      exact ⟨iff_of_false notInternal (mt sameBoth.mp both), fun _ => ⟨more, less⟩⟩

end Inferred

/-! ### What the call creates -/

namespace Processed

variable {db db' : Database} {tx : DecodedTx} {ctx : TxContext} {result : TxProcessingResult}
  {direction : Direction} {postings : List Posting}

/-- The new entries are those of the postings. -/
theorem mem_created (processed : Processed db tx ctx db' result direction postings)
    {entry : LedgerEntryRow} :
    (entry ∈ db'.ledgerEntries.rows ∧ db.ledgerEntries.get? entry.id = none) ↔
      ∃ posting ∈ postings, posting.entry tx ctx direction = entry := by
  have keysNodup := db'.ledgerEntries.keysNodup
  rw [processed.books.entries, List.map_append, List.nodup_append] at keysNodup
  rw [processed.books.entries, List.mem_append, List.mem_map, Table.get?_eq_none_iff]
  constructor
  · rintro ⟨stored | ⟨posting, member, same⟩, fresh⟩
    · exact absurd (List.mem_map.mpr ⟨entry, stored, rfl⟩) fresh
    · exact ⟨posting, member, same⟩
  · rintro ⟨posting, member, same⟩
    refine ⟨.inr ⟨posting, member, same⟩, fun stored => ?_⟩
    exact keysNodup.2.2 _ stored (key entry)
      (List.mem_map.mpr ⟨entry, List.mem_map.mpr ⟨posting, member, same⟩, rfl⟩) rfl

/-- Something is created exactly when a touched holding needs an entry. -/
theorem creates_iff (processed : Processed db tx ctx db' result direction postings) :
    (∃ posting, posting ∈ postings) ↔
      ∃ holdingId ∈ affectedHoldings db tx,
        NeedsEntry db tx (watchedOutputs db tx) holdingId := by
  have holders (holdingId : Uuid) : (∃ posting ∈ postings, posting.holdingId = holdingId) ↔
      holdingId ∈ affectedHoldings db tx ∧
        NeedsEntry db tx (watchedOutputs db tx) holdingId := by
    rw [← List.mem_map, processed.holders, List.mem_filter, ctx.setOrder.mem, decide_eq_true_iff]
  constructor
  · rintro ⟨posting, member⟩
    exact ⟨_, (holders posting.holdingId).mp ⟨posting, member, rfl⟩⟩
  · rintro ⟨holdingId, needed⟩
    obtain ⟨posting, member, -⟩ := (holders holdingId).mpr needed
    exact ⟨posting, member⟩

end Processed

/-- The call creates its entries, whatever the signs of the holdings' nets, and gives them the
    direction of the rule exactly when it creates none or the transaction is wholly among the
    user's coins and addresses just when watched value moves both ways. -/
theorem entryDirections_iff {bdk : Bdk Psbt Tx} {chain : Chain} {db : Database}
    (reached : Reached bdk chain db) (tx : DecodedTx) (ctx : TxContext) :
    ∃ db' result, processDecodedTransaction db tx ctx = .ok (db', result) ∧
      ((∀ entry ∈ db'.ledgerEntries.rows, db.ledgerEntries.get? entry.id = none →
          DirectionLaw db tx entry.direction) ↔
        ((∃ holdingId ∈ affectedHoldings db tx,
            NeedsEntry db tx (watchedOutputs db tx) holdingId) →
          (WhollyOwned db tx ↔ MovesBothWays db tx))) := by
  have wellFormed := (sound_of_reached reached).wellFormed
  obtain ⟨db', result, postings, run, processed⟩ := processDecodedTransaction_staged
    wellFormed.holderOfCoin (wellFormed.ledger.admits tx.txid) ctx
  refine ⟨db', result, run, ?_⟩
  rw [← directionLaw_iff, ← stageDirection_eq wellFormed.holderOfCoin ctx,
    ← processed.creates_iff]
  constructor
  · rintro law ⟨posting, member⟩
    obtain ⟨stored, fresh⟩ := processed.mem_created.mpr ⟨posting, member, rfl⟩
    exact law _ stored fresh
  · intro law entry stored fresh
    obtain ⟨posting, member, rfl⟩ := processed.mem_created.mp ⟨stored, fresh⟩
    exact law ⟨posting, member⟩

/-- A holding pays 60 000 sats to a stranger, with change: neither all its own, nor internal. -/
def paymentWithChange : DecodedTx where
  txid := .repeated 'b'
  hex := "00"
  vin := [⟨some (.repeated 'a'), some 0⟩]
  vout := [⟨some 60000, some 0, some "bcrt1qstranger"⟩, ⟨some 30000, some 1, some "bcrt1qa"⟩]
  prevoutsNodup := sampleTransfer.prevoutsNodup
  indicesNodup := sampleTransfer.indicesNodup
  noSelfSpend := sampleTransfer.noSelfSpend

/-- A transfer to the other holding with change is internal, and entirely the user's. -/
theorem entryDirections_iff_transfer :
    ∃ db' result,
      processDecodedTransaction paymentSeen sampleTransfer (sampleCall none) = .ok (db', result) ∧
        ((∀ entry ∈ db'.ledgerEntries.rows, paymentSeen.ledgerEntries.get? entry.id = none →
            DirectionLaw paymentSeen sampleTransfer entry.direction) ↔
          ((∃ holdingId ∈ affectedHoldings paymentSeen sampleTransfer,
              NeedsEntry paymentSeen sampleTransfer
                (watchedOutputs paymentSeen sampleTransfer) holdingId) →
            (WhollyOwned paymentSeen sampleTransfer ↔
              MovesBothWays paymentSeen sampleTransfer))) :=
  entryDirections_iff (reached_of_legal sampleBdk paymentOperations_legal) sampleTransfer
    (sampleCall none)

/-- Change makes the payment to the stranger internal. -/
theorem change_makes_internal :
    Reached sampleBdk sampleChain paymentSeen ∧
      ∃ db' result,
        processDecodedTransaction paymentSeen paymentWithChange (sampleCall none) =
            .ok (db', result) ∧
          ¬∀ entry ∈ db'.ledgerEntries.rows, paymentSeen.ledgerEntries.get? entry.id = none →
            DirectionLaw paymentSeen paymentWithChange entry.direction := by
  have reached : Reached sampleBdk sampleChain paymentSeen :=
    reached_of_legal sampleBdk paymentOperations_legal
  refine ⟨reached, ?_⟩
  have wellFormed := (sound_of_reached reached).wellFormed
  obtain ⟨db', result, -, -, run, -⟩ :=
    processDecodedTransaction_spec wellFormed paymentWithChange (sampleCall none)
  refine ⟨db', result, run, fun law => ?_⟩
  have internal : (processDecodedTransaction paymentSeen paymentWithChange
      (sampleCall none)).toOption.map (fun processed =>
        decide (∃ entry ∈ processed.1.ledgerEntries.rows,
          paymentSeen.ledgerEntries.get? entry.id = none ∧ entry.direction = .internal)) =
      some true := by decide +kernel
  rw [run] at internal
  obtain ⟨entry, stored, fresh, isInternal⟩ := of_decide_eq_true (Option.some.inj internal)
  have owned := (law entry stored fresh).1.mp isInternal
  exact absurd owned (by decide +kernel)

end TallyKeep
