/-
Module: TallyKeep.Proofs.HoldingHistory
Layer: Proofs
Purpose: The records of a holding only grow: along every run of the program that does not delete the
  holding, its coins, ledger entries and links stay, whatever happens to other holdings.
Trusted boundary: none
Main exports: CoinGrows, RecordsGrow, HoldingGrows, RecordsGrow.of_step, holdingGrows_of_run
-/
import TallyKeep.Proofs.PaymentLifecycle

namespace TallyKeep

open Relational Transition

/-- What may change of a recorded coin: it is spent, once, it gets its height, once, and it is
    frozen or not. -/
structure CoinGrows (before after : UtxoRow) : Prop where
  outpoint : after.outpoint = before.outpoint
  descriptorId : after.descriptorId = before.descriptorId
  addressId : after.addressId = before.addressId
  valueSats : after.valueSats = before.valueSats
  spent : ∀ txid, before.spentInTxid = some txid → after.spentInTxid = some txid
  confirmed : ∀ height, before.confirmationHeight = some height →
    after.confirmationHeight = some height

namespace CoinGrows

theorem refl (row : UtxoRow) : CoinGrows row row := ⟨rfl, rfl, rfl, rfl, fun _ => id, fun _ => id⟩

/-- What a coin keeps from stretch to stretch it keeps throughout. -/
theorem trans {before middle after : UtxoRow} (first : CoinGrows before middle)
    (second : CoinGrows middle after) : CoinGrows before after where
  outpoint := second.outpoint.trans first.outpoint
  descriptorId := second.descriptorId.trans first.descriptorId
  addressId := second.addressId.trans first.addressId
  valueSats := second.valueSats.trans first.valueSats
  spent txid was := second.spent txid (first.spent txid was)
  confirmed height was := second.confirmed height (first.confirmed height was)

/-- A spent coin has grown. -/
theorem markSpent (row : UtxoRow) (txid : Txid) : CoinGrows row (row.markSpent txid) where
  outpoint := row.markSpent_outpoint txid
  descriptorId := row.markSpent_descriptorId txid
  addressId := row.markSpent_addressId txid
  valueSats := row.markSpent_valueSats txid
  spent spender was := by rw [row.markSpent_spentInTxid, was, Option.some_or]
  confirmed height was := by
    rw [UtxoRow.markSpent]
    split <;> exact was

theorem refreshHeight (row : UtxoRow) (height : Option Nat) :
    CoinGrows row (row.refreshHeight height) := by
  rw [UtxoRow.refreshHeight]
  split
  · rename_i stale
    refine ⟨rfl, rfl, rfl, rfl, fun _ => id, fun height was => ?_⟩
    cases stale.2.symm.trans was
  · exact .refl row

end CoinGrows

/-- What later states keep when nothing is deleted. -/
structure RecordsGrow (db db' : Database) : Prop where
  descriptors : ∀ descriptorId holdingId, db.holdingOf descriptorId = some holdingId →
    db'.holdingOf descriptorId = some holdingId
  coins : ∀ outpoint before, db.coinAt outpoint = some before →
    ∃ after, db'.coinAt outpoint = some after ∧ CoinGrows before after
  links : ∀ key link, db.ledgerLinks.get? key = some link → db'.ledgerLinks.get? key = some link
  entries : ∀ entryId entry, db.ledgerEntries.get? entryId = some entry →
    db'.ledgerEntries.get? entryId = some entry

/-- What later states keep of the records of a holding that is not deleted. -/
structure HoldingGrows (holdingId : Uuid) (db db' : Database) : Prop where
  descriptors : ∀ descriptorId, db.holdingOf descriptorId = some holdingId →
    db'.holdingOf descriptorId = some holdingId
  coins : ∀ outpoint before, db.coinAt outpoint = some before →
    db.holdingOf before.descriptorId = some holdingId →
      ∃ after, db'.coinAt outpoint = some after ∧ CoinGrows before after
  links : ∀ entryId link, db.ledgerLinks.get? (entryId, holdingId) = some link →
    db'.ledgerLinks.get? (entryId, holdingId) = some link
  entries : ∀ entryId link entry, db.ledgerLinks.get? (entryId, holdingId) = some link →
    db.ledgerEntries.get? entryId = some entry → db'.ledgerEntries.get? entryId = some entry

/-- What is kept of all records is kept of those of one holding. -/
theorem RecordsGrow.holding {db db' : Database} (grows : RecordsGrow db db') (holdingId : Uuid) :
    HoldingGrows holdingId db db' where
  descriptors descriptorId := grows.descriptors descriptorId holdingId
  coins outpoint before known _ := grows.coins outpoint before known
  links _ link := grows.links _ link
  entries entryId _ entry _ := grows.entries entryId entry

/-- What a holding keeps from stretch to stretch it keeps throughout. -/
theorem HoldingGrows.trans {holdingId : Uuid} {db db' db'' : Database}
    (first : HoldingGrows holdingId db db') (second : HoldingGrows holdingId db' db'') :
    HoldingGrows holdingId db db'' where
  descriptors _ held := second.descriptors _ (first.descriptors _ held)
  coins outpoint before known held := by
    obtain ⟨middle, found, grown⟩ := first.coins outpoint before known held
    have heldMiddle : db'.holdingOf middle.descriptorId = some holdingId := by
      rw [grown.descriptorId]
      exact first.descriptors _ held
    obtain ⟨after, found', grown'⟩ := second.coins outpoint middle found heldMiddle
    exact ⟨after, found', grown.trans grown'⟩
  links _ _ linked := second.links _ _ (first.links _ _ linked)
  entries entryId link entry linked stored :=
    second.entries entryId link entry (first.links _ _ linked)
      (first.entries entryId link entry linked stored)

namespace RecordsGrow

variable {db db' db'' : Database}

/-- What the records keep from stretch to stretch they keep throughout. -/
theorem trans (first : RecordsGrow db db') (second : RecordsGrow db' db'') :
    RecordsGrow db db'' where
  descriptors _ _ held := second.descriptors _ _ (first.descriptors _ _ held)
  coins outpoint before known := by
    obtain ⟨middle, found, grown⟩ := first.coins outpoint before known
    obtain ⟨after, found', grown'⟩ := second.coins outpoint middle found
    exact ⟨after, found', grown.trans grown'⟩
  links _ _ linked := second.links _ _ (first.links _ _ linked)
  entries _ _ stored := second.entries _ _ (first.entries _ _ stored)

theorem of_sameDescriptors (sameDescriptors : db'.descriptors = db.descriptors)
    (coins : ∀ outpoint before, db.coinAt outpoint = some before →
      ∃ after, db'.coinAt outpoint = some after ∧ CoinGrows before after)
    (links : ∀ key link, db.ledgerLinks.get? key = some link →
      db'.ledgerLinks.get? key = some link)
    (entries : ∀ entryId entry, db.ledgerEntries.get? entryId = some entry →
      db'.ledgerEntries.get? entryId = some entry) : RecordsGrow db db' := by
  refine ⟨?_, coins, links, entries⟩
  intro descriptorId holdingId held
  rw [Database.holdingOf, sameDescriptors]
  exact held

theorem of_tables (sameDescriptors : db'.descriptors = db.descriptors)
    (sameUtxos : db'.utxos = db.utxos) (sameEntries : db'.ledgerEntries = db.ledgerEntries)
    (sameLinks : db'.ledgerLinks = db.ledgerLinks) : RecordsGrow db db' := by
  apply of_sameDescriptors sameDescriptors
  · intro outpoint before known
    refine ⟨before, ?_, .refl before⟩
    rw [Database.coinAt, sameUtxos]
    exact known
  · rw [sameLinks]
    exact fun _ _ => id
  · rw [sameEntries]
    exact fun _ _ => id

theorem refl (db : Database) : RecordsGrow db db := of_tables rfl rfl rfl rfl

/-! ### One operation -/

/-- Freezing lets the records grow. -/
theorem freeze (db : Database) (frozenAt : Outpoint) (frozen : Bool) :
    RecordsGrow db (UtxoRepo.freeze db frozenAt frozen) := by
  refine of_sameDescriptors ?_ ?_ ?_ ?_
  · rfl
  · intro outpoint before known
    rw [coinAt_freeze, known]
    split
    · exact ⟨_, rfl, ⟨rfl, rfl, rfl, rfl, fun _ => id, fun _ => id⟩⟩
    · exact ⟨before, rfl, .refl before⟩
  · exact fun _ _ => id
  · exact fun _ _ => id

theorem registered {spec : DescriptorSpec} {owner : Uuid}
    (run : registerDescriptor db owner spec = .ok db') : RecordsGrow db db' := by
  simp only [registerDescriptor] at run
  split at run
  · cases run
  · split at run
    · cases run
    · cases run
      have descriptors : ∀ descriptorId row, db.descriptors.get? descriptorId = some row →
          (db.descriptors.insert ⟨db.descriptors.freshKey, owner, spec.expression,
            spec.changeExpression, spec.network, spec.addressType, spec.gapLimit, 0⟩).get?
              descriptorId = some row := fun _ _ => Table.get?_insert_of_get?
      refine ⟨?_, fun _ before known => ⟨before, known, .refl before⟩, fun _ _ => id,
        fun _ _ => id⟩
      intro descriptorId holdingId held
      obtain ⟨row, stored, owned⟩ := Option.map_eq_some_iff.mp held
      rw [Database.holdingOf, descriptors descriptorId row stored, Option.map_some, owned]

theorem processed {tx : DecodedTx} {ctx : TxContext} {result : TxProcessingResult}
    {direction : Direction} {postings : List Posting}
    (processed : Processed db tx ctx db' result direction postings) :
    RecordsGrow db db' := by
  refine of_sameDescriptors processed.descriptors ?_ ?_ ?_
  · intro outpoint before known
    rw [processed.coins, known, coinAfter, recordedAt]
    split
    · exact ⟨_, rfl, .markSpent before tx.txid⟩
    · split
      · exact ⟨before, rfl, .refl before⟩
      · exact ⟨_, rfl, .refreshHeight before ctx.confirmationHeight⟩
  · intro key link linked
    exact Table.get?_of_append processed.books.links linked
  · intro entryId entry stored
    exact Table.get?_of_append processed.books.entries stored

theorem handled {tx : DecodedTx} {ctx : TxContext} {direction : Direction}
    {postings : List Posting} (handled : Handled db tx ctx db' direction postings) :
    RecordsGrow db db' := by
  obtain ⟨chainDb, result, done, tables⟩ := handled.processed
  apply (RecordsGrow.processed done).trans
  rw [tables]
  exact of_tables rfl rfl rfl rfl

/-- The ledger step of a scan adds an entry with its link, a link, or nothing. -/
theorem maybeCreateLedgerEntry {descriptor : DescriptorRow} {txid : Txid} {valueSats : Nat}
    {now : Timestamp}
    (run : TallyKeep.maybeCreateLedgerEntry db descriptor txid valueSats now = .ok db') :
    RecordsGrow db db' := by
  rw [TallyKeep.maybeCreateLedgerEntry, bind_ok_iff] at run
  obtain ⟨found, -, run⟩ := run
  cases found with
  | none =>
      simp only [bind_ok_iff] at run
      obtain ⟨entry, -, run⟩ := run
      cases run
      exact of_sameDescriptors rfl (fun _ before known => ⟨before, known, .refl before⟩)
        (fun _ _ => Table.get?_insert_of_get?) (fun _ _ => Table.get?_insert_of_get?)
  | some existing =>
      simp only at run
      split at run
      · cases run
        exact .refl db
      · cases run
        exact of_sameDescriptors rfl (fun _ before known => ⟨before, known, .refl before⟩)
          (fun _ _ => Table.get?_insert_of_get?) (fun _ _ => id)

theorem recordUnspent {node : ScanNode} {descriptor : DescriptorRow} {address : AddressRow}
    {unspent : ScanUtxo} (unknown : db.utxos.get? ⟨unspent.txid, unspent.vout⟩ = none)
    (run : TallyKeep.recordUnspent node descriptor address unspent db = .ok db') :
    RecordsGrow db db' := by
  change TallyKeep.maybeCreateLedgerEntry (coinStage node descriptor address unspent db) descriptor
    unspent.txid unspent.amountSats node.now = .ok db' at run
  obtain ⟨sameDescriptors, -, sameEntries, sameLinks⟩ :=
    @coinStage_tables node descriptor address unspent db unknown
  apply RecordsGrow.trans _ (RecordsGrow.maybeCreateLedgerEntry run)
  apply of_sameDescriptors sameDescriptors
  · intro outpoint before known
    refine ⟨before, ?_, .refl before⟩
    rw [coinAt_coinStage unknown, if_neg, known]
    rintro rfl
    rw [Database.coinAt_eq_none_iff.mpr unknown] at known
    cases known
  · rw [sameLinks]
    exact fun _ _ => id
  · rw [sameEntries]
    exact fun _ _ => id

theorem scanned {node : ScanNode} {descriptor : DescriptorRow} {report : ScanReport}
    (run : initialScan node db descriptor = .ok (db', report)) : RecordsGrow db db' := by
  obtain ⟨scanned, height, grown, rfl⟩ := initialScan_invariant
    (I := fun middle => RecordsGrow db middle)
    (fun _ _ _ _ before unknown _ recorded => before.trans (.recordUnspent unknown recorded)) run
    (.refl db)
  apply grown.trans
  refine ⟨?_, fun _ before known => ⟨before, known, .refl before⟩, fun _ _ => id,
    fun _ _ => id⟩
  intro descriptorId holdingId held
  obtain ⟨row, stored, owned⟩ := Option.map_eq_some_iff.mp held
  simp only [Database.holdingOf, Table.get?_update]
  split
  · rename_i same
    rw [← same, stored]
    exact congrArg some owned
  · rw [stored]
    exact congrArg some owned

end RecordsGrow

/-- The deletion of another holding leaves the records of this one. -/
theorem HoldingGrows.deleted {holdingId : Uuid} {db : Database} {other : Uuid}
    (different : other ≠ holdingId) (policyIds : List Uuid) :
    HoldingGrows holdingId db (deletionResult db other policyIds) := by
  have keptLink : ∀ entryId link, db.ledgerLinks.get? (entryId, holdingId) = some link →
      link ∈ db.ledgerLinks.rows ∧ link.ledgerEntryId = entryId ∧ link.holdingId = holdingId := by
    intro entryId link linked
    have named := Prod.mk.inj (Table.key_of_get? linked)
    exact ⟨Table.mem_of_get? linked, named.1, named.2⟩
  have notHeld : ∀ descriptorId, db.holdingOf descriptorId = some holdingId →
      db.heldBy other descriptorId = false := by
    intro descriptorId held
    rw [Database.heldBy, held]
    exact decide_eq_false fun same => different (Option.some.inj same).symm
  refine ⟨?_, ?_, ?_, ?_⟩
  · intro descriptorId held
    rw [holdingOf_deletionResult, notHeld descriptorId held]
    exact held
  · intro outpoint before known held
    refine ⟨before, ?_, .refl before⟩
    obtain ⟨row, stored, rfl⟩ := Option.map_eq_some_iff.mp known
    have kept := notHeld row.descriptorId held
    simp only [Database.coinAt, deletionResult, Table.get?_delete, stored, Option.filter_some, kept]
    rfl
  · intro entryId link linked
    obtain ⟨-, -, owned⟩ := keptLink entryId link linked
    simp only [deletionResult, Table.get?_delete, linked, Option.filter_some, owned]
    rw [if_pos]
    simpa using different.symm
  · intro entryId link entry linked stored
    obtain ⟨present, named, owned⟩ := keptLink entryId link linked
    rw [← named] at stored ⊢
    rw [get?_entry_deletionResult present (owned ▸ different.symm)]
    exact stored

variable {Psbt Tx : Type} {bdk : Bdk Psbt Tx} {chain : Chain}

/-- Every operation that deletes nothing keeps all records. -/
theorem RecordsGrow.of_step {db : Database} (wellFormed : ChainWellFormed db)
    {operation : Operation} (keeps : ¬operation.Deletes) :
    RecordsGrow db (step bdk db operation) := by
  have effect := chainEffect_of_step bdk wellFormed operation
  generalize step bdk db operation = db' at effect
  cases effect with
  | kept descriptors _ utxos _ entries links => exact .of_tables descriptors utxos entries links
  | registered run => exact .registered run
  | deleted other policyIds => exact absurd trivial keeps
  | scanned found run => exact .scanned run
  | frozen outpoint frozen => exact .freeze db outpoint frozen
  | invoiced run =>
      rw [createInvoice, bind_ok_iff] at run
      obtain ⟨address, -, run⟩ := run
      rw [bind_ok_iff] at run
      obtain ⟨invoice, -, run⟩ := run
      cases run
      exact .of_tables rfl rfl rfl rfl
  | handled handled => exact .handled handled

/-- The operation does not delete the holding. -/
def Operation.Spares (holdingId : Uuid) : Operation → Prop
  | .deleteHolding other _ => other ≠ holdingId
  | _ => True

/-- A deletion is rolled back, or leaves what it has not deleted. -/
theorem step_deleteHolding (bdk : Bdk Psbt Tx) (db : Database) (other : Uuid)
    (policyIds : List Uuid) :
    step bdk db (.deleteHolding other policyIds) = db ∨
      entryStillReferenced db other = false ∧
        step bdk db (.deleteHolding other policyIds) = deletionResult db other policyIds := by
  rw [step, perform, deleteHolding]
  split
  · exact .inl rfl
  · split
    · exact .inl rfl
    · split
      · exact .inl rfl
      · rename_i unreferenced
        exact .inr ⟨by simpa using unreferenced, rfl⟩

/-- Every operation that does not delete the holding keeps its records. -/
theorem HoldingGrows.of_step {holdingId : Uuid} {db : Database} (wellFormed : ChainWellFormed db)
    {operation : Operation} (spares : operation.Spares holdingId) :
    HoldingGrows holdingId db (step bdk db operation) := by
  cases operation with
  | deleteHolding other policyIds =>
      rcases step_deleteHolding bdk db other policyIds with same | ⟨-, after⟩
      · rw [same]
        exact (RecordsGrow.refl db).holding holdingId
      · rw [after]
        exact .deleted spares policyIds
  | _ =>
      refine (RecordsGrow.of_step wellFormed ?_).holding holdingId
      exact id

/-- The records of a holding only grow: along a run that does not delete the holding, its coins keep
    their values, spenders and heights, and its ledger entries and links stay as they are. -/
theorem holdingGrows_of_run {db db' : Database} (reached : Reached bdk chain db) {holdingId : Uuid}
    {operations : List Operation} (run : Run (SystemStep bdk chain) db operations db')
    (spared : ∀ operation ∈ operations, operation.Spares holdingId) :
    HoldingGrows holdingId db db' := by
  have sound := sound_of_reached reached
  clear reached
  induction run with
  | stop db => exact (RecordsGrow.refl db).holding holdingId
  | cons taken _ inductionHypothesis =>
      have next := sound_step _ _ _ sound taken
      obtain ⟨-, rfl⟩ := taken
      exact (HoldingGrows.of_step sound.wellFormed (spared _ List.mem_cons_self)).trans
        (inductionHypothesis (fun operation later => spared operation
          (List.mem_cons_of_mem _ later)) next)

/-- The receiver of a transfer is deleted: the records of the payer are kept. -/
theorem holdingGrows_of_deletion :
    HoldingGrows 10 (transferBroadcast 10 20)
      (step sampleBdk (transferBroadcast 10 20) (.deleteHolding 20 [])) := by
  apply @holdingGrows_of_run _ _ _ _ _ _ (transferBroadcast_reached 10 20) _ [.deleteHolding 20 []]
    (.single ⟨trivial, rfl⟩)
  intro operation listed
  obtain rfl := List.mem_singleton.mp listed
  change (20 : Nat) ≠ 10
  decide

end TallyKeep
