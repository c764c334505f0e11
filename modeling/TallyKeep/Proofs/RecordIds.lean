/-
Module: TallyKeep.Proofs.RecordIds
Layer: Proofs
Purpose: The ids of coins and ledger entries: no operation that deletes nothing changes one, and the
  new ones are those that the listener reports or a scan records.
Trusted boundary: none
Main exports: CoinVersion, coinIds, entryIds, RecordsExtended, recordsExtended_of_handled,
  recordsExtended_of_step
-/
import TallyKeep.Library.History
import TallyKeep.Proofs.HoldingHistory
import TallyKeep.Workers.ListenerLoop

namespace TallyKeep

open History Relational

/-! ### Versions of a coin -/

/-- A later version of a recorded coin. -/
structure CoinVersion (before after : UtxoRow) : Prop extends CoinGrows before after where
  id : after.id = before.id

namespace CoinVersion

theorem refl (row : UtxoRow) : CoinVersion row row := ⟨.refl row, rfl⟩

/-- Versions of versions of a coin are versions of it. -/
theorem trans (first middle last : UtxoRow) (one : CoinVersion first middle)
    (two : CoinVersion middle last) : CoinVersion first last :=
  ⟨one.toCoinGrows.trans two.toCoinGrows, two.id.trans one.id⟩

theorem keyed (before after : UtxoRow) (version : CoinVersion before after) :
    after.id = before.id := version.id

theorem markSpent (row : UtxoRow) (txid : Txid) : CoinVersion row (row.markSpent txid) := by
  refine ⟨.markSpent row txid, ?_⟩
  rw [UtxoRow.markSpent]
  split <;> rfl

theorem refreshHeight (row : UtxoRow) (height : Option Nat) :
    CoinVersion row (row.refreshHeight height) := by
  refine ⟨.refreshHeight row height, ?_⟩
  rw [UtxoRow.refreshHeight]
  split <;> rfl

/-- A rewrite that touches neither the record nor its history. -/
theorem flagged (row : UtxoRow) (flags : List HygieneFlag) :
    CoinVersion row { row with hygieneFlags := flags } :=
  ⟨⟨rfl, rfl, rfl, rfl, fun _ was => was, fun _ was => was⟩, rfl⟩

theorem flagReused (row : UtxoRow) : CoinVersion row row.flagReused := by
  rw [UtxoRow.flagReused]
  split
  · exact .refl row
  · exact .flagged row _

end CoinVersion

/-! ### Tables that are extended -/

def coinIds (db : Database) : List Uuid := db.utxos.rows.map UtxoRow.id

def entryIds (db : Database) : List Uuid := db.ledgerEntries.rows.map LedgerEntryRow.id

/-- Coins and entries of the second database: those of the first, the coins in later versions, and
    new ones with the ids listed. -/
structure RecordsExtended (db db' : Database) (coins entries : List Uuid) : Prop where
  coins : Extended CoinVersion UtxoRow.id db.utxos.rows db'.utxos.rows coins
  entries : Extended Eq LedgerEntryRow.id db.ledgerEntries.rows db'.ledgerEntries.rows entries
  nodup : (coinIds db).Nodup → (coinIds db').Nodup

namespace RecordsExtended

theorem entry_keyed (entry entry' : LedgerEntryRow) (same : entry = entry') :
    entry'.id = entry.id :=
  congrArg LedgerEntryRow.id same.symm

variable {db db' db'' : Database} {coins entries laterCoins laterEntries : List Uuid}

/-- The ids of the coins grow by the new ones. -/
theorem coinIds_eq (extended : RecordsExtended db db' coins entries) :
    coinIds db' = coinIds db ++ coins :=
  extended.coins.keys CoinVersion.keyed

/-- The ids of the entries grow by the new ones. -/
theorem entryIds_eq (extended : RecordsExtended db db' coins entries) :
    entryIds db' = entryIds db ++ entries :=
  extended.entries.keys entry_keyed

theorem of_same (utxos : db'.utxos = db.utxos)
    (ledgerEntries : db'.ledgerEntries = db.ledgerEntries) :
    RecordsExtended db db' [] [] := by
  refine ⟨?_, ?_, ?_⟩
  · rw [utxos]
    exact .refl CoinVersion.refl _
  · rw [ledgerEntries]
    exact .refl Eq.refl _
  · rw [coinIds, coinIds, utxos]
    exact id

theorem entry_postInit_ok {row row' : LedgerEntryRow} (run : row.postInit = .ok row') :
    row' = row := by
  rw [LedgerEntryRow.postInit] at run
  split at run
  · cases run
  · split at run
    · cases run
    · split at run
      · cases run
      · exact (Except.ok.inj run).symm

theorem refl (db : Database) : RecordsExtended db db [] [] := of_same rfl rfl

/-- What two stretches add is added one after the other. -/
theorem trans (first : RecordsExtended db db' coins entries)
    (second : RecordsExtended db' db'' laterCoins laterEntries) :
    RecordsExtended db db'' (coins ++ laterCoins) (entries ++ laterEntries) where
  coins := first.coins.trans CoinVersion.keyed CoinVersion.trans second.coins
  entries := first.entries.trans entry_keyed (fun _ _ _ => Eq.trans) second.entries
  nodup distinct := second.nodup (first.nodup distinct)

/-- What is written after is of no account when it is neither a coin nor an entry. -/
theorem then_same (extended : RecordsExtended db db' coins entries)
    (utxos : db''.utxos = db'.utxos) (ledgerEntries : db''.ledgerEntries = db'.ledgerEntries) :
    RecordsExtended db db'' coins entries := by
  have both := extended.trans (of_same utxos ledgerEntries)
  rwa [List.append_nil, List.append_nil] at both

/-- Every coin is rewritten into a later version. -/
theorem of_rewrite {f : UtxoRow → UtxoRow} (versions : ∀ row, CoinVersion row (f row))
    (utxos : db'.utxos.rows = db.utxos.rows.map f)
    (ledgerEntries : db'.ledgerEntries = db.ledgerEntries) :
    RecordsExtended db db' [] [] := by
  refine ⟨?_, ?_, ?_⟩
  · rw [utxos]
    exact .of_map fun row _ => versions row
  · rw [ledgerEntries]
    exact .refl Eq.refl _
  · rw [coinIds, coinIds, utxos, List.map_map]
    have same : UtxoRow.id ∘ f = UtxoRow.id := funext fun row => (versions row).id
    rw [same]
    exact id

/-- Some coins are rewritten into later versions. -/
theorem of_update {f : UtxoRow → UtxoRow} {outpoint : Outpoint}
    {keeps : ∀ row, (f row).outpoint = row.outpoint} (versions : ∀ row, CoinVersion row (f row)) :
    RecordsExtended db { db with utxos := db.utxos.update outpoint f keeps } [] [] := by
  refine @of_rewrite db { db with utxos := db.utxos.update outpoint f keeps }
    (fun row => if key row = outpoint then f row else row) ?_ rfl rfl
  intro row
  split
  · exact versions row
  · exact .refl row

/-- A coin that was not known is recorded under a fresh id. -/
theorem of_insert {row : UtxoRow} (unknown : db.utxos.get? row.outpoint = none)
    (fresh : row.id = UtxoRepo.freshId db) :
    RecordsExtended db { db with utxos := db.utxos.insert row } [row.id] [] := by
  have rows : (db.utxos.insert row).rows = db.utxos.rows ++ [row] :=
    Table.rows_insert_of_fresh unknown
  refine ⟨?_, .refl Eq.refl _, ?_⟩
  · simp only
    rw [rows]
    exact .append CoinVersion.refl _ [row]
  · intro distinct
    rw [coinIds, rows, List.map_append, List.nodup_append]
    refine ⟨distinct, List.nodup_singleton _, ?_⟩
    intro known among other isNew same
    rw [List.mem_singleton.mp isNew, fresh, UtxoRepo.freshId] at same
    have bound := Table.le_foldr_max among
    rw [same] at bound
    exact Nat.not_succ_le_self _ bound

/-- Flags add no records. -/
theorem applyFlags (db : Database) (utxo : UtxoRow) (context : HygieneContext) :
    RecordsExtended db (applyFlagsAndPropagateReuse db utxo context) [] [] := by
  have flagged : RecordsExtended db { db with
      utxos := db.utxos.update utxo.outpoint fun row =>
        { row with hygieneFlags := computeFlags db utxo context } } [] [] :=
    of_update fun row => .flagged row _
  simp only [applyFlagsAndPropagateReuse]
  split
  · refine flagged.trans (of_rewrite (f := fun row =>
      if row.addressId = utxo.addressId ∧ row.outpoint ≠ utxo.outpoint then row.flagReused
      else row) ?_ rfl rfl)
    intro row
    split
    · exact .flagReused row
    · exact .refl row
  · exact flagged

/-! ### The listener -/

/-- Spending adds no records. -/
theorem markInputs (db : Database) (tx : DecodedTx) :
    RecordsExtended db (markInputsSpent db tx).db [] [] := by
  rw [markInputsSpent_db]
  refine @of_rewrite db _ tx.markRow ?_ rfl rfl
  intro row
  rw [DecodedTx.markRow]
  split
  · exact .markSpent row tx.txid
  · exact .refl row

/-- One round adds the coin whose id it collects, or none. -/
theorem recordOutput (tx : DecodedTx) (ctx : TxContext) (acc : Database × List Uuid)
    (found : DiscoveredOutput) :
    ∃ more, (TallyKeep.recordOutput tx ctx acc found).2 = acc.2 ++ more ∧
      RecordsExtended acc.1 (TallyKeep.recordOutput tx ctx acc found).1 more [] := by
  simp only [TallyKeep.recordOutput]
  split
  · rename_i unknown
    refine ⟨_, rfl, ?_⟩
    exact (of_insert unknown rfl).trans (applyFlags _ _ _)
  · refine ⟨[], (List.append_nil _).symm, ?_⟩
    exact of_update fun row => .refreshHeight row ctx.confirmationHeight

/-- The rounds add the coins whose ids they collect. -/
theorem recordOutputs (tx : DecodedTx) (ctx : TxContext) (discovered : List DiscoveredOutput)
    (acc : Database × List Uuid) :
    ∃ more, (discovered.foldl (TallyKeep.recordOutput tx ctx) acc).2 = acc.2 ++ more ∧
      RecordsExtended acc.1 (discovered.foldl (TallyKeep.recordOutput tx ctx) acc).1 more [] := by
  induction discovered generalizing acc with
  | nil => exact ⟨[], (List.append_nil _).symm, .refl acc.1⟩
  | cons found rest inductionHypothesis =>
      obtain ⟨first, ids, extended⟩ := recordOutput tx ctx acc found
      obtain ⟨later, laterIds, laterExtended⟩ :=
        inductionHypothesis (TallyKeep.recordOutput tx ctx acc found)
      refine ⟨first ++ later, ?_, extended.trans laterExtended⟩
      rw [List.foldl_cons, laterIds, ids, List.append_assoc]

/-- What a transaction adds is what its result lists. -/
theorem processed {tx : DecodedTx} {ctx : TxContext} {result : TxProcessingResult}
    (wellFormed : ChainWellFormed db)
    (run : processDecodedTransaction db tx ctx = .ok (db', result)) :
    RecordsExtended db db' result.discoveredUtxoIds result.newLedgerEntryIds := by
  obtain ⟨final, finalResult, direction, postings, ends, done⟩ :=
    processDecodedTransaction_spec wellFormed tx ctx
  rw [run] at ends
  cases ends
  have coinsOnly : ∃ middle, middle.utxos = db'.utxos ∧
      RecordsExtended db middle result.discoveredUtxoIds [] := by
    by_cases touched : Touches db tx
    · obtain ⟨more, ids, extended⟩ := recordOutputs tx ctx
        (discoverOutputs (markInputsSpent db tx).db ctx.rowOrder tx)
        (OnchainRepo.upsert (markInputsSpent db tx).db tx.txid tx.rawHex ctx.confirmationHeight
          ctx.blockTime, [])
      have upserted : RecordsExtended (markInputsSpent db tx).db
          (OnchainRepo.upsert (markInputsSpent db tx).db tx.txid tx.rawHex ctx.confirmationHeight
            ctx.blockTime) [] [] := by
        rw [upsert_eq]
        exact .of_same rfl rfl
      have whole := ((markInputs db tx).trans upserted).trans extended
      rw [processDecodedTransaction_of_touches ctx touched] at run
      cases created : createEntries (recordedStage db tx ctx).1 tx ctx
          (discoverOutputs (markInputsSpent db tx).db ctx.rowOrder tx) (stageDirection db tx ctx)
          (ctx.setOrder.enumerate (affectedHoldings db tx)) with
      | error error =>
          rw [created] at run
          cases run
      | ok booked =>
          rw [created] at run
          cases run
          refine ⟨(recordedStage db tx ctx).1, ?_, ?_⟩
          · rw [createEntries_tables created]
          · have named : (recordedStage db tx ctx).2 = more := ids
            rw [stageResult, named]
            exact whole
    · rw [processDecodedTransaction_of_not_touches ctx touched] at run
      cases run
      exact ⟨_, rfl, markInputs db tx⟩
  obtain ⟨middle, same, extended⟩ := coinsOnly
  refine ⟨same ▸ extended.coins, ?_, ?_⟩
  · rw [done.books.entries, done.newLedgerEntryIds]
    have added : Extended Eq LedgerEntryRow.id db.ledgerEntries.rows _ _ :=
      .append Eq.refl db.ledgerEntries.rows (postings.map fun posting =>
        posting.entry tx ctx direction)
    rw [List.map_map] at added
    exact added
  · intro distinct
    have kept := extended.nodup distinct
    rw [coinIds, same] at kept
    exact kept

/-- What the database phase of the listener adds is what its result lists. -/
theorem handled {tx : DecodedTx} {ctx : TxContext} {events : TxEvents}
    (wellFormed : ChainWellFormed db) (run : handleTxDb db tx ctx = .ok (db', events)) :
    RecordsExtended db db' events.result.discoveredUtxoIds events.result.newLedgerEntryIds := by
  cases processedRun : processDecodedTransaction db tx ctx with
  | error error =>
      rw [handleTxDb, processedRun] at run
      cases run
  | ok out =>
      obtain ⟨-, -, -, same⟩ := (handleTxDb_ok_iff_steps processedRun).mp run
      cases same
      apply (processed wellFormed processedRun).then_same
      · rw [afterSweep_tables]
      · rw [afterSweep_tables]

/-! ### Scans -/

/-- A scanned coin adds one coin. -/
theorem coinStage {node : ScanNode} {descriptor : DescriptorRow} {address : AddressRow}
    {unspent : ScanUtxo} (unknown : db.utxos.get? ⟨unspent.txid, unspent.vout⟩ = none) :
    ∃ more,
      RecordsExtended db (TallyKeep.coinStage node descriptor address unspent db) more [] := by
  simp only [TallyKeep.coinStage]
  rw [upsert_eq, upsertUnspent_of_unknown unknown]
  let row := UtxoRow.discovered (UtxoRepo.freshId db) descriptor.id address.id
    ⟨unspent.txid, unspent.vout⟩ unspent.amountSats unspent.confirmationHeight
  have inserted : RecordsExtended db { db with utxos := db.utxos.insert row } [row.id] [] :=
    of_insert unknown rfl
  refine ⟨_, RecordsExtended.trans (then_same inserted ?_ ?_) (applyFlags _ _ _)⟩
  · rfl
  · rfl

/-- The entry of a scanned coin adds one at most. -/
theorem maybeCreateLedgerEntry {descriptor : DescriptorRow} {txid : Txid} {valueSats : Nat}
    {now : Timestamp}
    (run : TallyKeep.maybeCreateLedgerEntry db descriptor txid valueSats now = .ok db') :
    ∃ more, RecordsExtended db db' [] more := by
  rw [TallyKeep.maybeCreateLedgerEntry, bind_ok_iff] at run
  obtain ⟨found, -, run⟩ := run
  cases found with
  | none =>
      simp only [bind_ok_iff] at run
      obtain ⟨entry, valid, run⟩ := run
      cases run
      have fresh : db.ledgerEntries.get? entry.id = none := by
        rw [entry_postInit_ok valid]
        exact Table.get?_freshKey db.ledgerEntries
      refine ⟨[entry.id], .refl CoinVersion.refl _, ?_, id⟩
      simp only [LedgerEntryRepo.insert]
      rw [Table.rows_insert_of_fresh fresh]
      exact .append Eq.refl _ [entry]
  | some existing =>
      simp only at run
      split at run
      · cases run
        exact ⟨[], .refl db⟩
      · cases run
        exact ⟨[], .of_same rfl rfl⟩

/-- A scan adds coins and entries. -/
theorem scanned {node : ScanNode} {descriptor : DescriptorRow} {report : ScanReport}
    (run : initialScan node db descriptor = .ok (db', report)) :
    ∃ coins entries, RecordsExtended db db' coins entries := by
  obtain ⟨scanned, height, ⟨coins, entries, extended⟩, rfl⟩ := initialScan_invariant
    (I := fun middle => ∃ coins entries, RecordsExtended db middle coins entries) (by
      intro middle address unspent after before unknown _ recorded
      obtain ⟨coins, entries, extended⟩ := before
      have coin : ∃ more, RecordsExtended middle (TallyKeep.coinStage node descriptor address
          unspent middle) more [] := coinStage unknown
      obtain ⟨more, staged⟩ := coin
      obtain ⟨moreEntries, booked⟩ := maybeCreateLedgerEntry recorded
      exact ⟨_, _, (extended.trans staged).trans booked⟩) run ⟨[], [], .refl db⟩
  exact ⟨coins, entries, extended.then_same rfl rfl⟩

end RecordsExtended

/-- Looking for coins that bitcoind already knows. -/
def Operation.Scans : Operation → Prop
  | .scanDescriptor _ _ => True
  | _ => False

/-- What the operations other than the listener's add: only a scan adds anything. -/
theorem recordsExtended_of_step {Psbt Tx : Type} (bdk : Bdk Psbt Tx) (db : Database)
    {operation : Operation} (keeps : ¬operation.Deletes) (elsewhere : ¬operation.Handles) :
    ∃ coins entries, RecordsExtended db (step bdk db operation) coins entries ∧
      (¬operation.Scans → coins = [] ∧ entries = []) := by
  have effect := sessionEffect_of_step bdk db operation
  generalize step bdk db operation = db' at effect
  cases effect with
  | kept _ _ utxos _ entries _ =>
      exact ⟨[], [], .of_same utxos entries, fun _ => ⟨rfl, rfl⟩⟩
  | registered run =>
      simp only [registerDescriptor] at run
      split at run
      · cases run
      · split at run
        · cases run
        · cases run
          exact ⟨[], [], .of_same rfl rfl, fun _ => ⟨rfl, rfl⟩⟩
  | deleted other policyIds => exact absurd trivial keeps
  | scanned _ run =>
      obtain ⟨coins, entries, extended⟩ := RecordsExtended.scanned run
      exact ⟨coins, entries, extended, fun quiet => absurd trivial quiet⟩
  | frozen outpoint frozen =>
      refine ⟨[], [], RecordsExtended.of_update fun row => ?_, fun _ => ⟨rfl, rfl⟩⟩
      exact ⟨⟨rfl, rfl, rfl, rfl, fun _ was => was, fun _ was => was⟩, rfl⟩
  | invoiced run =>
      rw [createInvoice, bind_ok_iff] at run
      obtain ⟨address, -, run⟩ := run
      rw [bind_ok_iff] at run
      obtain ⟨invoice, -, run⟩ := run
      cases run
      exact ⟨[], [], .of_same rfl rfl, fun _ => ⟨rfl, rfl⟩⟩
  | handled run => exact absurd trivial elsewhere

end TallyKeep
