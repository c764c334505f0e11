/-
Module: TallyKeep.Proofs.ScanCompleteness
Layer: Proofs
Purpose: What a snapshot scan records of the reported coins, what it counts, and what a second scan
  with the same answers does.
Trusted boundary: none
Main exports: matchedCoins, newCoins, ScanLaw, KnownAgree, ReportsAgree, NewTransactions, Scanned,
  initialScan_scanned, scanLaw_iff
-/
import TallyKeep.Proofs.ScanRounds

namespace TallyKeep

open Relational

/-! ### The reported coins -/

def ScanUtxo.outpoint (unspent : ScanUtxo) : Outpoint := ⟨unspent.txid, unspent.vout⟩

/-- The coins of an answer that belong to address rows of the branch. -/
def matchedUtxos (start : Database) (descriptor : DescriptorRow) (isChange : Bool)
    (utxos : List ScanUtxo) : List ScanUtxo :=
  utxos.filter fun unspent => (addressOfUnspent start descriptor isChange unspent).isSome

/-- The matched coins of one branch. -/
def branchCoins (start : Database) (node : ScanNode) (descriptor : DescriptorRow)
    (branch : Bool × String) : List ScanUtxo :=
  match node.scanDescriptors branch.2 with
  | .error _ => []
  | .ok result => matchedUtxos start descriptor branch.1 result.utxos

/-- The reported coins that map to address rows of the descriptor, in scan order. -/
def matchedCoins (start : Database) (node : ScanNode) (descriptor : DescriptorRow) :
    List ScanUtxo :=
  descriptor.branches.flatMap (branchCoins start node descriptor)

/-- A coin is new when the database does not know it and it was not reported before. -/
def addNew (start : Database) (taken : List ScanUtxo) (unspent : ScanUtxo) : List ScanUtxo :=
  if (start.utxos.get? unspent.outpoint).isSome ∨ ∃ coin ∈ taken, coin.outpoint = unspent.outpoint
  then taken
  else taken ++ [unspent]

/-- The coins that the database does not know, each where it is first reported. -/
def newCoins (start : Database) (coins : List ScanUtxo) : List ScanUtxo :=
  coins.foldl (addNew start) []

/-! ### The law and its conditions -/

/-- A row for the coin has its value, and a height when one is reported. -/
def UtxoRow.Says (row : UtxoRow) (coin : ScanUtxo) : Prop :=
  row.valueSats = coin.amountSats ∧ (0 < coin.height → row.confirmationHeight ≠ none)

/-- Every reported coin has a row that says so, the counts are those of the rows that were added,
    and a second scan with the same answers changes nothing. -/
structure ScanLaw (node : ScanNode) (db : Database) (descriptor : DescriptorRow) (db' : Database)
    (report : ScanReport) : Prop where
  complete : ∀ coin ∈ matchedCoins db node descriptor, ∃ row,
    db'.utxos.get? coin.outpoint = some row ∧ row.Says coin
  utxosCounted : db'.utxos.rows.length = db.utxos.rows.length + report.utxosDiscovered
  entriesCounted :
    db'.ledgerEntries.rows.length = db.ledgerEntries.rows.length + report.ledgerEntriesCreated
  again : ∃ report', initialScan node db' descriptor = .ok (db', report')

/-- What the database knows of the coins agrees with what is reported of them. -/
def KnownAgree (db : Database) (coins : List ScanUtxo) : Prop :=
  ∀ coin ∈ coins, ∀ row, db.utxos.get? coin.outpoint = some row → row.Says coin

/-- What is reported of a coin later agrees with what is first reported of it. -/
def ReportsAgree (db : Database) (coins : List ScanUtxo) : Prop :=
  ∀ first ∈ newCoins db coins, ∀ coin ∈ coins, first.outpoint = coin.outpoint →
    first.amountSats = coin.amountSats ∧ (0 < coin.height → 0 < first.height)

instance (db : Database) (coins : List ScanUtxo) : Decidable (ReportsAgree db coins) :=
  inferInstanceAs (Decidable (∀ first ∈ newCoins db coins, ∀ coin ∈ coins,
    first.outpoint = coin.outpoint →
      first.amountSats = coin.amountSats ∧ (0 < coin.height → 0 < first.height)))

/-- The coins are from transactions without an entry, no two of them from the same one. -/
def NewTransactions (db : Database) (coins : List ScanUtxo) : Prop :=
  (∀ coin ∈ coins, LedgerEntryRepo.entriesFor db coin.txid = []) ∧
    (coins.map ScanUtxo.txid).Nodup

/-! ### The ledger step -/

section LedgerStep

variable {db db' : Database} {descriptor : DescriptorRow} {txid : Txid} {valueSats : Nat}
  {now : Timestamp}

/-- Without an entry for the transaction one is added, and else none; the other tables stay. -/
theorem maybeCreateLedgerEntry_spec
    (run : maybeCreateLedgerEntry db descriptor txid valueSats now = .ok db') :
    db' = { db with ledgerEntries := db'.ledgerEntries, ledgerLinks := db'.ledgerLinks } ∧
      (LedgerEntryRepo.entriesFor db txid ≠ [] ∧ db'.ledgerEntries = db.ledgerEntries ∨
        LedgerEntryRepo.entriesFor db txid = [] ∧ ∃ entry : LedgerEntryRow,
          entry.RecordsTx txid ∧
            db'.ledgerEntries.rows = db.ledgerEntries.rows ++ [entry]) := by
  rw [maybeCreateLedgerEntry, bind_ok_iff] at run
  obtain ⟨found, looked, run⟩ := run
  rw [LedgerEntryRepo.getBySource, scalarOneOrNone_ok_iff] at looked
  cases found with
  | some existing =>
      have recorded : LedgerEntryRepo.entriesFor db txid ≠ [] := by
        intro none
        rw [none] at looked
        cases looked.2
      simp only at run
      split at run
      · cases run
        exact ⟨rfl, .inl ⟨recorded, rfl⟩⟩
      · cases run
        exact ⟨rfl, .inl ⟨recorded, rfl⟩⟩
  | none =>
      have unrecorded : LedgerEntryRepo.entriesFor db txid = [] :=
        List.head?_eq_none_iff.mp looked.2.symm
      simp only [bind_ok_iff] at run
      rw [postInit_incoming] at run
      obtain ⟨entry, checked, run⟩ := run
      cases checked
      cases run
      exact ⟨rfl, .inr ⟨unrecorded, _, ⟨rfl, rfl⟩,
        Table.rows_insert_of_fresh (Table.get?_freshKey db.ledgerEntries)⟩⟩

/-- The entry of an unrecorded transaction is created without an error. -/
theorem maybeCreateLedgerEntry_returns (unrecorded : LedgerEntryRepo.entriesFor db txid = []) :
    ∃ db', maybeCreateLedgerEntry db descriptor txid valueSats now = .ok db' := by
  simp only [maybeCreateLedgerEntry, LedgerEntryRepo.getBySource, unrecorded, scalarOneOrNone,
    bind, Except.bind, postInit_incoming]
  exact ⟨_, rfl⟩

/-- A transaction is unrecorded exactly when no entry records it. -/
theorem entriesFor_eq_nil_iff : LedgerEntryRepo.entriesFor db txid = [] ↔
    ∀ entry ∈ db.ledgerEntries.rows, ¬entry.RecordsTx txid := by
  rw [LedgerEntryRepo.entriesFor, Table.select, List.filter_eq_nil_iff]
  simp only [decide_eq_true_eq]

/-- An entry records one transaction only. -/
theorem LedgerEntryRow.recordsTx_iff {entry : LedgerEntryRow} (records : entry.RecordsTx txid)
    {other : Txid} : entry.RecordsTx other ↔ txid = other := by
  constructor
  · intro recordsOther
    exact Txid.ext_text (records.2.symm.trans recordsOther.2)
  · rintro rfl
    exact records

/-- After the step the transaction has an entry. -/
theorem entriesFor_maybeCreateLedgerEntry
    (run : maybeCreateLedgerEntry db descriptor txid valueSats now = .ok db') (other : Txid) :
    LedgerEntryRepo.entriesFor db' other = [] ↔
      LedgerEntryRepo.entriesFor db other = [] ∧ txid ≠ other := by
  rcases (maybeCreateLedgerEntry_spec run).2 with ⟨recorded, same⟩ | ⟨-, entry, records, rows⟩
  · have sameEntries : LedgerEntryRepo.entriesFor db' other =
        LedgerEntryRepo.entriesFor db other := by
      rw [LedgerEntryRepo.entriesFor, same]
      rfl
    rw [sameEntries, iff_self_and]
    rintro unrecorded rfl
    exact recorded unrecorded
  · rw [entriesFor_eq_nil_iff, entriesFor_eq_nil_iff, rows, List.forall_mem_append,
      List.forall_mem_singleton, LedgerEntryRow.recordsTx_iff records]

/-- One entry is added for a transaction that has none. -/
theorem length_maybeCreateLedgerEntry
    (run : maybeCreateLedgerEntry db descriptor txid valueSats now = .ok db') :
    db'.ledgerEntries.rows.length = db.ledgerEntries.rows.length +
      if LedgerEntryRepo.entriesFor db txid = [] then 1 else 0 := by
  rcases (maybeCreateLedgerEntry_spec run).2 with ⟨recorded, same⟩ | ⟨none, entry, -, rows⟩
  · rw [same, if_neg recorded]
    rfl
  · rw [rows, if_pos none, List.length_append]
    rfl

end LedgerStep

/-- Flags add no coin. -/
theorem length_applyFlagsAndPropagateReuse (db : Database) (utxo : UtxoRow)
    (context : HygieneContext) :
    (applyFlagsAndPropagateReuse db utxo context).utxos.rows.length = db.utxos.rows.length := by
  rw [applyFlagsAndPropagateReuse]
  split <;> simp [propagateAddressReuse, Table.update]

/-- A recorded coin is one row more. -/
theorem length_coinStage {node : ScanNode} {descriptor : DescriptorRow} {address : AddressRow}
    {unspent : ScanUtxo} {db : Database} (unknown : db.utxos.get? unspent.outpoint = none) :
    (coinStage node descriptor address unspent db).utxos.rows.length =
      db.utxos.rows.length + 1 := by
  rw [coinStage, length_applyFlagsAndPropagateReuse, upsert_eq, upsertUnspent_of_unknown unknown,
    Database.utxos_withUtxos, Table.rows_insert_of_fresh unknown, List.length_append]
  rfl

/-- A scanned coin leaves the entries of every transaction. -/
theorem entriesFor_coinStage {node : ScanNode} {descriptor : DescriptorRow} {address : AddressRow}
    {unspent : ScanUtxo} {db : Database} (unknown : db.utxos.get? unspent.outpoint = none)
    (txid : Txid) :
    LedgerEntryRepo.entriesFor (coinStage node descriptor address unspent db) txid =
      LedgerEntryRepo.entriesFor db txid := by
  rw [LedgerEntryRepo.entriesFor, (coinStage_tables unknown).2.2.1, LedgerEntryRepo.entriesFor]

/-- A coin is recorded by its coin stage and then its entry. -/
theorem recordUnspent_eq (node : ScanNode) (descriptor : DescriptorRow) (address : AddressRow)
    (unspent : ScanUtxo) (db : Database) :
    recordUnspent node descriptor address unspent db =
      maybeCreateLedgerEntry (coinStage node descriptor address unspent db) descriptor unspent.txid
        unspent.amountSats node.now := rfl

/-! ### What a scan has done so far -/

section Taken

variable {start : Database} {done : List ScanUtxo} {unspent : ScanUtxo}

/-- The new coins of one more that is reported. -/
theorem newCoins_concat (start : Database) (done : List ScanUtxo) (unspent : ScanUtxo) :
    newCoins start (done ++ [unspent]) = addNew start (newCoins start done) unspent := by
  rw [newCoins, List.foldl_append]
  rfl

/-- New coins stay new. -/
theorem newCoins_within_append (start : Database) (done later : List ScanUtxo) :
    newCoins start done <+: newCoins start (done ++ later) := by
  induction later using List.reverseRecOn with
  | nil => rw [List.append_nil]
  | append_singleton later last inductionHypothesis =>
      rw [← List.append_assoc, newCoins_concat, addNew]
      split
      · exact inductionHypothesis
      · exact inductionHypothesis.trans (List.prefix_append _ _)

/-- Every reported coin is known before or taken as new. -/
theorem mem_newCoins {coin : ScanUtxo} (member : coin ∈ done) :
    (start.utxos.get? coin.outpoint).isSome ∨
      ∃ first ∈ newCoins start done, first.outpoint = coin.outpoint := by
  induction done using List.reverseRecOn with
  | nil => cases member
  | append_singleton done last inductionHypothesis =>
      rw [newCoins_concat, addNew]
      rcases List.mem_append.mp member with earlier | here
      · rcases inductionHypothesis earlier with known | ⟨first, taken, same⟩
        · exact .inl known
        · split
          · exact .inr ⟨first, taken, same⟩
          · exact .inr ⟨first, List.mem_append_left _ taken, same⟩
      · rw [List.mem_singleton.mp here]
        split
        · assumption
        · exact .inr ⟨last, List.mem_append_right _ (List.mem_singleton.mpr rfl), rfl⟩

/-- The coins taken as new are reported ones that were not known. -/
theorem of_mem_newCoins {coin : ScanUtxo} (member : coin ∈ newCoins start done) :
    coin ∈ done ∧ start.utxos.get? coin.outpoint = none := by
  induction done using List.reverseRecOn with
  | nil => cases member
  | append_singleton done last inductionHypothesis =>
      rw [newCoins_concat, addNew] at member
      split at member
      · obtain ⟨reported, unknown⟩ := inductionHypothesis member
        exact ⟨List.mem_append_left _ reported, unknown⟩
      · rename_i new
        rcases List.mem_append.mp member with earlier | here
        · obtain ⟨reported, unknown⟩ := inductionHypothesis earlier
          exact ⟨List.mem_append_left _ reported, unknown⟩
        · rw [List.mem_singleton.mp here]
          refine ⟨List.mem_append_right _ (List.mem_singleton.mpr rfl), ?_⟩
          exact Option.not_isSome_iff_eq_none.mp fun known => new (.inl known)

/-- No coin is taken twice. -/
theorem newCoins_nodup (start : Database) (done : List ScanUtxo) :
    ((newCoins start done).map ScanUtxo.outpoint).Nodup := by
  induction done using List.reverseRecOn with
  | nil => exact List.nodup_nil
  | append_singleton done last inductionHypothesis =>
      rw [newCoins_concat, addNew]
      split
      · exact inductionHypothesis
      · rename_i new
        rw [List.map_append, List.nodup_append]
        refine ⟨inductionHypothesis, List.nodup_singleton _, ?_⟩
        intro outpoint earlier other here same
        obtain ⟨coin, member, rfl⟩ := List.mem_map.mp earlier
        rw [List.map_singleton, List.mem_singleton] at here
        exact new (.inr ⟨coin, member, same.trans here⟩)

/-- Coins that are all known are no new ones. -/
theorem newCoins_eq_nil (known : ∀ coin ∈ done, (start.utxos.get? coin.outpoint).isSome) :
    newCoins start done = [] := by
  rw [List.eq_nil_iff_forall_not_mem]
  intro coin member
  obtain ⟨reported, unknown⟩ := of_mem_newCoins member
  have present := known coin reported
  rw [unknown] at present
  cases present

/-- New transactions stay new for fewer coins. -/
theorem NewTransactions.mono {taken more : List ScanUtxo}
    (fresh : NewTransactions start more) (before : taken <+: more) :
    NewTransactions start taken :=
  ⟨fun coin member => fresh.1 coin (before.subset member),
    fresh.2.sublist (before.sublist.map ScanUtxo.txid)⟩

end Taken

/-- What a row says of the value and the height of its coin. -/
def UtxoRow.recorded (row : UtxoRow) : Nat × Option Nat := (row.valueSats, row.confirmationHeight)

/-- What a row will say of a reported coin that is new. -/
def ScanUtxo.recorded (unspent : ScanUtxo) : Nat × Option Nat :=
  (unspent.amountSats, unspent.confirmationHeight)

/-- The scan has taken these coins as new: they are recorded as reported, one entry is counted for
    each, and the transaction of each has an entry. -/
structure Scanned (start : Database) (taken : List ScanUtxo) (progress : ScanProgress) : Prop where
  addresses : progress.db.addresses.rows.map AddressRow.core =
    start.addresses.rows.map AddressRow.core
  coins : ∀ outpoint, (progress.db.coinAt outpoint).map UtxoRow.recorded =
    ((start.coinAt outpoint).map UtxoRow.recorded).or
      ((taken.find? fun coin => coin.outpoint = outpoint).map ScanUtxo.recorded)
  rows : progress.db.utxos.rows.length = start.utxos.rows.length + taken.length
  discovered : progress.utxosDiscovered = taken.length
  created : progress.ledgerEntriesCreated = taken.length
  recordsTx : ∀ txid, LedgerEntryRepo.entriesFor progress.db txid = [] ↔
    LedgerEntryRepo.entriesFor start txid = [] ∧ ∀ coin ∈ taken, coin.txid ≠ txid
  entriesAdded : progress.db.ledgerEntries.rows.length ≤
    start.ledgerEntries.rows.length + taken.length
  allAdded : progress.db.ledgerEntries.rows.length =
    start.ledgerEntries.rows.length + taken.length ↔ NewTransactions start taken
  untouched : taken = [] → progress.db = start

theorem Scanned.start (db : Database) : Scanned db [] ⟨db, 0, 0, 0, 0⟩ where
  addresses := rfl
  coins := by simp
  rows := rfl
  discovered := rfl
  created := rfl
  recordsTx := by simp
  entriesAdded := le_refl _
  allAdded := by simp [NewTransactions]
  untouched := fun _ => rfl

namespace Scanned

variable {node : ScanNode} {start : Database} {descriptor : DescriptorRow} {isChange : Bool}
  {taken : List ScanUtxo} {progress progress' : ScanProgress} {unspent : ScanUtxo}
  {address : AddressRow}

/-- The scan knows the coins that were there and those it has taken. -/
theorem known_iff (scanned : Scanned start taken progress) (outpoint : Outpoint) :
    (progress.db.utxos.get? outpoint).isSome ↔
      (start.utxos.get? outpoint).isSome ∨ ∃ coin ∈ taken, coin.outpoint = outpoint := by
  have coins := congrArg Option.isSome (scanned.coins outpoint)
  simp only [Database.coinAt, Option.isSome_map, Option.isSome_or] at coins
  rw [coins, Bool.or_eq_true, List.find?_isSome]
  simp only [decide_eq_true_eq]

/-- An unknown coin is new. -/
theorem addNew_of_unknown (scanned : Scanned start taken progress)
    (unknown : progress.db.utxos.get? unspent.outpoint = none) :
    addNew start taken unspent = taken ++ [unspent] := by
  rw [addNew, if_neg]
  rw [← scanned.known_iff, unknown]
  exact Bool.false_ne_true

/-- A known coin is not new. -/
theorem addNew_of_known (scanned : Scanned start taken progress)
    (known : (progress.db.utxos.get? unspent.outpoint).isSome) :
    addNew start taken unspent = taken := by
  rw [addNew, if_pos]
  exact (scanned.known_iff unspent.outpoint).mp known

/-- Another new coin has a new transaction when no entry is there for it by then. -/
theorem newTransactions_concat (scanned : Scanned start taken progress) :
    NewTransactions start (taken ++ [unspent]) ↔
      NewTransactions start taken ∧
        LedgerEntryRepo.entriesFor progress.db unspent.txid = [] := by
  rw [scanned.recordsTx, NewTransactions, NewTransactions, List.map_append, List.nodup_append]
  constructor
  · rintro ⟨unrecorded, distinct, -, apart⟩
    refine ⟨⟨fun coin member => unrecorded coin (List.mem_append_left _ member), distinct⟩,
      unrecorded unspent (List.mem_append_right _ (List.mem_singleton.mpr rfl)), ?_⟩
    intro coin member
    exact apart coin.txid (List.mem_map_of_mem member) unspent.txid (List.mem_singleton.mpr rfl)
  · rintro ⟨⟨unrecorded, distinct⟩, unrecordedHere, apart⟩
    refine ⟨?_, distinct, List.nodup_singleton _, ?_⟩
    · intro coin member
      rcases List.mem_append.mp member with earlier | here
      · exact unrecorded coin earlier
      · rw [List.mem_singleton.mp here]
        exact unrecordedHere
    · intro txid earlier other here
      obtain ⟨coin, member, rfl⟩ := List.mem_map.mp earlier
      rw [List.mem_singleton.mp here]
      exact apart coin member

/-- A coin that was not known is recorded with its transaction's entry, if that is a new one. -/
theorem record (scanned : Scanned start taken progress)
    (unknown : progress.db.utxos.get? unspent.outpoint = none) {db' : Database}
    (run : recordUnspent node descriptor address unspent progress.db = .ok db') :
    Scanned start (taken ++ [unspent])
      { progress with
        db := db'
        utxosDiscovered := progress.utxosDiscovered + 1
        ledgerEntriesCreated := progress.ledgerEntriesCreated + 1 } := by
  obtain ⟨-, sameAddresses, sameEntries, -⟩ :=
    @coinStage_tables node descriptor address unspent progress.db unknown
  rw [recordUnspent_eq] at run
  have tables := (maybeCreateLedgerEntry_spec run).1
  have sameCoins : db'.utxos = (coinStage node descriptor address unspent progress.db).utxos := by
    rw [tables]
  have entries := length_maybeCreateLedgerEntry run
  rw [entriesFor_coinStage unknown, sameEntries] at entries
  constructor
  case addresses =>
    rw [tables, ← scanned.addresses]
    exact sameAddresses
  case coins =>
    intro outpoint
    have sameCoin : db'.coinAt outpoint =
        (coinStage node descriptor address unspent progress.db).coinAt outpoint := by
      rw [Database.coinAt, sameCoins, Database.coinAt]
    rw [sameCoin, coinAt_coinStage unknown, List.find?_append, Option.map_or,
      ← Option.or_assoc, ← scanned.coins]
    by_cases here : outpoint = ⟨unspent.txid, unspent.vout⟩
    · have absent : progress.db.coinAt outpoint = none := by
        rw [here]
        exact Database.coinAt_eq_none_iff.mpr unknown
      rw [absent, if_pos here, here, List.find?_cons_of_pos (by simp [ScanUtxo.outpoint])]
      rfl
    · have elsewhere : ([unspent].find? fun coin => decide (coin.outpoint = outpoint)) = none := by
        rw [List.find?_eq_none]
        intro coin member same
        rw [List.mem_singleton.mp member, decide_eq_true_eq] at same
        exact here same.symm
      rw [if_neg here, elsewhere]
      exact Option.or_none.symm
  case rows =>
    rw [sameCoins, length_coinStage unknown, scanned.rows, List.length_append]
    rfl
  case discovered => rw [List.length_append, scanned.discovered]; rfl
  case created => rw [List.length_append, scanned.created]; rfl
  case recordsTx =>
    intro txid
    rw [entriesFor_maybeCreateLedgerEntry run, entriesFor_coinStage unknown, scanned.recordsTx, and_assoc,
      List.forall_mem_append, List.forall_mem_singleton]
  case entriesAdded =>
    have before := scanned.entriesAdded
    rw [List.length_append, List.length_singleton, entries]
    split <;> omega
  case allAdded =>
    have before := scanned.entriesAdded
    rw [scanned.newTransactions_concat, ← scanned.allAdded, entries, List.length_append,
      List.length_singleton]
    by_cases unrecorded : LedgerEntryRepo.entriesFor progress.db unspent.txid = []
    · rw [if_pos unrecorded, and_iff_left unrecorded]
      omega
    · rw [if_neg unrecorded]
      refine iff_of_false (by omega) ?_
      rintro ⟨-, unrecordedHere⟩
      exact unrecorded unrecordedHere
  case untouched =>
    intro none
    exact absurd none (List.concat_ne_nil _ _)

/-- A round for a matched coin. -/
theorem round (scanned : Scanned start taken progress)
    (matched : addressOfUnspent start descriptor isChange unspent = some address)
    (run : scanUnspent node start descriptor isChange progress unspent = .ok progress') :
    Scanned start (addNew start taken unspent) progress' := by
  simp only [scanUnspent, matched] at run
  cases known : progress.db.utxos.get? ⟨unspent.txid, unspent.vout⟩ with
  | some row =>
      simp only [known] at run
      cases run
      rw [scanned.addNew_of_known (Option.isSome_iff_exists.mpr ⟨row, known⟩)]
      exact { scanned with }
  | none =>
      simp only [known] at run
      rw [bind_ok_iff] at run
      obtain ⟨db', recorded, run⟩ := run
      cases run
      rw [scanned.addNew_of_unknown known]
      exact scanned.record known recorded

/-- It returns when the new coins are of new transactions. -/
theorem round_returns (scanned : Scanned start taken progress)
    (fresh : NewTransactions start (addNew start taken unspent)) :
    ∃ progress', scanUnspent node start descriptor isChange progress unspent = .ok progress' := by
  rw [scanUnspent]
  split
  · exact ⟨progress, rfl⟩
  · rename_i address _
    split
    · exact ⟨_, rfl⟩
    · rename_i unknown
      rw [scanned.addNew_of_unknown unknown] at fresh
      have unrecorded := (scanned.newTransactions_concat.mp fresh).2
      rw [← entriesFor_coinStage unknown] at unrecorded
      obtain ⟨db', run⟩ := maybeCreateLedgerEntry_returns unrecorded
      rw [recordUnspent_eq, run]
      exact ⟨_, rfl⟩

end Scanned

/-! ### One scan -/

section OneScan

variable {node : ScanNode} {db db' : Database} {descriptor : DescriptorRow} {report : ScanReport}

/-- The coins among some reported ones that belong to address rows. -/
def matchedOf (start : Database) (descriptor : DescriptorRow) (seen : List (Bool × ScanUtxo)) :
    List ScanUtxo :=
  (seen.filter fun coin => (addressOfUnspent start descriptor coin.1 coin.2).isSome).map Prod.snd

/-- The matched coins of a descriptor are those of what the node reports. -/
theorem matchedOf_reportedCoins (start : Database) (node : ScanNode) (descriptor : DescriptorRow) :
    matchedOf start descriptor (reportedCoins node descriptor) =
      matchedCoins start node descriptor := by
  have branches (branch : Bool × String) :
      matchedOf start descriptor (coinsOfBranch node branch) =
        branchCoins start node descriptor branch := by
    rw [branchCoins]
    cases answer : node.scanDescriptors branch.2 with
    | error error =>
        rw [coinsOfBranch_error answer]
        rfl
    | ok result =>
        rw [coinsOfBranch_ok answer, matchedOf, List.filter_map, List.map_map]
        exact List.map_id _
  rw [matchedCoins, reportedCoins, matchedOf, List.filter_flatMap, List.map_flatMap]
  exact congrArg (descriptor.branches.flatMap ·) (funext branches)

/-- One more coin that matches is new unless it is known. -/
theorem matchedOf_concat_some {start : Database} {isChange : Bool} {unspent : ScanUtxo}
    {address : AddressRow}
    (matched : addressOfUnspent start descriptor isChange unspent = some address)
    (seen : List (Bool × ScanUtxo)) :
    newCoins start (matchedOf start descriptor (seen ++ [(isChange, unspent)])) =
      addNew start (newCoins start (matchedOf start descriptor seen)) unspent := by
  rw [← newCoins_concat, matchedOf, List.filter_append, List.map_append]
  simp [matched, matchedOf]

/-- One more coin that matches nothing adds nothing. -/
theorem matchedOf_concat_none {start : Database} {isChange : Bool} {unspent : ScanUtxo}
    (unmatched : addressOfUnspent start descriptor isChange unspent = none)
    (seen : List (Bool × ScanUtxo)) :
    matchedOf start descriptor (seen ++ [(isChange, unspent)]) =
      matchedOf start descriptor seen := by
  rw [matchedOf, List.filter_append]
  simp [unmatched, matchedOf]

/-- Where the scan stands after some of the reported coins. -/
def AfterCoins (start : Database) (descriptor : DescriptorRow) (seen : List (Bool × ScanUtxo))
    (progress : ScanProgress) : Prop :=
  Scanned start (newCoins start (matchedOf start descriptor seen)) progress

theorem afterCoins_invariant (db : Database) (descriptor : DescriptorRow) :
    ScanInvariant (AfterCoins db descriptor) db where
  start := Scanned.start db
  height := fun _ _ _ scanned => { scanned with }

/-- A round of the scan adds what the coin that it reads is worth. -/
theorem afterCoins_round {start : Database} {seen : List (Bool × ScanUtxo)} {isChange : Bool}
    {unspent : ScanUtxo} {progress progress' : ScanProgress}
    (before : AfterCoins start descriptor seen progress)
    (run : scanUnspent node start descriptor isChange progress unspent = .ok progress') :
    AfterCoins start descriptor (seen ++ [(isChange, unspent)]) progress' := by
  cases matched : addressOfUnspent start descriptor isChange unspent with
  | none =>
      rw [scanUnspent, matched] at run
      cases run
      rw [AfterCoins, matchedOf_concat_none matched]
      exact before
  | some address =>
      rw [AfterCoins, matchedOf_concat_some matched]
      exact Scanned.round before matched run

/-- What a scan that returns has done. -/
theorem initialScan_scanned (run : initialScan node db descriptor = .ok (db', report)) :
    ∃ progress : ScanProgress,
      Scanned db (newCoins db (matchedCoins db node descriptor)) progress ∧
        db' = withScannedHeight progress.db descriptor.id
          (max (scannedHeight node descriptor.branches) 1) ∧
        report.utxosDiscovered = progress.utxosDiscovered ∧
        report.ledgerEntriesCreated = progress.ledgerEntriesCreated := by
  rw [← matchedOf_reportedCoins]
  exact initialScan_processed (afterCoins_invariant db descriptor)
    (fun _ _ _ _ _ before run => afterCoins_round before run) run

/-- A scan returns when the node answers and the new coins are of new transactions. -/
theorem initialScan_returns (answers : Answers node descriptor)
    (fresh : NewTransactions db (newCoins db (matchedCoins db node descriptor))) :
    ∃ db' report, initialScan node db descriptor = .ok (db', report) := by
  rw [← matchedOf_reportedCoins] at fresh
  refine initialScan_returns_of_rounds answers (afterCoins_invariant db descriptor) ?_
  intro seen isChange unspent later progress split before
  cases matched : addressOfUnspent db descriptor isChange unspent with
  | none =>
      have run : scanUnspent node db descriptor isChange progress unspent = .ok progress := by
        rw [scanUnspent, matched]
      exact ⟨progress, run, afterCoins_round before run⟩
  | some address =>
      have regrouped : seen ++ (isChange, unspent) :: later =
          (seen ++ [(isChange, unspent)]) ++ later := by
        rw [List.append_assoc]
        rfl
      rw [split, regrouped, matchedOf, List.filter_append, List.map_append] at fresh
      have freshHere := fresh.mono (newCoins_within_append db _ _)
      rw [← matchedOf, matchedOf_concat_some matched] at freshHere
      obtain ⟨progress', run⟩ := Scanned.round_returns before freshHere
      exact ⟨progress', run, afterCoins_round before run⟩

/-- The height is raised once. -/
theorem withScannedHeight_idem (db : Database) (descriptorId : Uuid) (height : Nat) :
    withScannedHeight (withScannedHeight db descriptorId height) descriptorId height =
      withScannedHeight db descriptorId height := by
  have once := Table.update_update db.descriptors descriptorId
    (fun row => { row with lastScannedHeight := max row.lastScannedHeight height })
    (fun _ => rfl) (fun row => by simp)
  rw [withScannedHeight, withScannedHeight, once]

/-- A row says what is reported of a coin in terms of what it records. -/
theorem exists_row_says_iff {outpoint : Outpoint} {coin : ScanUtxo} :
    (∃ row, db.utxos.get? outpoint = some row ∧ row.Says coin) ↔
      ∃ recorded, (db.coinAt outpoint).map UtxoRow.recorded = some recorded ∧
        recorded.1 = coin.amountSats ∧ (0 < coin.height → recorded.2 ≠ none) := by
  simp only [Database.coinAt, Option.map_map, Option.map_eq_some_iff]
  constructor
  · rintro ⟨row, found, stated⟩
    exact ⟨_, ⟨row, found, rfl⟩, stated⟩
  · rintro ⟨_, ⟨row, found, rfl⟩, stated⟩
    exact ⟨row, found, stated⟩

/-- A recorded coin has a height exactly when the node gives a positive one. -/
theorem recorded_height_iff {coin : ScanUtxo} : coin.recorded.2 ≠ none ↔ 0 < coin.height := by
  rw [ScanUtxo.recorded, ScanUtxo.confirmationHeight, Nat.pos_iff_ne_zero]
  split <;> simp_all

/-- The rows say what is reported exactly when what was known and the first reports do. -/
theorem complete_iff {coins : List ScanUtxo} {progress : ScanProgress}
    (scanned : Scanned db (newCoins db coins) progress) :
    (∀ coin ∈ coins, ∃ row, progress.db.utxos.get? coin.outpoint = some row ∧ row.Says coin) ↔
      KnownAgree db coins ∧ ReportsAgree db coins := by
  have recorded : ∀ coin ∈ coins,
      ((∃ row, progress.db.utxos.get? coin.outpoint = some row ∧ row.Says coin) ↔
        (∀ row, db.utxos.get? coin.outpoint = some row → row.Says coin) ∧
          ∀ first ∈ newCoins db coins, first.outpoint = coin.outpoint →
            first.amountSats = coin.amountSats ∧ (0 < coin.height → 0 < first.height)) := by
    intro coin member
    rw [exists_row_says_iff, scanned.coins]
    cases known : db.utxos.get? coin.outpoint with
    | some row =>
        have here : db.coinAt coin.outpoint = some row.core := by
          rw [Database.coinAt, known]
          rfl
        have noneTaken : ∀ first ∈ newCoins db coins, first.outpoint ≠ coin.outpoint := by
          intro first taken same
          have unknown := (of_mem_newCoins taken).2
          rw [same, known] at unknown
          cases unknown
        rw [here]
        constructor
        · rintro ⟨_, ⟨rfl⟩, stated⟩
          refine ⟨?_, fun first taken same => absurd same (noneTaken first taken)⟩
          rintro _ ⟨rfl⟩
          exact stated
        · rintro ⟨stated, -⟩
          exact ⟨_, rfl, stated row rfl⟩
    | none =>
        have here : db.coinAt coin.outpoint = none := Database.coinAt_eq_none_iff.mpr known
        cases found : (newCoins db coins).find? fun first =>
            decide (first.outpoint = coin.outpoint) with
        | none =>
            rw [List.find?_eq_none] at found
            obtain present | ⟨first, taken, same⟩ := @mem_newCoins db coins coin member
            · rw [known] at present
              cases present
            · exact absurd (decide_eq_true same) (found first taken)
        | some first =>
            have same := List.find?_some found
            rw [decide_eq_true_eq] at same
            have taken := List.mem_of_find?_eq_some found
            rw [here]
            constructor
            · rintro ⟨_, ⟨rfl⟩, value, height⟩
              refine ⟨fun _ present => absurd present.symm (Option.some_ne_none _), ?_⟩
              intro other otherTaken otherSame
              rw [List.inj_on_of_nodup_map (newCoins_nodup db coins) otherTaken taken
                (otherSame.trans same.symm)]
              exact ⟨value, fun positive => recorded_height_iff.mp (height positive)⟩
            · rintro ⟨-, agree⟩
              obtain ⟨value, height⟩ := agree first taken same
              exact ⟨_, rfl, value, fun positive => recorded_height_iff.mpr (height positive)⟩
  constructor
  · intro complete
    exact ⟨fun coin member => ((recorded coin member).mp (complete coin member)).1,
      fun first taken coin member =>
        ((recorded coin member).mp (complete coin member)).2 first taken⟩
  · rintro ⟨knownAgree, reportsAgree⟩ coin member
    exact (recorded coin member).mpr
      ⟨knownAgree coin member, fun first taken => reportsAgree first taken coin member⟩

/-- Which reported coins match does not change with a scan. -/
theorem matchedCoins_congr (sameAddresses : db'.addresses.rows.map AddressRow.core =
      db.addresses.rows.map AddressRow.core) :
    matchedCoins db' node descriptor = matchedCoins db node descriptor := by
  have sameBranch : branchCoins db' node descriptor = branchCoins db node descriptor := by
    funext branch
    rw [branchCoins, branchCoins]
    split
    · rfl
    · rw [matchedUtxos, matchedUtxos]
      apply List.filter_congr
      intro unspent _
      have same := congrArg Option.isSome
        (addressOfUnspent_congr sameAddresses descriptor branch.1 unspent)
      rw [Option.isSome_map, Option.isSome_map] at same
      exact same
  rw [matchedCoins, sameBranch, matchedCoins]

/-- A scan after the scan returns and leaves the database as it is. -/
theorem initialScan_again {progress : ScanProgress} (answers : Answers node descriptor)
    (scanned : Scanned db (newCoins db (matchedCoins db node descriptor)) progress) {height : Nat}
    (sameHeight : height = max (scannedHeight node descriptor.branches) 1)
    (after : db' = withScannedHeight progress.db descriptor.id height) :
    ∃ report', initialScan node db' descriptor = .ok (db', report') := by
  have sameCoins : matchedCoins db' node descriptor = matchedCoins db node descriptor := by
    rw [after]
    exact matchedCoins_congr scanned.addresses
  have noneNew : newCoins db' (matchedCoins db' node descriptor) = [] := by
    rw [sameCoins]
    apply newCoins_eq_nil
    intro coin member
    rw [after]
    exact (scanned.known_iff coin.outpoint).mpr (mem_newCoins member)
  obtain ⟨db'', report', run⟩ := initialScan_returns answers (by
    rw [noneNew]
    exact ⟨nofun, List.nodup_nil⟩)
  obtain ⟨progress', scanned', after', -⟩ := initialScan_scanned run
  rw [scanned'.untouched noneNew, after, ← sameHeight, withScannedHeight_idem] at after'
  refine ⟨report', ?_⟩
  rw [run, after', after]

/-- A scan of answered branches returns with every matched coin recorded as reported, with the rows
    counted that it added, and with nothing left to a second scan, exactly when the coins that were
    known say what is reported, reports of one coin agree, and the new coins are of transactions
    without an entry, each of its own. -/
theorem scanLaw_iff (answers : Answers node descriptor) :
    (∃ db' report, initialScan node db descriptor = .ok (db', report) ∧
        ScanLaw node db descriptor db' report) ↔
      KnownAgree db (matchedCoins db node descriptor) ∧
        ReportsAgree db (matchedCoins db node descriptor) ∧
        NewTransactions db (newCoins db (matchedCoins db node descriptor)) := by
  constructor
  · rintro ⟨db', report, run, law⟩
    obtain ⟨progress, scanned, after, -, created⟩ := initialScan_scanned run
    have complete := law.complete
    have entries := law.entriesCounted
    rw [after] at complete entries
    rw [created, scanned.created] at entries
    rw [← and_assoc]
    exact ⟨(complete_iff scanned).mp complete, scanned.allAdded.mp entries⟩
  · rintro ⟨knownAgree, reportsAgree, fresh⟩
    obtain ⟨db', report, run⟩ := initialScan_returns answers fresh
    obtain ⟨progress, scanned, after, discovered, created⟩ := initialScan_scanned run
    refine ⟨db', report, run, ?_⟩
    constructor
    case complete =>
      rw [after]
      exact (complete_iff scanned).mpr ⟨knownAgree, reportsAgree⟩
    case utxosCounted =>
      rw [after, discovered, scanned.discovered]
      exact scanned.rows
    case entriesCounted =>
      rw [after, created, scanned.created]
      exact scanned.allAdded.mpr fresh
    case again => exact initialScan_again answers scanned rfl after

end OneScan

/-- A node whose snapshot holds some coins of the first sample descriptor and nothing else. -/
def sampleNode (utxos : List ScanUtxo) : ScanNode where
  scanDescriptors expression := .ok ⟨7, if expression = "wpkh(a/0/*)" then utxos else []⟩
  feeRate := 10
  now := 0

/-- The descriptor of the first sample holding. -/
def firstDescriptor : DescriptorRow :=
  ⟨1, 10, "wpkh(a/0/*)", none, .regtest, .nativeSegwit, 1, 0⟩

/-- The coin of a payment at the height of the snapshot. -/
def reportedCoin (c : Char) (vout : Nat) : ScanUtxo :=
  ⟨.repeated c, vout, 100000, 7, "wpkh([6834a63c/0/0]02ab)#abcdwxyz"⟩

/-- The sample node answers for the first descriptor. -/
theorem answers_sampleNode (utxos : List ScanUtxo) : Answers (sampleNode utxos) firstDescriptor := by
  intro branch _ message refused
  cases refused

theorem scanLaw_onePayment :
    ∃ db' report,
      initialScan (sampleNode [reportedCoin 'a' 0]) sampleWallet firstDescriptor =
          .ok (db', report) ∧
        ScanLaw (sampleNode [reportedCoin 'a' 0]) sampleWallet firstDescriptor db' report := by
  have matched : matchedCoins sampleWallet (sampleNode [reportedCoin 'a' 0]) firstDescriptor =
      [reportedCoin 'a' 0] := by decide
  apply (scanLaw_iff (answers_sampleNode _)).mpr
  rw [matched]
  refine ⟨?_, ?_, ?_, ?_⟩
  · intro coin _ row known
    cases known
  · decide
  · decide
  · decide

/-- The coin of a mempool transaction stays without the height that the scan reports, and the second
    coin of one transaction counts as another entry. -/
theorem scan_keeps_missing_height :
    (∃ live result,
      processDecodedTransaction sampleWallet samplePayment (sampleCall none) = .ok (live, result) ∧
        ¬∃ db' report,
          initialScan (sampleNode [reportedCoin 'a' 0]) live firstDescriptor = .ok (db', report) ∧
            ScanLaw (sampleNode [reportedCoin 'a' 0]) live firstDescriptor db' report) ∧
      ¬∃ db' report,
        initialScan (sampleNode [reportedCoin 'c' 0, reportedCoin 'c' 1]) sampleWallet
            firstDescriptor = .ok (db', report) ∧
          ScanLaw (sampleNode [reportedCoin 'c' 0, reportedCoin 'c' 1]) sampleWallet
            firstDescriptor db' report := by
  constructor
  · obtain ⟨live, result, -, -, run, -⟩ := processDecodedTransaction_spec sampleWallet_wellFormed
      samplePayment (sampleCall none)
    have heights : (processDecodedTransaction sampleWallet samplePayment
        (sampleCall none)).toOption.map (fun processed =>
          ((initialScan (sampleNode [reportedCoin 'a' 0]) processed.1
            firstDescriptor).toOption.map fun scan =>
              (scan.1.utxos.get? (reportedCoin 'a' 0).outpoint).map UtxoRow.confirmationHeight,
            matchedCoins processed.1 (sampleNode [reportedCoin 'a' 0]) firstDescriptor)) =
        some (some (some none), [reportedCoin 'a' 0]) := by decide +kernel
    rw [run] at heights
    refine ⟨live, result, run, ?_⟩
    rintro ⟨db', report, scanned, law⟩
    simp only [Except.toOption, scanned, Option.map_some, Option.some.injEq, Prod.mk.injEq]
      at heights
    obtain ⟨row, found, -, height⟩ := law.complete (reportedCoin 'a' 0) (by
      rw [heights.2]
      exact List.mem_singleton.mpr rfl)
    rw [found] at heights
    exact height (by decide) (Option.some.inj heights.1)
  · rintro ⟨db', report, scanned, law⟩
    have counts : (initialScan (sampleNode [reportedCoin 'c' 0, reportedCoin 'c' 1]) sampleWallet
        firstDescriptor).toOption.map (fun scan =>
          (scan.1.ledgerEntries.rows.length, scan.2.ledgerEntriesCreated)) = some (1, 2) := by
      decide +kernel
    simp only [scanned, Except.toOption, Option.map_some, Option.some.injEq, Prod.mk.injEq] at counts
    have entries := law.entriesCounted
    rw [counts.1, counts.2] at entries
    exact absurd entries (by decide)

end TallyKeep
