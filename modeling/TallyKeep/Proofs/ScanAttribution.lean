/-
Module: TallyKeep.Proofs.ScanAttribution
Layer: Proofs
Purpose: To which address rows a snapshot scan attributes the reported coins.
Trusted boundary: none
Main exports: ReportedScript, ReportsScripts, AttributionLaw, IndicesFit, Attributed,
  scanAttributes_iff
-/
import TallyKeep.Proofs.ScanCompleteness
import TallyKeep.Proofs.ShownIndices

namespace TallyKeep

open Relational

/-! ### The assumption, the law and the condition -/

/-- The script of a coin as its descriptor shows it: the keys in the order of the text, and the index
    that they are derived at. -/
structure ReportedScript where
  keys : List KeyExpression
  index : Nat

/-- What bitcoind reports for the branches of a descriptor: coins of scripts of the branch, with keys
    of its expression, each with the descriptor of its script, and the address that a coin pays. -/
structure ReportsScripts (library : DescriptorLibrary) (nodeKeys : NodeKeys) (node : ScanNode)
    (descriptor : DescriptorRow) (keysOf : Bool → List KeyExpression)
    (script : Bool × ScanUtxo → ReportedScript) (paid : Outpoint → String) : Prop where
  expressed : ∀ branch ∈ descriptor.branches, Expresses (keysOf branch.1) branch.2
  keys : ∀ coin ∈ reportedCoins node descriptor, (script coin).keys.Perm (keysOf coin.1)
  writes : ∀ coin ∈ reportedCoins node descriptor,
    nodeKeys.Writes (script coin).keys (script coin).index coin.2.descriptor
  pays : ∀ branch ∈ descriptor.branches, ∀ unspent ∈ answeredCoins node branch.2,
    paid unspent.outpoint =
      library.deriveAddress branch.2 descriptor.network (script (branch.1, unspent)).index

/-- Every coin that the scan adds belongs to the address that it pays, and no reported coin that pays
    an address of the table is skipped. -/
structure AttributionLaw (paid : Outpoint → String) (node : ScanNode) (db : Database)
    (descriptor : DescriptorRow) (db' : Database) : Prop where
  inserted : ∀ row ∈ db'.utxos.rows, db.utxos.get? row.outpoint = none →
    (db'.addresses.get? row.addressId).map AddressRow.address = some (paid row.outpoint)
  noneSkipped : ∀ coin ∈ reportedCoins node descriptor,
    (∃ row ∈ db.addresses.rows, row.address = paid coin.2.outpoint) →
      (db'.utxos.get? coin.2.outpoint).isSome

/-- The first address row that the reports of a coin lead to. -/
def firstRow (rowOf : Bool × ScanUtxo → Option AddressRow) (seen : List (Bool × ScanUtxo))
    (outpoint : Outpoint) : Option AddressRow :=
  seen.findSome? fun coin => if coin.2.outpoint = outpoint then rowOf coin else none

/-- The address row at the number of the first key that shows one. -/
def numberedRow (db : Database) (descriptor : DescriptorRow)
    (script : Bool × ScanUtxo → ReportedScript) (coin : Bool × ScanUtxo) : Option AddressRow :=
  (leadingIndex (script coin).keys (script coin).index).bind (addressAt db descriptor coin.1)

/-- For every reported coin that is not known: where the first keys' numbers lead to an address row,
    the first such row has the address that is paid and the transaction has at most one entry, and
    where they lead to none, the address is not in the table. -/
def IndicesFit (paid : Outpoint → String) (node : ScanNode) (db : Database)
    (descriptor : DescriptorRow) (rowOf : Bool × ScanUtxo → Option AddressRow) : Prop :=
  ∀ coin ∈ reportedCoins node descriptor, db.utxos.get? coin.2.outpoint = none →
    (∀ row, firstRow rowOf (reportedCoins node descriptor) coin.2.outpoint = some row →
      row.address = paid coin.2.outpoint ∧
        (LedgerEntryRepo.entriesFor db coin.2.txid).length ≤ 1) ∧
    (firstRow rowOf (reportedCoins node descriptor) coin.2.outpoint = none →
      ∀ row ∈ db.addresses.rows, row.address ≠ paid coin.2.outpoint)

/-! ### The ledger step -/

section LedgerStep

variable {db db' : Database} {descriptor : DescriptorRow} {txid : Txid} {valueSats : Nat}
  {now : Timestamp}

/-- The ledger step returns exactly when the transaction has at most one entry. -/
theorem maybeCreateLedgerEntry_returns_iff :
    (∃ db', maybeCreateLedgerEntry db descriptor txid valueSats now = .ok db') ↔
      (LedgerEntryRepo.entriesFor db txid).length ≤ 1 := by
  constructor
  · rintro ⟨db', run⟩
    rw [maybeCreateLedgerEntry, bind_ok_iff] at run
    obtain ⟨found, looked, -⟩ := run
    rw [LedgerEntryRepo.getBySource, scalarOneOrNone_ok_iff] at looked
    exact looked.1
  · intro atMostOne
    have looked : LedgerEntryRepo.getBySource db txid =
        .ok (LedgerEntryRepo.entriesFor db txid).head? := by
      rw [LedgerEntryRepo.getBySource, scalarOneOrNone_ok_iff]
      exact ⟨atMostOne, rfl⟩
    cases entries : LedgerEntryRepo.entriesFor db txid with
    | nil => exact maybeCreateLedgerEntry_returns entries
    | cons existing rest =>
        rw [entries, List.head?_cons] at looked
        simp only [maybeCreateLedgerEntry, looked, bind, Except.bind]
        split <;> exact ⟨_, rfl⟩

/-- The step leaves a transaction with at most one entry as one with at most one. -/
theorem length_entriesFor_maybeCreateLedgerEntry
    (run : maybeCreateLedgerEntry db descriptor txid valueSats now = .ok db') (other : Txid) :
    (LedgerEntryRepo.entriesFor db' other).length ≤ 1 ↔
      (LedgerEntryRepo.entriesFor db other).length ≤ 1 := by
  rcases (maybeCreateLedgerEntry_spec run).2 with ⟨-, same⟩ | ⟨unrecorded, entry, records, rows⟩
  · rw [LedgerEntryRepo.entriesFor, same, LedgerEntryRepo.entriesFor]
  · have split : LedgerEntryRepo.entriesFor db' other =
        LedgerEntryRepo.entriesFor db other ++
          [entry].filter fun entry => decide (entry.RecordsTx other) := by
      rw [LedgerEntryRepo.entriesFor, Table.select, rows, List.filter_append]
      rfl
    by_cases same : txid = other
    · subst same
      have single := List.length_filter_le (fun entry => decide (entry.RecordsTx txid)) [entry]
      rw [split, unrecorded, List.nil_append]
      exact iff_of_true single (Nat.zero_le _)
    · have elsewhere : ¬entry.RecordsTx other :=
        mt (LedgerEntryRow.recordsTx_iff records).mp same
      rw [split, List.filter_singleton, decide_eq_false elsewhere]
      simp

end LedgerStep

/-! ### The first row -/

section FirstRow

variable {rowOf rowOf' : Bool × ScanUtxo → Option AddressRow} {seen : List (Bool × ScanUtxo)}
  {coin : Bool × ScanUtxo} {outpoint : Outpoint}

theorem firstRow_concat (rowOf : Bool × ScanUtxo → Option AddressRow)
    (seen : List (Bool × ScanUtxo)) (coin : Bool × ScanUtxo) (outpoint : Outpoint) :
    firstRow rowOf (seen ++ [coin]) outpoint =
      (firstRow rowOf seen outpoint).or
        (if coin.2.outpoint = outpoint then rowOf coin else none) := by
  rw [firstRow, List.findSome?_append, List.findSome?_singleton]
  rfl

theorem firstRow_congr (same : ∀ coin ∈ seen, rowOf coin = rowOf' coin) :
    firstRow rowOf seen outpoint = firstRow rowOf' seen outpoint := by
  induction seen with
  | nil => rfl
  | cons coin rest inductionHypothesis =>
      rw [List.forall_mem_cons] at same
      have later := inductionHypothesis same.2
      rw [firstRow, firstRow] at later
      rw [firstRow, firstRow, List.findSome?_cons, List.findSome?_cons, same.1, later]

/-- Reports that lead to rows with the same ids lead to a first row with the same id. -/
theorem firstRow_id_congr
    (same : ∀ coin, (rowOf coin).map AddressRow.id = (rowOf' coin).map AddressRow.id) :
    (firstRow rowOf seen outpoint).map AddressRow.id =
      (firstRow rowOf' seen outpoint).map AddressRow.id := by
  rw [firstRow, firstRow, List.map_findSome?, List.map_findSome?]
  congr 1
  funext coin
  simp only [Function.comp_apply]
  split
  · exact same coin
  · rfl

/-- A row is found exactly when some report of the coin leads to one. -/
theorem firstRow_isSome_iff :
    (firstRow rowOf seen outpoint).isSome ↔
      ∃ coin ∈ seen, coin.2.outpoint = outpoint ∧ (rowOf coin).isSome := by
  rw [firstRow, List.findSome?_isSome_iff]
  refine exists_congr fun coin => and_congr_right fun _ => ?_
  by_cases here : coin.2.outpoint = outpoint <;> simp [here]

/-- It is the row of a report of the coin. -/
theorem exists_of_firstRow {row : AddressRow} (found : firstRow rowOf seen outpoint = some row) :
    ∃ coin ∈ seen, coin.2.outpoint = outpoint ∧ rowOf coin = some row := by
  obtain ⟨coin, member, leads⟩ := List.exists_of_findSome?_eq_some found
  by_cases here : coin.2.outpoint = outpoint
  · rw [if_pos here] at leads
    exact ⟨coin, member, here, leads⟩
  · rw [if_neg here] at leads
    cases leads

end FirstRow

/-! ### What a scan has attributed so far -/

/-- The address row that the code takes for a reported coin. -/
def matchedRow (start : Database) (descriptor : DescriptorRow) (coin : Bool × ScanUtxo) :
    Option AddressRow :=
  addressOfUnspent start descriptor coin.1 coin.2

/-- After some of the reported coins, every added coin belongs to the first row that its reports led
    to, and each was recorded for a transaction with at most one entry. -/
structure Attributed (start : Database) (descriptor : DescriptorRow)
    (seen : List (Bool × ScanUtxo)) (progress : ScanProgress) : Prop where
  addresses : progress.db.addresses.rows.map AddressRow.core =
    start.addresses.rows.map AddressRow.core
  coins : ∀ outpoint, (progress.db.coinAt outpoint).map UtxoRow.addressId =
    ((start.coinAt outpoint).map UtxoRow.addressId).or
      ((firstRow (matchedRow start descriptor) seen outpoint).map AddressRow.id)
  entries : ∀ txid, (LedgerEntryRepo.entriesFor progress.db txid).length ≤ 1 ↔
    (LedgerEntryRepo.entriesFor start txid).length ≤ 1
  oneEntry : ∀ coin ∈ seen, start.utxos.get? coin.2.outpoint = none →
    (matchedRow start descriptor coin).isSome →
      (LedgerEntryRepo.entriesFor start coin.2.txid).length ≤ 1

theorem attributed_invariant (db : Database) (descriptor : DescriptorRow) :
    ScanInvariant (Attributed db descriptor) db where
  start :=
    { addresses := rfl
      coins := fun _ => Option.or_none.symm
      entries := fun _ => Iff.rfl
      oneEntry := fun _ member => absurd member List.not_mem_nil }
  height := fun _ _ _ attributed => { attributed with }

namespace Attributed

variable {node : ScanNode} {start : Database} {descriptor : DescriptorRow}
  {seen : List (Bool × ScanUtxo)} {progress progress' : ScanProgress} {coin : Bool × ScanUtxo}
  {address : AddressRow}

/-- The scan knows the coins that were there and those whose reports led to a row. -/
theorem known_iff (attributed : Attributed start descriptor seen progress) (outpoint : Outpoint) :
    (progress.db.utxos.get? outpoint).isSome ↔
      (start.utxos.get? outpoint).isSome ∨
        (firstRow (matchedRow start descriptor) seen outpoint).isSome := by
  have coins := congrArg Option.isSome (attributed.coins outpoint)
  simp only [Database.coinAt, Option.isSome_map, Option.isSome_or] at coins
  rw [coins, Bool.or_eq_true]

/-- A report that leads nowhere. -/
theorem pass (attributed : Attributed start descriptor seen progress)
    (unmatched : matchedRow start descriptor coin = none) :
    Attributed start descriptor (seen ++ [coin]) progress := by
  refine { attributed with coins := fun outpoint => ?_, oneEntry := ?_ }
  · rw [attributed.coins, firstRow_concat, unmatched, ite_self, Option.or_none]
  · rw [List.forall_mem_append, List.forall_mem_singleton, unmatched]
    exact ⟨attributed.oneEntry, fun _ none => absurd none Bool.false_ne_true⟩

/-- A report of a coin that is known by then. -/
theorem again (attributed : Attributed start descriptor seen progress)
    (known : (progress.db.utxos.get? coin.2.outpoint).isSome) :
    Attributed start descriptor (seen ++ [coin]) progress := by
  have before := (attributed.known_iff coin.2.outpoint).mp known
  refine { attributed with coins := fun outpoint => ?_, oneEntry := ?_ }
  · rw [attributed.coins, firstRow_concat]
    by_cases here : coin.2.outpoint = outpoint
    · subst here
      have covered : (((start.coinAt coin.2.outpoint).map UtxoRow.addressId).or
          ((firstRow (matchedRow start descriptor) seen coin.2.outpoint).map
            AddressRow.id)).isSome := by
        rw [Option.isSome_or, Option.isSome_map, Option.isSome_map, Database.coinAt,
          Option.isSome_map, Bool.or_eq_true]
        exact before
      rw [Option.map_or, ← Option.or_assoc]
      exact (Option.or_of_isSome covered).symm
    · rw [if_neg here, Option.or_none]
  · rw [List.forall_mem_append, List.forall_mem_singleton]
    refine ⟨attributed.oneEntry, fun unknown _ => ?_⟩
    rw [unknown, Option.isSome_none, Bool.false_eq_true, false_or, firstRow_isSome_iff] at before
    obtain ⟨earlier, member, same, matched⟩ := before
    rw [← same] at unknown
    have sameTx : earlier.2.txid = coin.2.txid := congrArg Outpoint.txid same
    rw [← sameTx]
    exact attributed.oneEntry earlier member unknown matched

/-- A report of a coin that is recorded. -/
theorem record (attributed : Attributed start descriptor seen progress)
    (matched : matchedRow start descriptor coin = some address)
    (unknown : progress.db.utxos.get? coin.2.outpoint = none) {db' : Database}
    (run : recordUnspent node descriptor address coin.2 progress.db = .ok db') :
    Attributed start descriptor (seen ++ [coin])
      { progress with
        db := db'
        utxosDiscovered := progress.utxosDiscovered + 1
        ledgerEntriesCreated := progress.ledgerEntriesCreated + 1 } := by
  obtain ⟨-, sameAddresses, -, -⟩ :=
    @coinStage_tables node descriptor address coin.2 progress.db unknown
  rw [recordUnspent_eq] at run
  have tables := (maybeCreateLedgerEntry_spec run).1
  have atMostOne := maybeCreateLedgerEntry_returns_iff.mp ⟨db', run⟩
  have absent := mt (attributed.known_iff coin.2.outpoint).mpr (by simp [unknown])
  rw [not_or, Option.not_isSome_iff_eq_none, Option.not_isSome_iff_eq_none] at absent
  constructor
  case addresses =>
    rw [tables, ← attributed.addresses]
    exact sameAddresses
  case coins =>
    intro outpoint
    have sameCoin : db'.coinAt outpoint =
        (coinStage node descriptor address coin.2 progress.db).coinAt outpoint := by
      rw [tables]
      rfl
    rw [sameCoin, coinAt_coinStage unknown, firstRow_concat]
    by_cases here : outpoint = ⟨coin.2.txid, coin.2.vout⟩
    · subst here
      have placed : coin.2.outpoint = ⟨coin.2.txid, coin.2.vout⟩ := rfl
      rw [placed] at absent
      rw [if_pos rfl, if_pos placed, matched, Database.coinAt_eq_none_iff.mpr absent.1, absent.2]
      rfl
    · have elsewhere : coin.2.outpoint ≠ outpoint := Ne.symm here
      rw [if_neg here, if_neg elsewhere, Option.or_none]
      exact attributed.coins outpoint
  case entries =>
    intro txid
    rw [← attributed.entries, length_entriesFor_maybeCreateLedgerEntry run,
      entriesFor_coinStage unknown]
  case oneEntry =>
    rw [List.forall_mem_append, List.forall_mem_singleton, ← attributed.entries,
      ← entriesFor_coinStage unknown]
    exact ⟨attributed.oneEntry, fun _ _ => atMostOne⟩

theorem round {isChange : Bool} {unspent : ScanUtxo}
    (attributed : Attributed start descriptor seen progress)
    (run : scanUnspent node start descriptor isChange progress unspent = .ok progress') :
    Attributed start descriptor (seen ++ [(isChange, unspent)]) progress' := by
  cases matched : addressOfUnspent start descriptor isChange unspent with
  | none =>
      rw [scanUnspent, matched] at run
      cases run
      exact attributed.pass matched
  | some address =>
      simp only [scanUnspent, matched] at run
      cases known : progress.db.utxos.get? ⟨unspent.txid, unspent.vout⟩ with
      | some row =>
          simp only [known] at run
          cases run
          have kept : Attributed start descriptor (seen ++ [(isChange, unspent)]) progress :=
            attributed.again (Option.isSome_iff_exists.mpr ⟨row, known⟩)
          exact { kept with }
      | none =>
          simp only [known] at run
          rw [bind_ok_iff] at run
          obtain ⟨db', recorded, run⟩ := run
          cases run
          have found : matchedRow start descriptor (isChange, unspent) = some address := matched
          exact attributed.record found known recorded

end Attributed

/-! ### One scan -/

section OneScan

variable {library : DescriptorLibrary} {nodeKeys : NodeKeys} {node : ScanNode} {db : Database}
  {descriptor : DescriptorRow} {keysOf : Bool → List KeyExpression}
  {script : Bool × ScanUtxo → ReportedScript} {paid : Outpoint → String}
  {rowOf rowOf' : Bool × ScanUtxo → Option AddressRow} {progress : ScanProgress}

/-- The code takes the row at the number of the first key that shows one. -/
theorem matchedRow_eq_numberedRow
    (reports : ReportsScripts library nodeKeys node descriptor keysOf script paid)
    {coin : Bool × ScanUtxo} (reported : coin ∈ reportedCoins node descriptor) :
    matchedRow db descriptor coin = numberedRow db descriptor script coin := by
  rw [matchedRow, addressOfUnspent, parseDerivationIndex_of_writes (reports.writes coin reported),
    numberedRow]

theorem indicesFit_congr (same : ∀ coin ∈ reportedCoins node descriptor, rowOf coin = rowOf' coin) :
    IndicesFit paid node db descriptor rowOf ↔ IndicesFit paid node db descriptor rowOf' := by
  have sameRow : firstRow rowOf (reportedCoins node descriptor) =
      firstRow rowOf' (reportedCoins node descriptor) :=
    funext fun _ => firstRow_congr same
  rw [IndicesFit, sameRow, IndicesFit]

/-- The row at an index is one of the descriptor's. -/
theorem mem_of_addressAt {isChange : Bool} {index : Nat} {row : AddressRow}
    (found : addressAt db descriptor isChange index = some row) :
    row ∈ db.addresses.rows ∧ row.descriptorId = descriptor.id := by
  obtain ⟨stored, ofDescriptor⟩ := Table.mem_select.mp (List.mem_of_find?_eq_some found)
  exact ⟨stored, of_decide_eq_true ofDescriptor⟩

theorem matchedRow_stored {coin : Bool × ScanUtxo} {row : AddressRow}
    (matched : matchedRow db descriptor coin = some row) : row ∈ db.addresses.rows := by
  rw [matchedRow, addressOfUnspent, Option.bind_eq_some_iff] at matched
  obtain ⟨index, -, found⟩ := matched
  exact (mem_of_addressAt found).1

/-- The row that the scan takes has its address before and after. -/
theorem Attributed.address_text (attributed : Attributed db descriptor
      (reportedCoins node descriptor) progress) {coin : Bool × ScanUtxo} {row : AddressRow}
    (matched : matchedRow db descriptor coin = some row) :
    (progress.db.addresses.get? row.id).map AddressRow.address = some row.address := by
  have found : db.addresses.get? row.id = some row := Table.get?_of_mem (matchedRow_stored matched)
  rw [addressText_congr attributed.addresses, found]
  rfl

/-- Where the indices fit, what is attributed is attributed rightly. -/
theorem Attributed.law (attributed : Attributed db descriptor (reportedCoins node descriptor) progress)
    (fit : IndicesFit paid node db descriptor (matchedRow db descriptor)) :
    AttributionLaw paid node db descriptor progress.db := by
  constructor
  case inserted =>
    intro coinRow stored unknown
    have taken := attributed.coins coinRow.outpoint
    rw [Database.coinAt_of_mem stored, Database.coinAt_eq_none_iff.mpr unknown] at taken
    obtain ⟨row, first, sameId⟩ := Option.map_eq_some_iff.mp taken.symm
    obtain ⟨coin, reported, here, matched⟩ := exists_of_firstRow first
    rw [← here] at first unknown
    have pays := ((fit coin reported unknown).1 row first).1
    rw [UtxoRow.core_addressId] at sameId
    rw [← sameId, attributed.address_text matched, pays, here]
  case noneSkipped =>
    rintro coin reported ⟨row, stored, pays⟩
    rw [attributed.known_iff]
    by_cases unknown : db.utxos.get? coin.2.outpoint = none
    · refine .inr (Option.isSome_iff_ne_none.mpr fun absent => ?_)
      exact (fit coin reported unknown).2 absent row stored pays
    · exact .inl (Option.isSome_iff_ne_none.mpr unknown)

/-- And the indices fit where it is. -/
theorem Attributed.fit (attributed : Attributed db descriptor (reportedCoins node descriptor) progress)
    (law : AttributionLaw paid node db descriptor progress.db) :
    IndicesFit paid node db descriptor (matchedRow db descriptor) := by
  intro coin reported unknown
  have taken := attributed.coins coin.2.outpoint
  rw [Database.coinAt_eq_none_iff.mpr unknown, Option.map_none, Option.none_or] at taken
  constructor
  · intro row first
    obtain ⟨other, otherReported, here, matched⟩ := exists_of_firstRow first
    rw [first] at taken
    obtain ⟨core, found, sameId⟩ := Option.map_eq_some_iff.mp taken
    obtain ⟨coinRow, stored, rfl⟩ := Option.map_eq_some_iff.mp found
    obtain ⟨member, place⟩ := Table.get?_eq_some_iff.mp stored
    have placed : coinRow.outpoint = coin.2.outpoint := place
    have pays := law.inserted coinRow member (by rw [placed]; exact unknown)
    rw [UtxoRow.core_addressId] at sameId
    rw [sameId, attributed.address_text matched, placed] at pays
    refine ⟨Option.some.inj pays, ?_⟩
    have sameTx : other.2.txid = coin.2.txid := congrArg Outpoint.txid here
    rw [← sameTx]
    rw [← here] at unknown
    exact attributed.oneEntry other otherReported unknown
      (Option.isSome_iff_exists.mpr ⟨row, matched⟩)
  · intro absent row stored pays
    have known := law.noneSkipped coin reported ⟨row, stored, pays⟩
    rw [attributed.known_iff, unknown, absent] at known
    rcases known with known | known <;> cases known

/-- Where the transactions of the new coins that are matched have at most one entry each, the scan
    returns. -/
theorem initialScan_returns_of_oneEntry (answers : Answers node descriptor)
    (oneEntry : ∀ coin ∈ reportedCoins node descriptor, db.utxos.get? coin.2.outpoint = none →
      (matchedRow db descriptor coin).isSome → (LedgerEntryRepo.entriesFor db coin.2.txid).length ≤ 1) :
    ∃ db' report, initialScan node db descriptor = .ok (db', report) := by
  refine initialScan_returns_of_rounds answers (attributed_invariant db descriptor) ?_
  intro seen isChange unspent later progress split attributed
  have reported : (isChange, unspent) ∈ reportedCoins node descriptor := by
    rw [split]
    exact List.mem_append_right _ List.mem_cons_self
  have returns : ∃ progress',
      scanUnspent node db descriptor isChange progress unspent = .ok progress' := by
    rw [scanUnspent]
    cases matched : addressOfUnspent db descriptor isChange unspent with
    | none => exact ⟨progress, rfl⟩
    | some address =>
        have found : (matchedRow db descriptor (isChange, unspent)).isSome := by
          rw [matchedRow, matched]
          rfl
        cases known : progress.db.utxos.get? ⟨unspent.txid, unspent.vout⟩ with
        | some row => exact ⟨_, rfl⟩
        | none =>
            have absent := mt (attributed.known_iff unspent.outpoint).mpr (by
              rw [ScanUtxo.outpoint, known]
              exact Bool.false_ne_true)
            rw [not_or, Option.not_isSome_iff_eq_none] at absent
            have atMostOne := oneEntry _ reported absent.1 found
            rw [← attributed.entries, ← entriesFor_coinStage known] at atMostOne
            obtain ⟨db', run⟩ : ∃ db', recordUnspent node descriptor address unspent progress.db =
                .ok db' :=
              maybeCreateLedgerEntry_returns_iff.mpr atMostOne
            simp only [run]
            exact ⟨_, rfl⟩
  obtain ⟨progress', run⟩ := returns
  exact ⟨progress', run, attributed.round run⟩

/-- Where the indices fit, the scan returns. -/
theorem initialScan_returns_of_fit (answers : Answers node descriptor)
    (fit : IndicesFit paid node db descriptor (matchedRow db descriptor)) :
    ∃ db' report, initialScan node db descriptor = .ok (db', report) := by
  refine initialScan_returns_of_oneEntry answers fun coin reported unknown found => ?_
  obtain ⟨first, leads⟩ := Option.isSome_iff_exists.mp
    (firstRow_isSome_iff.mpr ⟨coin, reported, rfl, found⟩)
  exact ((fit coin reported unknown).1 first leads).2

/-- A scan returns with every added coin at the address that it pays, and with no coin skipped that
    pays an address of the table, exactly when the number of the first key that shows one leads to
    that address, for every coin that is not known, and the ledger has room for its entry. -/
theorem scanAttributes_iff (answers : Answers node descriptor)
    (reports : ReportsScripts library nodeKeys node descriptor keysOf script paid) :
    (∃ db' report, initialScan node db descriptor = .ok (db', report) ∧
        AttributionLaw paid node db descriptor db') ↔
      IndicesFit paid node db descriptor (numberedRow db descriptor script) := by
  rw [← indicesFit_congr fun coin reported => matchedRow_eq_numberedRow reports reported]
  have scanned {db' : Database} {report : ScanReport}
      (run : initialScan node db descriptor = .ok (db', report)) :
      ∃ progress : ScanProgress, Attributed db descriptor (reportedCoins node descriptor) progress ∧
        (AttributionLaw paid node db descriptor db' ↔
          AttributionLaw paid node db descriptor progress.db) := by
    obtain ⟨progress, attributed, after, -⟩ :=
      initialScan_processed (attributed_invariant db descriptor)
        (fun _ _ _ _ _ before step => before.round step) run
    refine ⟨progress, attributed, ?_⟩
    rw [after]
    exact ⟨fun law => ⟨law.inserted, law.noneSkipped⟩,
      fun law => ⟨law.inserted, law.noneSkipped⟩⟩
  constructor
  · rintro ⟨db', report, run, law⟩
    obtain ⟨progress, attributed, sameLaw⟩ := scanned run
    exact attributed.fit (sameLaw.mp law)
  · intro fit
    obtain ⟨db', report, run⟩ := initialScan_returns_of_fit answers fit
    obtain ⟨progress, attributed, sameLaw⟩ := scanned run
    exact ⟨db', report, run, sameLaw.mpr (attributed.law fit)⟩

/-! ### Ranged keys -/

theorem shownIndex_of_ranged {key : KeyExpression} (ranged : key.wildcard = some false)
    (index : Nat) : key.shownIndex index = some index := by
  rw [KeyExpression.shownIndex, KeyExpression.shownPath, KeyExpression.derivedSteps, ranged, endIndex,
    ← List.append_assoc, Option.toList_some, List.map_singleton, List.getLast?_concat]
  rfl

/-- Where every key is ranged, the first number is the index, whatever the order of the keys. -/
theorem leadingIndex_of_ranged {keys : List KeyExpression} (some_key : keys ≠ [])
    (ranged : ∀ key ∈ keys, key.wildcard = some false) (index : Nat) :
    leadingIndex keys index = some index := by
  cases keys with
  | nil => exact absurd rfl some_key
  | cons key rest =>
      rw [leadingIndex, List.findSome?_cons,
        shownIndex_of_ranged (ranged key List.mem_cons_self) index]

/-- With ranged keys, a reported coin leads to the row at the index that its address is derived at. -/
theorem numberedRow_of_ranged
    (reports : ReportsScripts library nodeKeys node descriptor keysOf script paid)
    (ranged : ∀ branch ∈ descriptor.branches, keysOf branch.1 ≠ [] ∧
      ∀ key ∈ keysOf branch.1, key.wildcard = some false) {coin : Bool × ScanUtxo}
    (reported : coin ∈ reportedCoins node descriptor) :
    ∃ branch ∈ descriptor.branches,
      numberedRow db descriptor script coin = addressAt db descriptor branch.1 (script coin).index ∧
        paid coin.2.outpoint =
          library.deriveAddress branch.2 descriptor.network (script coin).index := by
  have samePerm := reports.keys coin reported
  obtain ⟨branch, listed, inBranch⟩ := List.mem_flatMap.mp reported
  obtain ⟨unspent, answered, rfl⟩ := List.mem_map.mp inBranch
  obtain ⟨someKey, allRanged⟩ := ranged branch listed
  refine ⟨branch, listed, ?_, reports.pays branch listed unspent answered⟩
  rw [numberedRow, leadingIndex_of_ranged]
  · rfl
  · exact fun none => someKey (List.Perm.nil_eq (none ▸ samePerm)).symm
  · exact fun key member => allRanged key (samePerm.mem_iff.mp member)

/-- The scan is right for ranged keys: when the rows of the branches hold the derived addresses, no
    row has an address of a branch beyond them, and the transactions of new coins have at most one
    entry each. -/
theorem indicesFit_of_ranged
    (reports : ReportsScripts library nodeKeys node descriptor keysOf script paid)
    (ranged : ∀ branch ∈ descriptor.branches, keysOf branch.1 ≠ [] ∧
      ∀ key ∈ keysOf branch.1, key.wildcard = some false)
    (derived : ∀ branch ∈ descriptor.branches, ∀ index row,
      addressAt db descriptor branch.1 index = some row →
        row.address = library.deriveAddress branch.2 descriptor.network index)
    (covered : ∀ branch ∈ descriptor.branches, ∀ index,
      addressAt db descriptor branch.1 index = none →
        ∀ row ∈ db.addresses.rows,
          row.address ≠ library.deriveAddress branch.2 descriptor.network index)
    (oneEntry : ∀ coin ∈ reportedCoins node descriptor, db.utxos.get? coin.2.outpoint = none →
      (LedgerEntryRepo.entriesFor db coin.2.txid).length ≤ 1) :
    IndicesFit paid node db descriptor (numberedRow db descriptor script) := by
  have atIndex := fun coin reported =>
    @numberedRow_of_ranged _ _ _ db _ _ _ _ reports ranged coin reported
  intro coin reported unknown
  constructor
  · intro row first
    obtain ⟨other, otherReported, here, leads⟩ := exists_of_firstRow first
    obtain ⟨branch, listed, atRow, pays⟩ := atIndex other otherReported
    rw [atRow] at leads
    rw [← here, pays]
    exact ⟨derived branch listed _ row leads, oneEntry coin reported unknown⟩
  · intro absent row stored
    obtain ⟨branch, listed, atRow, pays⟩ := atIndex coin reported
    rw [pays]
    refine covered branch listed _ ?_ row stored
    rw [← atRow]
    by_contra leads
    have found := firstRow_isSome_iff.mpr
      ⟨coin, reported, rfl, Option.isSome_iff_ne_none.mpr leads⟩
    rw [absent] at found
    cases found

end OneScan

/-! ### A vault with a fixed key -/

/-- A cosigner's key that the descriptor gives as it is, with the path that it is from. -/
def fixedCosigner : KeyExpression where
  origin := some ⟨['a', 'a', 'a', 'a', 'a', 'a', 'a', 'a'], [⟨45, false⟩, ⟨1, false⟩],
    List.all_eq_true.mp rfl⟩
  key := ⟨['0', '2', 'a', 'a'], List.all_eq_true.mp rfl⟩
  steps := []
  wildcard := none

/-- A cosigner's key that is derived at the index. -/
def rangedCosigner : KeyExpression where
  origin := none
  key := ⟨['t', 'p', 'u', 'b'], List.all_eq_true.mp rfl⟩
  steps := [⟨0, false⟩]
  wildcard := some false

/-- A vault of the two cosigners, with its first two addresses. -/
def vaultDescriptor : DescriptorRow :=
  ⟨1, 10, "wsh(sortedmulti(2,[aaaaaaaa/45/1]02aa,tpub/0/*))", none, .regtest, .p2wsh, 2, 0⟩

def vaultWallet : Database :=
  { Database.empty with
    holdings := Table.empty.insert ⟨10, .vault, .reserve, .hardwareOffline⟩
    descriptors := Table.empty.insert vaultDescriptor
    addresses := (Table.empty.insert ⟨1, 1, "bcrt1qzero", false, 0, none, none, false⟩).insert
      ⟨2, 1, "bcrt1qone", false, 1, none, none, false⟩ }

def vaultLibrary : DescriptorLibrary where
  descriptor _ _ := .ok ⟨.wshSortedMulti, false, "", ""⟩
  deriveAddress _ _ index := if index = 0 then "bcrt1qzero" else "bcrt1qone"

def vaultNodeKeys : NodeKeys where
  fingerprint _ := ['b', 'b', 'b', 'b', 'b', 'b', 'b', 'b']
  hex _ := List.all_eq_true.mp rfl
  publicKey key _ :=
    if key.wildcard = none then ⟨['0', '2', 'a', 'a'], by decide, List.all_eq_true.mp rfl⟩
    else ⟨['0', '3', 'b', 'b'], by decide, List.all_eq_true.mp rfl⟩
  mark := 'h'
  marks := .inl rfl

/-- A coin of the first address. -/
def vaultCoin : ScanUtxo :=
  ⟨.repeated 'a', 0, 100000, 7, "wsh(multi(2,[aaaaaaaa/45/1]02aa,[bbbbbbbb/0/0]03bb))"⟩

def vaultNode : ScanNode where
  scanDescriptors _ := .ok ⟨7, [vaultCoin]⟩
  feeRate := 10
  now := 0

/-- Both keys of the vault, in the order of the descriptor and of the report. -/
def cosigners : List KeyExpression := [fixedCosigner, rangedCosigner]

theorem vaultNode_answers : Answers vaultNode vaultDescriptor := by
  intro branch _ message refused
  cases refused

theorem vaultNode_reports :
    ReportsScripts vaultLibrary vaultNodeKeys vaultNode vaultDescriptor (fun _ => cosigners)
      (fun _ => ⟨cosigners, 0⟩) (fun _ => "bcrt1qzero") where
  expressed := by
    intro branch listed
    have one : branch = (false, vaultDescriptor.expression) := List.mem_singleton.mp listed
    subst one
    refine ⟨.wsh (.multi .sortedMulti 2 [⟨fixedCosigner.text 'h', List.all_eq_true.mp rfl⟩,
      ⟨rangedCosigner.text 'h', List.all_eq_true.mp rfl⟩]), none, 'h', .inl rfl, ?_, rfl⟩
    decide
  keys := fun _ _ => List.Perm.refl _
  writes := by
    intro coin reported
    have one : coin = (false, vaultCoin) := List.mem_singleton.mp reported
    subst one
    refine ⟨.wsh (.multi .multi 2 [⟨vaultNodeKeys.keyText 0 fixedCosigner,
        List.all_eq_true.mp rfl⟩,
      ⟨vaultNodeKeys.keyText 0 rangedCosigner,
        List.all_eq_true.mp rfl⟩]), none, ?_, rfl, ?_, ?_⟩
    · decide
    · exact fun digest member => absurd member List.not_mem_nil
    · exact fun c member => absurd member (Option.not_mem_none c)
  pays := fun _ _ _ _ => rfl

theorem scanAttributes_iff_vault :
    (∃ db' report, initialScan vaultNode vaultWallet vaultDescriptor = .ok (db', report) ∧
        AttributionLaw (fun _ => "bcrt1qzero") vaultNode vaultWallet vaultDescriptor db') ↔
      IndicesFit (fun _ => "bcrt1qzero") vaultNode vaultWallet vaultDescriptor
        (numberedRow vaultWallet vaultDescriptor fun _ => ⟨cosigners, 0⟩) :=
  scanAttributes_iff vaultNode_answers vaultNode_reports

/-- The path of the fixed key ends with 1, so the coin of the first address goes to the second. -/
theorem fixed_key_misattributes :
    Answers vaultNode vaultDescriptor ∧
      ReportsScripts vaultLibrary vaultNodeKeys vaultNode vaultDescriptor (fun _ => cosigners)
        (fun _ => ⟨cosigners, 0⟩) (fun _ => "bcrt1qzero") ∧
      ¬∃ db' report, initialScan vaultNode vaultWallet vaultDescriptor = .ok (db', report) ∧
        AttributionLaw (fun _ => "bcrt1qzero") vaultNode vaultWallet vaultDescriptor db' := by
  refine ⟨vaultNode_answers, vaultNode_reports, ?_⟩
  rintro ⟨db', report, run, law⟩
  have attributed : (initialScan vaultNode vaultWallet vaultDescriptor).toOption.map (fun scan =>
      scan.1.utxos.rows.map fun row =>
        (row.outpoint, (scan.1.addresses.get? row.addressId).map AddressRow.address)) =
      some [(vaultCoin.outpoint, some "bcrt1qone")] := by decide +kernel
  rw [run] at attributed
  have rows : (db'.utxos.rows.map fun row =>
      (row.outpoint, (db'.addresses.get? row.addressId).map AddressRow.address)) =
        [(vaultCoin.outpoint, some "bcrt1qone")] := Option.some.inj attributed
  cases stored : db'.utxos.rows with
  | nil => simp [stored] at rows
  | cons row rest =>
      rw [stored, List.map_cons, List.cons.injEq, Prod.mk.injEq] at rows
      have pays := law.inserted row (by rw [stored]; exact List.mem_cons_self) rfl
      rw [rows.1.2] at pays
      exact absurd pays (by decide)

end TallyKeep
