/-
Module: TallyKeep.Proofs.ChainScan
Layer: Proofs
Purpose: What one round of a snapshot scan leaves behind when the node reports outputs of one
  transaction, and what every scan keeps.
Trusted boundary: none
Main exports: Absorbed, absorbAll, ScanState, scanUnspent_state, absorbAll_linked,
  initialScan_invariant
-/
import TallyKeep.Proofs.ChainProcessing
import TallyKeep.Services.ChainScan

namespace TallyKeep

open Relational

/-! ### What the scan reads from the node -/

/-- A reported coin as a found output of its address row. -/
def scannedOutput (descriptor : DescriptorRow) (unspent : ScanUtxo) (address : AddressRow) :
    DiscoveredOutput :=
  ⟨unspent.vout, unspent.amountSats, address.address, address.id, descriptor.id,
    descriptor.holdingId⟩

/-- Which address row a reported coin belongs to does not depend on reuse flags. -/
theorem addressOfUnspent_congr {db db' : Database}
    (sameAddresses : db'.addresses.rows.map AddressRow.core = db.addresses.rows.map AddressRow.core)
    (descriptor : DescriptorRow) (isChange : Bool) (unspent : ScanUtxo) :
    (addressOfUnspent db' descriptor isChange unspent).map AddressRow.core =
      (addressOfUnspent db descriptor isChange unspent).map AddressRow.core := by
  have throughCore : ∀ (base : Database) (index : Nat),
      (addressAt base descriptor isChange index).map AddressRow.core =
        ((base.addresses.rows.map AddressRow.core).filter fun row =>
          decide (row.descriptorId = descriptor.id)).find? fun row =>
            decide (row.isChange = isChange ∧ row.derivationIndex = index) := by
    intro base index
    rw [addressAt, Table.select, List.filter_map, List.find?_map]
    rfl
  simp only [addressOfUnspent]
  cases parseDerivationIndex unspent.descriptor with
  | none => rfl
  | some index =>
      simp only [Option.bind_some, throughCore, sameAddresses]

/-- The text of an address does not depend on reuse flags. -/
theorem addressText_congr {db base : Database}
    (sameAddresses : db.addresses.rows.map AddressRow.core = base.addresses.rows.map AddressRow.core)
    (addressId : Uuid) :
    (db.addresses.get? addressId).map AddressRow.address =
      (base.addresses.get? addressId).map AddressRow.address := by
  have throughCore : ∀ other : Database, (other.addresses.get? addressId).map AddressRow.address =
      ((other.addresses.rows.map AddressRow.core).find? fun row =>
        decide (row.id = addressId)).map AddressRow.address := by
    intro other
    rw [List.find?_map, Option.map_map]
    rfl
  rw [throughCore, throughCore, sameAddresses]

/-- The found output of a reported coin sees an address row up to its reuse flag. -/
theorem scannedOutput_congr {db db' : Database}
    (sameAddresses : db'.addresses.rows.map AddressRow.core = db.addresses.rows.map AddressRow.core)
    (descriptor : DescriptorRow) (isChange : Bool) (unspent : ScanUtxo) :
    (addressOfUnspent db' descriptor isChange unspent).map (scannedOutput descriptor unspent) =
      (addressOfUnspent db descriptor isChange unspent).map (scannedOutput descriptor unspent) := by
  have throughCore : ∀ address : Option AddressRow,
      address.map (scannedOutput descriptor unspent) =
        (address.map AddressRow.core).map (scannedOutput descriptor unspent) := by
    intro address
    cases address <;> rfl
  rw [throughCore, addressOfUnspent_congr sameAddresses, ← throughCore]

/-! ### What the scan leaves behind -/

/-- The scan's memory of what it has found: the outputs it took as new coins, and among them those
    it linked to a holding. -/
structure Absorbed where
  coins : List DiscoveredOutput
  linked : List DiscoveredOutput

/-- An output at a known index is passed over; a new coin is linked unless its holding has a
    link. -/
def Absorbed.absorb (absorbed : Absorbed) (found : DiscoveredOutput) : Absorbed :=
  if absorbed.coins.any fun coin => decide (coin.vout = found.vout) then absorbed
  else
    { coins := absorbed.coins ++ [found]
      linked :=
        if absorbed.linked.any fun coin => decide (coin.holdingId = found.holdingId) then
          absorbed.linked
        else absorbed.linked ++ [found] }

def Absorbed.start : Absorbed := ⟨[], []⟩

/-- The scan's memory after some found outputs. -/
def absorbAll (found : List DiscoveredOutput) : Absorbed := found.foldl Absorbed.absorb .start

/-- The entry the scan writes for a transaction. -/
def scanEntry (node : ScanNode) (tx : DecodedTx) (entryId : Uuid) (valueSats : Nat) :
    LedgerEntryRow :=
  ⟨entryId, .incoming, valueSats, node.now, .onchainTransaction, tx.txid.text⟩

@[simp] theorem scanEntry_id (node : ScanNode) (tx : DecodedTx) (entryId : Uuid) (valueSats : Nat) :
    (scanEntry node tx entryId valueSats).id = entryId := rfl

theorem Txid.text_ne_empty (txid : Txid) : txid.text ≠ "" := by
  intro empty
  have length := txid.lengthEq
  rw [empty] at length
  cases length

/-- The entry of an incoming amount passes its checks. -/
theorem postInit_incoming (entryId : Uuid) (valueSats : Nat) (timestamp : Timestamp)
    (txid : Txid) :
    LedgerEntryRow.postInit
        ⟨entryId, .incoming, valueSats, timestamp, .onchainTransaction, txid.text⟩ =
      .ok ⟨entryId, .incoming, valueSats, timestamp, .onchainTransaction, txid.text⟩ := by
  rw [LedgerEntryRow.postInit, if_neg txid.text_ne_empty, if_neg (by simp), if_neg (by simp)]

/-- The entry of a scan passes its checks. -/
theorem postInit_scanEntry (node : ScanNode) (tx : DecodedTx) (entryId : Uuid) (valueSats : Nat) :
    (scanEntry node tx entryId valueSats).postInit = .ok (scanEntry node tx entryId valueSats) :=
  postInit_incoming entryId valueSats node.now tx.txid

/-- One entry with the value of the first linked coin, one link to it per linked coin, nothing
    else. -/
def LedgerHolds (db : Database) (node : ScanNode) (tx : DecodedTx)
    (linked : List DiscoveredOutput) : Prop :=
  ∃ entryId,
    db.ledgerEntries.rows =
      linked.head?.toList.map (fun coin => scanEntry node tx entryId coin.valueSats) ∧
    db.ledgerLinks.rows = linked.map fun coin => ⟨entryId, coin.holdingId, coin.valueSats⟩

/-- A database that scans have filled: one coin per new output, and the ledger of the linked
    coins. -/
structure ScanState (base db : Database) (node : ScanNode) (tx : DecodedTx) (absorbed : Absorbed) :
    Prop where
  holders : db.holdingOf = base.holdingOf
  addresses : db.addresses.rows.map AddressRow.core = base.addresses.rows.map AddressRow.core
  coins : ∀ outpoint,
    (db.coinAt outpoint).map (fun row => (row.addressId, row.valueSats)) =
      (absorbed.coins.find? fun coin => (⟨tx.txid, coin.vout⟩ : Outpoint) = outpoint).map
        fun coin => (coin.addressId, coin.valueSats)
  ledger : LedgerHolds db node tx absorbed.linked

/-- A scan begins with a wallet that has no coins and no ledger. -/
theorem ScanState.start {base : Database} (noCoins : base.utxos = .empty)
    (noEntries : base.ledgerEntries = .empty) (noLinks : base.ledgerLinks = .empty)
    (node : ScanNode) (tx : DecodedTx) : ScanState base base node tx .start where
  holders := rfl
  addresses := rfl
  coins := by simp [Database.coinAt, noCoins, Absorbed.start]
  ledger := ⟨0, by simp [noEntries, Absorbed.start], by simp [noLinks, Absorbed.start]⟩

/-- The database after the coin is written and before the ledger is. -/
def coinStage (node : ScanNode) (descriptor : DescriptorRow) (address : AddressRow)
    (unspent : ScanUtxo) (db : Database) : Database :=
  let row := UtxoRow.discovered (UtxoRepo.freshId db) descriptor.id address.id
    ⟨unspent.txid, unspent.vout⟩ unspent.amountSats unspent.confirmationHeight
  applyFlagsAndPropagateReuse
    (OnchainRepo.upsert (UtxoRepo.upsertUnspent db row) unspent.txid none
      unspent.confirmationHeight none)
    row ⟨none, descriptor.addressType, node.feeRate⟩

/-- An unknown coin is inserted. -/
theorem upsertUnspent_of_unknown {db : Database} {row : UtxoRow}
    (unknown : db.utxos.get? row.outpoint = none) :
    UtxoRepo.upsertUnspent db row = db.withUtxos (db.utxos.insert row) := by
  simp only [UtxoRepo.upsertUnspent, unknown]
  rfl

section CoinStage

variable {node : ScanNode} {descriptor : DescriptorRow} {address : AddressRow}
  {unspent : ScanUtxo} {db : Database}

/-- What a scanned coin leaves of the tables. -/
theorem coinStage_tables (unknown : db.utxos.get? ⟨unspent.txid, unspent.vout⟩ = none) :
    (coinStage node descriptor address unspent db).descriptors = db.descriptors ∧
      (coinStage node descriptor address unspent db).addresses.rows.map AddressRow.core =
        db.addresses.rows.map AddressRow.core ∧
      (coinStage node descriptor address unspent db).ledgerEntries = db.ledgerEntries ∧
      (coinStage node descriptor address unspent db).ledgerLinks = db.ledgerLinks := by
  obtain ⟨tables, addresses⟩ := applyFlagsAndPropagateReuse_sameButCoins
    (OnchainRepo.upsert (UtxoRepo.upsertUnspent db
      (UtxoRow.discovered (UtxoRepo.freshId db) descriptor.id address.id
        ⟨unspent.txid, unspent.vout⟩ unspent.amountSats unspent.confirmationHeight)) unspent.txid
      none unspent.confirmationHeight none)
    (UtxoRow.discovered (UtxoRepo.freshId db) descriptor.id address.id
      ⟨unspent.txid, unspent.vout⟩ unspent.amountSats unspent.confirmationHeight)
    ⟨none, descriptor.addressType, node.feeRate⟩
  rw [upsert_eq, upsertUnspent_of_unknown unknown] at tables addresses
  simp only [coinStage]
  rw [upsert_eq, upsertUnspent_of_unknown unknown, addresses, tables]
  exact ⟨rfl, rfl, rfl, rfl⟩

/-- A scanned coin records its transaction. -/
theorem coinStage_onchain (unknown : db.utxos.get? ⟨unspent.txid, unspent.vout⟩ = none) :
    (coinStage node descriptor address unspent db).onchainTransactions =
      (OnchainRepo.upsert db unspent.txid none unspent.confirmationHeight
        none).onchainTransactions := by
  have tables := (applyFlagsAndPropagateReuse_sameButCoins
    (OnchainRepo.upsert (UtxoRepo.upsertUnspent db
      (UtxoRow.discovered (UtxoRepo.freshId db) descriptor.id address.id
        ⟨unspent.txid, unspent.vout⟩ unspent.amountSats unspent.confirmationHeight)) unspent.txid
      none unspent.confirmationHeight none)
    (UtxoRow.discovered (UtxoRepo.freshId db) descriptor.id address.id
      ⟨unspent.txid, unspent.vout⟩ unspent.amountSats unspent.confirmationHeight)
    ⟨none, descriptor.addressType, node.feeRate⟩).tables
  rw [upsertUnspent_of_unknown unknown, upsert_withUtxos] at tables
  simp only [coinStage]
  rw [upsertUnspent_of_unknown unknown, upsert_withUtxos, tables]
  rfl

/-- The coin of every outpoint after a scanned one. -/
theorem coinAt_coinStage (unknown : db.utxos.get? ⟨unspent.txid, unspent.vout⟩ = none)
    (outpoint : Outpoint) :
    (coinStage node descriptor address unspent db).coinAt outpoint =
      if outpoint = ⟨unspent.txid, unspent.vout⟩ then
        some (UtxoRow.discovered 0 descriptor.id address.id ⟨unspent.txid, unspent.vout⟩
          unspent.amountSats unspent.confirmationHeight)
      else db.coinAt outpoint := by
  rw [coinStage, coinAt_applyFlagsAndPropagateReuse, coinAt_upsert,
    upsertUnspent_of_unknown unknown, Database.coinAt, Database.utxos_withUtxos,
    Table.get?_insert_of_fresh unknown]
  by_cases here : outpoint = ⟨unspent.txid, unspent.vout⟩
  · subst here
    rw [if_pos rfl]
    exact congrArg (Option.map UtxoRow.core) (if_pos rfl)
  · rw [if_neg here]
    exact congrArg (Option.map UtxoRow.core) (if_neg here)

end CoinStage

/-! ### What every recorded coin keeps, a scan keeps -/

/-- Asked for a branch of the descriptor, bitcoind reports the coin, and it belongs to an address
    row. -/
def Reported (start : Database) (node : ScanNode) (descriptor : DescriptorRow) (unspent : ScanUtxo)
    (address : AddressRow) : Prop :=
  ∃ branch ∈ descriptor.branches, ∃ result, node.scanDescriptors branch.2 = .ok result ∧
    unspent ∈ result.utxos ∧ addressOfUnspent start descriptor branch.1 unspent = some address

section Invariant

variable {I : Database → Prop} {node : ScanNode} {descriptor : DescriptorRow} {start : Database}

/-- Recording a coin that was reported and not known keeps the invariant. -/
def ReportKeeps (I : Database → Prop) (start : Database) (node : ScanNode)
    (descriptor : DescriptorRow) : Prop :=
  ∀ db address unspent db', I db → db.utxos.get? ⟨unspent.txid, unspent.vout⟩ = none →
    Reported start node descriptor unspent address →
      recordUnspent node descriptor address unspent db = .ok db' → I db'

/-- Recording a coin that bitcoind reported and that was not known keeps the invariant. -/
def RecordKeeps (I : Database → Prop) (node : ScanNode) (descriptor : DescriptorRow) : Prop :=
  ∀ db address unspent db', I db → db.utxos.get? ⟨unspent.txid, unspent.vout⟩ = none →
    (∃ expression result, node.scanDescriptors expression = .ok result ∧
      unspent ∈ result.utxos) →
      recordUnspent node descriptor address unspent db = .ok db' → I db'

/-- What every recording keeps is kept by every report. -/
theorem RecordKeeps.reportKeeps (records : RecordKeeps I node descriptor) (start : Database) :
    ReportKeeps I start node descriptor := by
  intro db address unspent db' holds unknown reported
  obtain ⟨branch, -, result, answer, listed, -⟩ := reported
  exact records db address unspent db' holds unknown ⟨branch.2, result, answer, listed⟩

/-- A round of the scan keeps an invariant. -/
theorem scanUnspent_invariant (records : ReportKeeps I start node descriptor) {isChange : Bool}
    {progress progress' : ScanProgress} {unspent : ScanUtxo}
    (reported : ∀ address, addressOfUnspent start descriptor isChange unspent = some address →
      Reported start node descriptor unspent address)
    (run : scanUnspent node start descriptor isChange progress unspent = .ok progress')
    (holds : I progress.db) : I progress'.db := by
  rw [scanUnspent] at run
  cases known : addressOfUnspent start descriptor isChange unspent with
  | none =>
      simp only [known] at run
      cases run
      exact holds
  | some address =>
      simp only [known] at run
      cases coin : progress.db.utxos.get? ⟨unspent.txid, unspent.vout⟩ with
      | some row =>
          simp only [coin] at run
          cases run
          exact holds
      | none =>
          simp only [coin] at run
          rw [bind_ok_iff] at run
          obtain ⟨db', recorded, run⟩ := run
          cases run
          exact records progress.db address unspent db' holds coin (reported address known) recorded

/-- A branch of the scan keeps an invariant. -/
theorem scanBranch_invariant (records : ReportKeeps I start node descriptor)
    {branch : Bool × String} (listed : branch ∈ descriptor.branches)
    {progress progress' : ScanProgress}
    (run : scanBranch node start descriptor progress branch = .ok progress')
    (holds : I progress.db) : I progress'.db := by
  rw [scanBranch] at run
  split at run
  · cases run
    exact holds
  · cases run
  · rename_i result answer
    apply foldlM_invariant (I := fun progress => I progress.db) _ run holds
    intro s unspent member s' before round
    refine scanUnspent_invariant records (fun address known => ?_) round before
    exact ⟨branch, listed, result, answer, member, known⟩

/-- A scan ends in a database that satisfies the invariant, but for the height of its descriptor. -/
theorem initialScan_reports {db db' : Database} (records : ReportKeeps I db node descriptor)
    {report : ScanReport} (run : initialScan node db descriptor = .ok (db', report))
    (holds : I db) :
    ∃ scanned height, I scanned ∧ db' =
      { scanned with
        descriptors := scanned.descriptors.update descriptor.id fun row =>
          { row with lastScannedHeight := max row.lastScannedHeight height } } := by
  rw [initialScan, bind_ok_iff] at run
  obtain ⟨progress, scanned, run⟩ := run
  cases run
  refine ⟨progress.db, max progress.heightAtScan 1, ?_, rfl⟩
  apply foldlM_invariant (I := fun progress => I progress.db) _ scanned holds
  intro s branch listed s' before round
  exact scanBranch_invariant records listed round before

/-- A scan keeps an invariant, up to the height that it writes. -/
theorem initialScan_invariant (records : RecordKeeps I node descriptor) {db db' : Database}
    {report : ScanReport} (run : initialScan node db descriptor = .ok (db', report))
    (holds : I db) :
    ∃ scanned height, I scanned ∧ db' =
      { scanned with
        descriptors := scanned.descriptors.update descriptor.id fun row =>
          { row with lastScannedHeight := max row.lastScannedHeight height } } :=
  initialScan_reports (records.reportKeeps db) run holds

end Invariant

/-- The ledger step: a new entry for the first coin, later at most one link per holding. -/
theorem maybeCreateLedgerEntry_holds {db : Database} {node : ScanNode} {tx : DecodedTx}
    {linked : List DiscoveredOutput} (holds : LedgerHolds db node tx linked)
    (descriptor : DescriptorRow) (found : DiscoveredOutput)
    (holder : found.holdingId = descriptor.holdingId) :
    ∃ db', maybeCreateLedgerEntry db descriptor tx.txid found.valueSats node.now = .ok db' ∧
      db' = { db with ledgerEntries := db'.ledgerEntries, ledgerLinks := db'.ledgerLinks } ∧
      LedgerHolds db' node tx
        (if linked.any fun coin => decide (coin.holdingId = found.holdingId) then linked
        else linked ++ [found]) := by
  obtain ⟨entryId, entries, links⟩ := holds
  cases linked with
  | nil =>
      have noEntry : LedgerEntryRepo.getBySource db tx.txid = .ok none := by
        rw [LedgerEntryRepo.getBySource, LedgerEntryRepo.entriesFor, Table.select, entries]
        rfl
      have valid := postInit_scanEntry node tx db.ledgerEntries.freshKey found.valueSats
      have freshEntry : db.ledgerEntries.get? db.ledgerEntries.freshKey = none :=
        Table.get?_freshKey db.ledgerEntries
      have freshLink : db.ledgerLinks.get?
          (db.ledgerEntries.freshKey, descriptor.holdingId) = none := by
        rw [Table.get?_eq_none_iff, links]
        simp
      refine ⟨LedgerEntryRepo.insert db
        (scanEntry node tx db.ledgerEntries.freshKey found.valueSats)
        ⟨db.ledgerEntries.freshKey, descriptor.holdingId, found.valueSats⟩, ?_, rfl,
        db.ledgerEntries.freshKey, ?_, ?_⟩
      · rw [scanEntry] at valid
        simp only [maybeCreateLedgerEntry, noEntry, valid, bind, Except.bind, pure, Except.pure]
        rfl
      · simp only [LedgerEntryRepo.insert]
        rw [Table.rows_insert_of_fresh freshEntry, entries]
        rfl
      · simp only [LedgerEntryRepo.insert]
        rw [Table.rows_insert_of_fresh freshLink, links]
        simp [holder]
  | cons first rest =>
      have theEntry : LedgerEntryRepo.getBySource db tx.txid =
          .ok (some (scanEntry node tx entryId first.valueSats)) := by
        rw [LedgerEntryRepo.getBySource, LedgerEntryRepo.entriesFor, Table.select, entries]
        simp [LedgerEntryRow.RecordsTx, scanEntry, scalarOneOrNone]
      have linkIff : (db.ledgerLinks.get? (entryId, descriptor.holdingId)).isSome =
          (first :: rest).any fun coin => decide (coin.holdingId = found.holdingId) := by
        rw [Bool.eq_iff_iff, Table.get?_isSome_iff, links, List.map_map, List.any_eq_true, holder]
        simp only [List.mem_map, Function.comp_apply, decide_eq_true_eq]
        constructor
        · rintro ⟨coin, member, same⟩
          exact ⟨coin, member, congrArg Prod.snd same⟩
        · rintro ⟨coin, member, same⟩
          exact ⟨coin, member, congrArg (Prod.mk entryId) same⟩
      cases present : (first :: rest).any fun coin => decide (coin.holdingId = found.holdingId) with
      | true =>
          refine ⟨db, ?_, rfl, entryId, entries, links⟩
          rw [present] at linkIff
          simp only [maybeCreateLedgerEntry, theEntry, scanEntry_id, linkIff, bind, Except.bind, pure,
            Except.pure, if_true]
      | false =>
          have freshLink : db.ledgerLinks.get? (entryId, descriptor.holdingId) = none := by
            rw [present] at linkIff
            exact Option.isNone_iff_eq_none.mp (by simpa using linkIff)
          let link : LedgerEntryHoldingLinkRow :=
            ⟨entryId, descriptor.holdingId, found.valueSats⟩
          refine ⟨{ db with ledgerLinks := db.ledgerLinks.insert link }, ?_, rfl, entryId, ?_, ?_⟩
          · simp [maybeCreateLedgerEntry, theEntry, freshLink, link, bind, Except.bind, pure,
              Except.pure]
          · rw [entries]
            rfl
          · have appended := Table.rows_insert_of_fresh (r := link) freshLink
            rw [appended, links]
            simp [holder, link]

section Scan

variable {base : Database} {node : ScanNode} {tx : DecodedTx}

/-- The scan takes an index for new exactly when no coin is there. -/
theorem ScanState.unknown_iff {db : Database} {absorbed : Absorbed}
    (state : ScanState base db node tx absorbed) (vout : Nat) :
    db.utxos.get? ⟨tx.txid, vout⟩ = none ↔
      (absorbed.coins.any fun coin => decide (coin.vout = vout)) = false := by
  have coin := state.coins ⟨tx.txid, vout⟩
  rw [← Database.coinAt_eq_none_iff]
  constructor
  · intro none
    rw [none, Option.map_none, eq_comm, Option.map_eq_none_iff, List.find?_eq_none] at coin
    rw [List.any_eq_false]
    intro other member
    simpa using coin other member
  · intro absent
    have notFound : (absorbed.coins.find? fun coin =>
        (⟨tx.txid, coin.vout⟩ : Outpoint) = ⟨tx.txid, vout⟩) = none := by
      rw [List.find?_eq_none]
      rw [List.any_eq_false] at absent
      intro other member
      simpa using absent other member
    rw [notFound, Option.map_none, Option.map_eq_none_iff] at coin
    exact coin

/-- A new coin is written with its ledger step. -/
theorem ScanState.recordUnspent {db : Database} {absorbed : Absorbed}
    (state : ScanState base db node tx absorbed) (descriptor : DescriptorRow)
    (address : AddressRow) {unspent : ScanUtxo} (ofTx : unspent.txid = tx.txid)
    (unknown : db.utxos.get? ⟨unspent.txid, unspent.vout⟩ = none) :
    ∃ db', TallyKeep.recordUnspent node descriptor address unspent db = .ok db' ∧
      ScanState base db' node tx (absorbed.absorb (scannedOutput descriptor unspent address)) := by
  obtain ⟨sameDescriptors, sameAddresses, sameEntries, sameLinks⟩ :=
    @coinStage_tables node descriptor address unspent db unknown
  have coins := @coinAt_coinStage node descriptor address unspent db unknown
  have holds : LedgerHolds (coinStage node descriptor address unspent db) node tx absorbed.linked := by
    rw [LedgerHolds, sameEntries, sameLinks]
    exact state.ledger
  obtain ⟨db', run, tables, holds'⟩ := maybeCreateLedgerEntry_holds holds descriptor
    (scannedOutput descriptor unspent address) rfl
  have absent := (state.unknown_iff unspent.vout).mp (by rw [← ofTx]; exact unknown)
  refine ⟨db', ?_, ?_⟩
  · rw [← ofTx] at run
    exact run
  · have absorbs : absorbed.absorb (scannedOutput descriptor unspent address) =
        { coins := absorbed.coins ++ [scannedOutput descriptor unspent address]
          linked :=
            if absorbed.linked.any fun coin => decide (coin.holdingId = descriptor.holdingId) then
              absorbed.linked
            else absorbed.linked ++ [scannedOutput descriptor unspent address] } := by
      rw [Absorbed.absorb]
      exact if_neg (Bool.eq_false_iff.mp absent)
    have sameUtxos : db'.utxos = (coinStage node descriptor address unspent db).utxos := by rw [tables]
    rw [absorbs]
    refine ⟨?_, ?_, ?_, holds'⟩
    · funext descriptorId
      rw [tables, ← state.holders, Database.holdingOf, Database.holdingOf, sameDescriptors]
    · rw [tables, ← state.addresses]
      exact sameAddresses
    · intro outpoint
      have coinEq : db'.coinAt outpoint =
          (coinStage node descriptor address unspent db).coinAt outpoint := by
        rw [Database.coinAt, sameUtxos, Database.coinAt]
      rw [coinEq, coins, List.find?_append, ofTx]
      by_cases here : outpoint = ⟨tx.txid, unspent.vout⟩
      · subst here
        have notBefore : (absorbed.coins.find? fun coin =>
            (⟨tx.txid, coin.vout⟩ : Outpoint) = ⟨tx.txid, unspent.vout⟩) = none := by
          rw [List.find?_eq_none]
          rw [List.any_eq_false] at absent
          intro other member
          simpa using absent other member
        rw [notBefore]
        simp [scannedOutput, UtxoRow.discovered]
      · have notNow : ([scannedOutput descriptor unspent address].find? fun coin =>
            (⟨tx.txid, coin.vout⟩ : Outpoint) = outpoint) = none := by
          rw [List.find?_eq_none]
          intro other member same
          rw [List.mem_singleton.mp member] at same
          exact here (by simpa [scannedOutput, eq_comm] using same)
        rw [notNow, Option.or_none, if_neg here]
        exact state.coins outpoint

variable {start : Database}
  (sameStart : start.addresses.rows.map AddressRow.core = base.addresses.rows.map AddressRow.core)
  {descriptor : DescriptorRow}

include sameStart in
/-- One round of the loop absorbs the found output of the reported coin, if it has one. -/
theorem scanUnspent_state {progress : ScanProgress} {absorbed : Absorbed} {isChange : Bool}
    (state : ScanState base progress.db node tx absorbed) {unspent : ScanUtxo}
    (ofTx : (addressOfUnspent base descriptor isChange unspent).isSome → unspent.txid = tx.txid) :
    ∃ progress', scanUnspent node start descriptor isChange progress unspent = .ok progress' ∧
      ScanState base progress'.db node tx
        (((addressOfUnspent base descriptor isChange unspent).map
          (scannedOutput descriptor unspent)).toList.foldl Absorbed.absorb absorbed) := by
  have sameRow := addressOfUnspent_congr sameStart descriptor isChange unspent
  rw [← scannedOutput_congr sameStart]
  cases matched : addressOfUnspent start descriptor isChange unspent with
  | none => exact ⟨progress, by rw [scanUnspent, matched], state⟩
  | some address =>
      have here := ofTx (by
        rw [matched] at sameRow
        cases other : addressOfUnspent base descriptor isChange unspent with
        | none => simp [other] at sameRow
        | some row => rfl)
      cases known : progress.db.utxos.get? ⟨unspent.txid, unspent.vout⟩ with
      | none =>
          obtain ⟨db', run, state'⟩ := state.recordUnspent descriptor address here known
          refine ⟨{ progress with
            db := db'
            utxosDiscovered := progress.utxosDiscovered + 1
            ledgerEntriesCreated := progress.ledgerEntriesCreated + 1 }, ?_, state'⟩
          simp only [scanUnspent, matched, known, run, bind, Except.bind, pure, Except.pure]
      | some row =>
          have present : (absorbed.coins.any fun coin => decide (coin.vout = unspent.vout)) = true := by
            rw [← Bool.not_eq_false, ← state.unknown_iff, ← here, known]
            simp
          refine ⟨{ progress with utxosPreExisting := progress.utxosPreExisting + 1 }, ?_, ?_⟩
          · simp only [scanUnspent, matched, known]
          · have passedOver : absorbed.absorb (scannedOutput descriptor unspent address) = absorbed :=
              if_pos present
            simp only [Option.map_some, Option.toList_some, List.foldl_cons, List.foldl_nil,
              passedOver]
            exact state

end Scan

/-- The scanned height is no part of what the ledgers and coins say. -/
theorem ScanState.withHeight {base db : Database} {node : ScanNode} {tx : DecodedTx}
    {absorbed : Absorbed} (state : ScanState base db node tx absorbed) (descriptorId : Uuid)
    (height : Nat) :
    ScanState base
      { db with
        descriptors := db.descriptors.update descriptorId fun row =>
          { row with lastScannedHeight := max row.lastScannedHeight height } } node tx absorbed := by
  refine ⟨?_, state.addresses, state.coins, state.ledger⟩
  funext otherId
  rw [← state.holders]
  simp only [Database.holdingOf, Table.get?_update]
  split
  · rename_i same
    rw [same]
    cases db.descriptors.get? descriptorId <;> rfl
  · rfl

/-! ### What the scan's memory holds -/

/-- One more output is absorbed last. -/
theorem absorbAll_concat (found : List DiscoveredOutput) (last : DiscoveredOutput) :
    absorbAll (found ++ [last]) = (absorbAll found).absorb last := by
  rw [absorbAll, List.foldl_append]
  rfl

/-- Every output leaves a coin. -/
theorem exists_absorbAll_coin {found : List DiscoveredOutput} {output : DiscoveredOutput}
    (member : output ∈ found) : ∃ coin ∈ (absorbAll found).coins, coin.vout = output.vout := by
  induction found using List.reverseRecOn with
  | nil => cases member
  | append_singleton found last inductionHypothesis =>
      rw [absorbAll_concat, Absorbed.absorb]
      cases known : (absorbAll found).coins.any fun coin => decide (coin.vout = last.vout) with
      | true =>
          rcases List.mem_append.mp member with old | new
          · exact inductionHypothesis old
          · obtain ⟨coin, coinMember, same⟩ := List.any_eq_true.mp known
            rw [List.mem_singleton.mp new]
            exact ⟨coin, coinMember, by simpa using same⟩
      | false =>
          rcases List.mem_append.mp member with old | new
          · obtain ⟨coin, coinMember, same⟩ := inductionHypothesis old
            exact ⟨coin, List.mem_append_left _ coinMember, same⟩
          · rw [List.mem_singleton.mp new]
            exact ⟨last, List.mem_append_right _ (List.mem_singleton.mpr rfl), rfl⟩

/-- A new coin is the first found output at its index. -/
theorem find?_of_mem_absorbAll_coins {found : List DiscoveredOutput} {coin : DiscoveredOutput}
    (member : coin ∈ (absorbAll found).coins) :
    found.find? (fun output => decide (output.vout = coin.vout)) = some coin := by
  induction found using List.reverseRecOn with
  | nil => cases member
  | append_singleton found last inductionHypothesis =>
      rw [absorbAll_concat, Absorbed.absorb] at member
      rw [List.find?_append]
      cases known : (absorbAll found).coins.any fun coin => decide (coin.vout = last.vout) with
      | true =>
          rw [known, if_pos rfl] at member
          rw [inductionHypothesis member, Option.some_or]
      | false =>
          rw [known, if_neg Bool.false_ne_true] at member
          rcases List.mem_append.mp member with old | new
          · rw [inductionHypothesis old, Option.some_or]
          · rw [List.mem_singleton] at new
            subst new
            have absent : found.find? (fun output => decide (output.vout = coin.vout)) = none := by
              rw [List.find?_eq_none]
              intro output there same
              obtain ⟨earlier, taken, sameVout⟩ := exists_absorbAll_coin there
              rw [List.any_eq_false] at known
              exact known earlier taken (by rw [sameVout]; exact same)
            rw [absent, Option.none_or]
            simp

/-- The new coins are at different indices. -/
theorem absorbAll_coins_nodup (found : List DiscoveredOutput) :
    ((absorbAll found).coins.map DiscoveredOutput.vout).Nodup := by
  induction found using List.reverseRecOn with
  | nil => exact List.nodup_nil
  | append_singleton found last inductionHypothesis =>
      rw [absorbAll_concat, Absorbed.absorb]
      cases known : (absorbAll found).coins.any fun coin => decide (coin.vout = last.vout) with
      | true => exact inductionHypothesis
      | false =>
          rw [if_neg Bool.false_ne_true, List.map_append, List.map_singleton]
          refine List.nodup_append.mpr ⟨inductionHypothesis, List.nodup_singleton _, ?_⟩
          intro vout earlier other isLast same
          obtain ⟨coin, taken, rfl⟩ := List.mem_map.mp earlier
          rw [List.mem_singleton.mp isLast] at same
          rw [List.any_eq_false] at known
          exact known coin taken (decide_eq_true same)

/-- The linked coins are some of the new coins. -/
theorem absorbAll_linked_sublist (found : List DiscoveredOutput) :
    (absorbAll found).linked.Sublist (absorbAll found).coins := by
  induction found using List.reverseRecOn with
  | nil => exact List.Sublist.refl _
  | append_singleton found last inductionHypothesis =>
      rw [absorbAll_concat, Absorbed.absorb]
      split
      · exact inductionHypothesis
      · simp only
        split
        · exact inductionHypothesis.trans (List.sublist_append_left _ [last])
        · exact inductionHypothesis.append (List.Sublist.refl [last])

/-- The first found output is linked first. -/
theorem absorbAll_linked_head (found : List DiscoveredOutput) :
    (absorbAll found).linked.head? = found.head? := by
  induction found using List.reverseRecOn with
  | nil => rfl
  | append_singleton found last inductionHypothesis =>
      have kept : found ≠ [] → (absorbAll found).linked.head? = (found ++ [last]).head? := by
        intro some
        rw [inductionHypothesis, List.head?_append_of_ne_nil _ some]
      rw [absorbAll_concat, Absorbed.absorb]
      cases known : (absorbAll found).coins.any fun coin => decide (coin.vout = last.vout) with
      | true =>
          refine kept ?_
          rintro rfl
          cases known
      | false =>
          rw [if_neg Bool.false_ne_true]
          cases linked : (absorbAll found).linked.any fun coin =>
              decide (coin.holdingId = last.holdingId) with
          | true =>
              refine kept ?_
              rintro rfl
              cases linked
          | false =>
              simp only [Bool.false_eq_true, if_false]
              rw [List.head?_append, List.head?_append, inductionHypothesis]

end TallyKeep
