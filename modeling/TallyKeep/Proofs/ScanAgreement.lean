/-
Module: TallyKeep.Proofs.ScanAgreement
Layer: Proofs
Purpose: When the snapshot scan books what the live path books for a purely incoming transaction.
Trusted boundary: none
Main exports: EntriesBalanced, HasCoin, ScanAgrees, ReportsTransaction, scannedCoins, ScansFit,
  scanAgrees_iff
-/
import TallyKeep.Proofs.ScanAttribution

namespace TallyKeep

open Relational

/-! ### Sums over found outputs -/

/-- What is received, as a sum over all found outputs. -/
theorem sum_ite_eq_receivedValue (found : List DiscoveredOutput) (holdingId : Uuid) :
    (found.map fun output =>
      if output.holdingId = holdingId then (output.valueSats : Int) else 0).sum =
        receivedValue found holdingId := by
  induction found with
  | nil => rfl
  | cons output rest inductionHypothesis =>
      rw [List.map_cons, List.sum_cons, inductionHypothesis]
      by_cases held : output.holdingId = holdingId <;> simp [receivedValue, held]

/-- The values of outputs add up to what is received. -/
theorem sum_eq_receivedTotal (found : List DiscoveredOutput) :
    (found.map fun output => (output.valueSats : Int)).sum = receivedTotal found := by
  induction found with
  | nil => rfl
  | cons output rest inductionHypothesis =>
      rw [List.map_cons, List.sum_cons, inductionHypothesis]
      simp [receivedTotal]

/-- What two lists of outputs receive together. -/
theorem receivedTotal_append (first second : List DiscoveredOutput) :
    receivedTotal (first ++ second) = receivedTotal first + receivedTotal second := by
  rw [receivedTotal, List.map_append, List.sum_append]
  rfl

/-- What a holding receives from two lists of outputs together. -/
theorem receivedValue_append (first second : List DiscoveredOutput) (holdingId : Uuid) :
    receivedValue (first ++ second) holdingId =
      receivedValue first holdingId + receivedValue second holdingId := by
  rw [receivedValue, List.filter_append, List.map_append, List.sum_append]
  rfl

/-- Where no holding receives anything, nothing is received. -/
theorem receivedTotal_eq_zero {found : List DiscoveredOutput}
    (nothing : ∀ holdingId, receivedValue found holdingId = 0) : receivedTotal found = 0 := by
  apply List.sum_eq_zero
  intro value member
  obtain ⟨output, found, rfl⟩ := List.mem_map.mp member
  have none := nothing output.holdingId
  rw [receivedValue, List.sum_eq_zero_iff_forall_eq_nat] at none
  exact none output.valueSats (List.mem_map_of_mem (List.mem_filter.mpr ⟨found, by simp⟩))

/-- Linked coins book all that is watched, in balance, exactly when the first of them has all the
    value. -/
theorem linked_books_all_iff {watched linked : List DiscoveredOutput}
    (within : linked.Subperm watched) :
    ((∀ holdingId, receivedValue linked holdingId = receivedValue watched holdingId) ∧
        ∀ first ∈ linked.head?, first.valueSats = receivedTotal linked) ↔
      receivedTotal watched = (linked.head?.map DiscoveredOutput.valueSats).getD 0 := by
  obtain ⟨rest, split⟩ : ∃ rest, watched.Perm (linked ++ rest) := by
    obtain ⟨chosen, perm, sublist⟩ := within
    obtain ⟨rest, split⟩ := sublist.exists_perm_append
    exact ⟨rest, split.trans (perm.append_right rest)⟩
  have total : receivedTotal watched = receivedTotal linked + receivedTotal rest := by
    rw [← receivedTotal_append]
    exact (split.map DiscoveredOutput.valueSats).sum_eq
  have value : ∀ holdingId, receivedValue watched holdingId =
      receivedValue linked holdingId + receivedValue rest holdingId := by
    intro holdingId
    rw [receivedValue_perm split, receivedValue_append]
  have head : (∀ first ∈ linked.head?, first.valueSats = receivedTotal linked) ↔
      receivedTotal linked = (linked.head?.map DiscoveredOutput.valueSats).getD 0 := by
    cases linked with
    | nil => simp [receivedTotal]
    | cons first others => simp [eq_comm]
  have headLe : (linked.head?.map DiscoveredOutput.valueSats).getD 0 ≤ receivedTotal linked := by
    cases linked with
    | nil => exact Nat.zero_le _
    | cons first others => simp [receivedTotal]
  rw [head]
  constructor
  · rintro ⟨same, balanced⟩
    have nothing : receivedTotal rest = 0 := by
      apply receivedTotal_eq_zero
      intro holdingId
      have sameValue := same holdingId
      have split := value holdingId
      omega
    omega
  · intro single
    refine ⟨fun holdingId => ?_, by omega⟩
    have restLe := receivedValue_le_total rest holdingId
    have split := value holdingId
    omega

/-! ### Agreement -/

/-- Every ledger entry says what its links add up to. -/
def EntriesBalanced (db : Database) : Prop :=
  ∀ entry ∈ db.ledgerEntries.rows, entry.netAmountSats =
    db.ledgerLinks.total fun link =>
      if link.ledgerEntryId = entry.id then link.holdingAmountSats else 0

/-- There is a coin with this outpoint, address text and value. -/
def HasCoin (db : Database) (outpoint : Outpoint) (address : String) (valueSats : Nat) : Prop :=
  ∃ row ∈ db.utxos.rows, row.outpoint = outpoint ∧
    (db.addresses.get? row.addressId).map AddressRow.address = some address ∧
    row.valueSats = valueSats

/-- The scanned and the live database tell the same story about money. -/
structure ScanAgrees (scanned live : Database) : Prop where
  totals : ∀ holdingId, scanned.onchainLinkTotal holdingId = live.onchainLinkTotal holdingId
  scannedBalanced : EntriesBalanced scanned
  liveBalanced : EntriesBalanced live
  coins : ∀ outpoint address valueSats,
    HasCoin scanned outpoint address valueSats ↔ HasCoin live outpoint address valueSats

/-- A coin table that holds the first of some found outputs at each index, with none missing, holds
    exactly the coins of the watched outputs. -/
theorem hasCoin_iff {base db : Database} {tx : DecodedTx} {found : List DiscoveredOutput}
    (sameAddresses : db.addresses.rows.map AddressRow.core = base.addresses.rows.map AddressRow.core)
    (coins : ∀ outpoint, (db.coinAt outpoint).map (fun row => (row.addressId, row.valueSats)) =
      (found.find? fun coin => (⟨tx.txid, coin.vout⟩ : Outpoint) = outpoint).map
        fun coin => (coin.addressId, coin.valueSats))
    (within : ∀ coin ∈ found, coin ∈ watchedOutputs base tx)
    (covers : ∀ output ∈ watchedOutputs base tx, ∃ coin ∈ found, coin.vout = output.vout)
    (outpoint : Outpoint) (address : String) (valueSats : Nat) :
    HasCoin db outpoint address valueSats ↔
      ∃ output ∈ watchedOutputs base tx, (⟨tx.txid, output.vout⟩ : Outpoint) = outpoint ∧
        output.address = address ∧ output.valueSats = valueSats := by
  have textOf : ∀ coin ∈ watchedOutputs base tx,
      (db.addresses.get? coin.addressId).map AddressRow.address = some coin.address := by
    intro coin watched
    obtain ⟨row, stored, -, -, sameText, sameId, -⟩ := mem_watchedOutputs.mp watched
    have found : base.addresses.get? coin.addressId = some row := by
      rw [sameId]
      exact Table.get?_of_mem stored
    rw [addressText_congr sameAddresses, found, sameText]
    rfl
  constructor
  · rintro ⟨row, stored, rfl, text, rfl⟩
    have coin := coins row.outpoint
    rw [Database.coinAt_of_mem stored] at coin
    obtain ⟨output, here, same⟩ := Option.map_eq_some_iff.mp coin.symm
    simp only [Prod.mk.injEq, UtxoRow.core_addressId, UtxoRow.core_valueSats] at same
    have watched := within output (List.mem_of_find?_eq_some here)
    have place : (⟨tx.txid, output.vout⟩ : Outpoint) = row.outpoint := by
      simpa using List.find?_some here
    refine ⟨output, watched, place, ?_, same.2⟩
    rw [← same.1, textOf output watched] at text
    exact Option.some.inj text
  · rintro ⟨output, watched, rfl, rfl, rfl⟩
    obtain ⟨coin, member, sameVout⟩ := covers output watched
    have coinHere := coins ⟨tx.txid, output.vout⟩
    cases here : found.find? fun coin => (⟨tx.txid, coin.vout⟩ : Outpoint) = ⟨tx.txid, output.vout⟩ with
    | none =>
        have absent := List.find?_eq_none.mp here coin member
        simp [sameVout] at absent
    | some first =>
        rw [here, Option.map_some] at coinHere
        obtain ⟨core, stored, same⟩ := Option.map_eq_some_iff.mp coinHere
        obtain ⟨row, found', rfl⟩ := Option.map_eq_some_iff.mp stored
        simp only [Prod.mk.injEq, UtxoRow.core_addressId, UtxoRow.core_valueSats] at same
        have firstWatched := within first (List.mem_of_find?_eq_some here)
        have sameIndex : first.vout = output.vout := by simpa using List.find?_some here
        obtain ⟨sameText, sameValue⟩ := payment_of_sameVout firstWatched watched sameIndex
        obtain ⟨rowStored, place⟩ := Table.get?_eq_some_iff.mp found'
        refine ⟨row, rowStored, place, ?_, same.2.trans sameValue⟩
        rw [same.1, textOf first firstWatched, sameText]

/-! ### The assumption and the condition -/

/-- bitcoind reports the outputs of the transaction as they are, and no other transaction pays an
    address of the table. -/
structure ReportsTransaction (base : Database) (tx : DecodedTx) (paid : Outpoint → String)
    (node : ScanNode) (descriptor : DescriptorRow) : Prop where
  outputs : ∀ coin ∈ reportedCoins node descriptor, coin.2.txid = tx.txid →
    (paid coin.2.outpoint, coin.2.amountSats, coin.2.vout) ∈ tx.payments
  alone : ∀ coin ∈ reportedCoins node descriptor,
    (∃ row ∈ base.addresses.rows, row.address = paid coin.2.outpoint) → coin.2.txid = tx.txid

/-- A reported coin that leads to an address row, as a found output of that row. -/
def attributedCoin (rowOf : DescriptorRow → Bool × ScanUtxo → Option AddressRow)
    (descriptor : DescriptorRow) (coin : Bool × ScanUtxo) : Option (Outpoint × DiscoveredOutput) :=
  (rowOf descriptor coin).map fun row => (coin.2.outpoint, scannedOutput descriptor coin.2 row)

/-- What the scans of several descriptors find, in scan order. -/
def scannedCoins (node : ScanNode) (rowOf : DescriptorRow → Bool × ScanUtxo → Option AddressRow)
    (order : List DescriptorRow) : List (Outpoint × DiscoveredOutput) :=
  order.flatMap fun descriptor =>
    (reportedCoins node descriptor).filterMap (attributedCoin rowOf descriptor)

/-- What is found first for an outpoint. -/
def firstScanned (coins : List (Outpoint × DiscoveredOutput)) (outpoint : Outpoint) :
    Option DiscoveredOutput :=
  (coins.find? fun coin => decide (coin.1 = outpoint)).map Prod.snd

/-- What is found first for a coin has the address that the coin pays, every watched output of the
    transaction is found, and the coin that is found first has all of their value. -/
structure ScansFit (base : Database) (tx : DecodedTx) (paid : Outpoint → String)
    (found : List (Outpoint × DiscoveredOutput)) : Prop where
  attributed : ∀ outpoint output, firstScanned found outpoint = some output →
    output.address = paid outpoint
  complete : ∀ output ∈ watchedOutputs base tx,
    (firstScanned found ⟨tx.txid, output.vout⟩).isSome
  single : receivedTotal (watchedOutputs base tx) =
    (found.head?.map fun coin => coin.2.valueSats).getD 0

/-! ### What the scans find -/

/-- The first coin of an outpoint in two lists is the one of the first list, or else of the second.
    -/
theorem firstScanned_append (first second : List (Outpoint × DiscoveredOutput)) (outpoint : Outpoint) :
    firstScanned (first ++ second) outpoint =
      (firstScanned first outpoint).or (firstScanned second outpoint) := by
  rw [firstScanned, List.find?_append, Option.map_or]
  rfl

/-- The first coin of an outpoint is one of the coins. -/
theorem mem_of_firstScanned {coins : List (Outpoint × DiscoveredOutput)} {outpoint : Outpoint}
    {output : DiscoveredOutput} (first : firstScanned coins outpoint = some output) :
    (outpoint, output) ∈ coins := by
  obtain ⟨⟨place, output⟩, here, rfl⟩ := Option.map_eq_some_iff.mp first
  have same : place = outpoint := by simpa using List.find?_some here
  rw [← same]
  exact List.mem_of_find?_eq_some here

/-- Every coin has a first one at its outpoint. -/
theorem firstScanned_isSome {coins : List (Outpoint × DiscoveredOutput)}
    {coin : Outpoint × DiscoveredOutput} (member : coin ∈ coins) :
    (firstScanned coins coin.1).isSome := by
  rw [firstScanned, Option.isSome_map, List.find?_isSome]
  exact ⟨coin, member, decide_eq_true rfl⟩

/-- The scanned coins depend on the rows of the reported ones only. -/
theorem scannedCoins_congr {node : ScanNode}
    {rowOf rowOf' : DescriptorRow → Bool × ScanUtxo → Option AddressRow}
    {order : List DescriptorRow}
    (same : ∀ descriptor ∈ order, ∀ coin ∈ reportedCoins node descriptor,
      rowOf descriptor coin = rowOf' descriptor coin) :
    scannedCoins node rowOf order = scannedCoins node rowOf' order := by
  apply List.flatMap_congr
  intro descriptor listed
  apply List.filterMap_congr
  intro coin reported
  rw [attributedCoin, attributedCoin, same descriptor listed coin reported]

/-- A coin is scanned when a descriptor of the order reports it, at the row it is matched with. -/
theorem mem_scannedCoins {node : ScanNode}
    {rowOf : DescriptorRow → Bool × ScanUtxo → Option AddressRow} {order : List DescriptorRow}
    {found : Outpoint × DiscoveredOutput} :
    found ∈ scannedCoins node rowOf order ↔
      ∃ descriptor ∈ order, ∃ coin ∈ reportedCoins node descriptor, ∃ row,
        rowOf descriptor coin = some row ∧
          (coin.2.outpoint, scannedOutput descriptor coin.2 row) = found := by
  simp only [scannedCoins, attributedCoin, List.mem_flatMap, List.mem_filterMap,
    Option.map_eq_some_iff]

/-- The first row that the reports of one scan lead to, by its id. -/
theorem firstScanned_attributedCoin
    (rowOf : DescriptorRow → Bool × ScanUtxo → Option AddressRow) (descriptor : DescriptorRow)
    (seen : List (Bool × ScanUtxo)) (outpoint : Outpoint) :
    (firstScanned (seen.filterMap (attributedCoin rowOf descriptor)) outpoint).map
        DiscoveredOutput.addressId =
      (firstRow (rowOf descriptor) seen outpoint).map AddressRow.id := by
  induction seen with
  | nil => rfl
  | cons coin rest inductionHypothesis =>
      rw [firstRow, List.findSome?_cons, List.filterMap_cons, attributedCoin]
      cases leads : rowOf descriptor coin with
      | none =>
          rw [ite_self]
          exact inductionHypothesis
      | some row =>
          by_cases here : coin.2.outpoint = outpoint
          · simp [firstScanned, here, scannedOutput]
          · rw [if_neg here, ← firstRow, ← inductionHypothesis]
            simp [firstScanned, here]

/-! ### Runs of the scans -/

section Runs

variable {base : Database} {node : ScanNode} {tx : DecodedTx}

/-- A database in which scans have put coins: each belongs to the row that was found first for it,
    and no transaction has two entries. -/
structure CoinsScanned (base db : Database) (found : List (Outpoint × DiscoveredOutput)) : Prop where
  addresses : db.addresses.rows.map AddressRow.core = base.addresses.rows.map AddressRow.core
  coins : ∀ outpoint, (db.coinAt outpoint).map UtxoRow.addressId =
    (firstScanned found outpoint).map DiscoveredOutput.addressId
  oneEntry : ∀ txid, (LedgerEntryRepo.entriesFor db txid).length ≤ 1

/-- A wallet without coins and entries has scanned none. -/
theorem CoinsScanned.start (noCoins : base.utxos = .empty)
    (noEntries : base.ledgerEntries = .empty) : CoinsScanned base base [] where
  addresses := rfl
  coins := by simp [Database.coinAt, noCoins, firstScanned]
  oneEntry := by simp [LedgerEntryRepo.entriesFor, Table.select, noEntries]

/-- The matched row depends on the core of the addresses only. -/
theorem matchedRow_id {db : Database}
    (sameAddresses : db.addresses.rows.map AddressRow.core = base.addresses.rows.map AddressRow.core)
    (descriptor : DescriptorRow) (coin : Bool × ScanUtxo) :
    (matchedRow db descriptor coin).map AddressRow.id =
      (matchedRow base descriptor coin).map AddressRow.id := by
  have throughCore : ∀ row : Option AddressRow,
      row.map AddressRow.id = (row.map AddressRow.core).map AddressRow.id := by
    intro row
    cases row <;> rfl
  rw [throughCore, matchedRow, addressOfUnspent_congr sameAddresses, ← throughCore, matchedRow]

/-- A scan returns and adds the coins that it finds. -/
theorem CoinsScanned.initialScan {db : Database} {found : List (Outpoint × DiscoveredOutput)}
    (scanned : CoinsScanned base db found) {descriptor : DescriptorRow}
    (answers : Answers node descriptor) :
    ∃ db' report, TallyKeep.initialScan node db descriptor = .ok (db', report) ∧
      CoinsScanned base db'
        (found ++ (reportedCoins node descriptor).filterMap
          (attributedCoin (matchedRow base) descriptor)) := by
  obtain ⟨db', report, run⟩ : ∃ db' report,
      TallyKeep.initialScan node db descriptor = .ok (db', report) :=
    initialScan_returns_of_oneEntry answers fun coin _ _ _ => scanned.oneEntry coin.2.txid
  obtain ⟨progress, attributed, rfl, -⟩ :=
    initialScan_processed (attributed_invariant db descriptor)
      (fun _ _ _ _ _ before step => before.round step) run
  refine ⟨_, report, run, attributed.addresses.trans scanned.addresses, fun outpoint => ?_,
    fun txid => (attributed.entries txid).mpr (scanned.oneEntry txid)⟩
  have coins := attributed.coins outpoint
  rw [scanned.coins, firstRow_id_congr (matchedRow_id scanned.addresses descriptor),
    ← firstScanned_attributedCoin, ← Option.map_or, ← firstScanned_append] at coins
  exact coins

/-- The scans return and add the coins that they find. -/
theorem CoinsScanned.scanAll {order : List DescriptorRow} {db : Database}
    {found : List (Outpoint × DiscoveredOutput)} (scanned : CoinsScanned base db found)
    (answers : ∀ descriptor ∈ order, Answers node descriptor) :
    ∃ db', TallyKeep.scanAll node db order = .ok db' ∧
      CoinsScanned base db' (found ++ scannedCoins node (matchedRow base) order) := by
  induction order generalizing db found with
  | nil =>
      refine ⟨db, rfl, ?_⟩
      rw [scannedCoins, List.flatMap_nil, List.append_nil]
      exact scanned
  | cons descriptor rest inductionHypothesis =>
      rw [List.forall_mem_cons] at answers
      obtain ⟨next, report, run, scanned'⟩ := scanned.initialScan answers.1
      obtain ⟨final, run', scanned''⟩ := inductionHypothesis scanned' answers.2
      refine ⟨final, ?_, ?_⟩
      · rw [TallyKeep.scanAll, List.foldlM_cons, run]
        exact run'
      · rw [scannedCoins, List.flatMap_cons, ← List.append_assoc]
        exact scanned''

/-- One scan, where the coins that it finds are of the transaction. -/
theorem ScanState.initialScan {db db' : Database} {absorbed : Absorbed}
    (state : ScanState base db node tx absorbed) {descriptor : DescriptorRow} {report : ScanReport}
    (ofTx : ∀ coin ∈ reportedCoins node descriptor,
      (matchedRow base descriptor coin).isSome → coin.2.txid = tx.txid)
    (run : TallyKeep.initialScan node db descriptor = .ok (db', report)) :
    ScanState base db' node tx
      ((((reportedCoins node descriptor).filterMap
        (attributedCoin (matchedRow base) descriptor)).map Prod.snd).foldl Absorbed.absorb
          absorbed) := by
  have invariant : ScanInvariant (fun seen (progress : ScanProgress) =>
      (∀ coin ∈ seen, (matchedRow base descriptor coin).isSome → coin.2.txid = tx.txid) →
        ScanState base progress.db node tx
          (((seen.filterMap (attributedCoin (matchedRow base) descriptor)).map Prod.snd).foldl
            Absorbed.absorb absorbed)) db :=
    ⟨fun _ => state, fun _ _ _ held => held⟩
  obtain ⟨progress, held, rfl, -⟩ := initialScan_processed invariant
    (fun seen isChange unspent s s' before step ofTx => by
      rw [List.forall_mem_append, List.forall_mem_singleton] at ofTx
      obtain ⟨progress', step', state'⟩ :=
        scanUnspent_state state.addresses (before ofTx.1) ofTx.2
      rw [step, Except.ok.injEq] at step'
      rw [step', List.filterMap_append, List.map_append, List.foldl_append, List.filterMap_cons,
        List.filterMap_nil]
      have row : matchedRow base descriptor (isChange, unspent) =
          addressOfUnspent base descriptor isChange unspent := rfl
      rw [attributedCoin, row]
      cases leads : addressOfUnspent base descriptor isChange unspent with
      | none =>
          rw [leads] at state'
          exact state'
      | some row =>
          rw [leads] at state'
          exact state') run
  exact (held ofTx).withHeight descriptor.id _

/-- Several scans, where the coins that they find are of the transaction. -/
theorem ScanState.scanAll {order : List DescriptorRow} {db db' : Database} {absorbed : Absorbed}
    (state : ScanState base db node tx absorbed)
    (ofTx : ∀ descriptor ∈ order, ∀ coin ∈ reportedCoins node descriptor,
      (matchedRow base descriptor coin).isSome → coin.2.txid = tx.txid)
    (run : TallyKeep.scanAll node db order = .ok db') :
    ScanState base db' node tx
      (((scannedCoins node (matchedRow base) order).map Prod.snd).foldl Absorbed.absorb
        absorbed) := by
  induction order generalizing db absorbed with
  | nil =>
      cases run
      exact state
  | cons descriptor rest inductionHypothesis =>
      rw [List.forall_mem_cons] at ofTx
      rw [TallyKeep.scanAll, List.foldlM_cons, bind_ok_iff] at run
      obtain ⟨next, first, run⟩ := run
      obtain ⟨report, first⟩ := map_fst_ok first
      have later := inductionHypothesis (state.initialScan ofTx.1 first) ofTx.2 run
      rw [scannedCoins, List.flatMap_cons, List.map_append, List.foldl_append]
      exact later

end Runs

/-! ### Scan and live path -/

section Agreement

variable {base : Database} {node : ScanNode} {tx : DecodedTx}

/-- The links of a scanned ledger add up to the values of the linked coins. -/
theorem LedgerHolds.onchainLinkTotal {db : Database} {linked : List DiscoveredOutput}
    (holds : LedgerHolds db node tx linked) (holdingId : Uuid) :
    db.onchainLinkTotal holdingId = receivedValue linked holdingId := by
  obtain ⟨entryId, entries, links⟩ := holds
  cases linked with
  | nil => simp [Database.onchainLinkTotal, Table.total, links, receivedValue]
  | cons first rest =>
      have entryFound : db.ledgerEntries.get? entryId =
          some (scanEntry node tx entryId first.valueSats) := by
        apply Table.get?_eq_some_iff.mpr
        exact ⟨by rw [entries]; simp, rfl⟩
      rw [Database.onchainLinkTotal, Table.total, links, List.map_map]
      have weights : ((first :: rest).map ((fun link : LedgerEntryHoldingLinkRow =>
          if link.holdingId = holdingId ∧ (db.ledgerEntries.get? link.ledgerEntryId).any fun entry =>
            decide (entry.source = .onchainTransaction)
          then link.holdingAmountSats else 0) ∘
            fun coin => ⟨entryId, coin.holdingId, coin.valueSats⟩)) =
          (first :: rest).map fun coin =>
            if coin.holdingId = holdingId then (coin.valueSats : Int) else 0 := by
        apply List.map_congr_left
        intro coin _
        simp [entryFound, scanEntry]
      rw [weights]
      exact sum_ite_eq_receivedValue (first :: rest) holdingId

/-- The entries are balanced exactly when the first entry has the whole amount. -/
theorem LedgerHolds.balanced_iff {db : Database} {linked : List DiscoveredOutput}
    (holds : LedgerHolds db node tx linked) :
    EntriesBalanced db ↔ ∀ first ∈ linked.head?, first.valueSats = receivedTotal linked := by
  obtain ⟨entryId, entries, links⟩ := holds
  rw [EntriesBalanced, entries]
  cases linked with
  | nil => simp
  | cons first rest =>
      have total : (db.ledgerLinks.total fun link =>
          if link.ledgerEntryId = entryId then link.holdingAmountSats else 0) =
            (receivedTotal (first :: rest) : Int) := by
        rw [Table.total, links, List.map_map, ← sum_eq_receivedTotal]
        apply congrArg List.sum
        apply List.map_congr_left
        intro coin _
        simp
      simp only [List.head?_cons, Option.toList_some, List.map_cons, List.map_nil,
        List.forall_mem_singleton, Option.mem_some_iff, forall_eq']
      change (first.valueSats : Int) = db.ledgerLinks.total (fun link =>
        if link.ledgerEntryId = entryId then link.holdingAmountSats else 0) ↔ _
      rw [total]
      exact Int.ofNat_inj

/-- The live ledger after one transaction on an empty ledger is balanced. -/
theorem Processed.entriesBalanced {live : Database} {ctx : TxContext} {result : TxProcessingResult}
    {direction : Direction} {postings : List Posting}
    (processed : Processed base tx ctx live result direction postings)
    (noEntries : base.ledgerEntries = .empty) (noLinks : base.ledgerLinks = .empty) :
    EntriesBalanced live := by
  intro entry stored
  have entries := processed.books.entries
  have links := processed.books.links
  simp only [noEntries, noLinks, Table.rows_empty, List.nil_append] at entries links
  rw [entries] at stored
  obtain ⟨posting, member, rfl⟩ := List.mem_map.mp stored
  rw [Table.total, links, List.map_map]
  exact (sum_map_ite_of_nodup processed.books.entryIds_nodup member Posting.net).symm

/-- The live ledger after one transaction on an empty wallet credits what is received. -/
theorem Processed.onchainLinkTotal_of_empty {live : Database} {ctx : TxContext}
    {result : TxProcessingResult} {direction : Direction} {postings : List Posting}
    (processed : Processed base tx ctx live result direction postings)
    (wellFormed : ChainWellFormed base) (noCoins : base.utxos = .empty)
    (noLinks : base.ledgerLinks = .empty) (holdingId : Uuid) :
    live.onchainLinkTotal holdingId = receivedValue (watchedOutputs base tx) holdingId := by
  have noTotal : base.onchainLinkTotal holdingId = 0 := by
    simp [Database.onchainLinkTotal, noLinks]
  have unlinked : TallyKeep.linksFor base tx.txid holdingId = [] := by
    simp [TallyKeep.linksFor, Table.select, noLinks]
  have nothing : consumedRows base tx = [] := by
    rw [consumedRows, List.filterMap_eq_nil_iff, noCoins]
    exact fun prevout _ => Table.get?_empty prevout
  have noInputs : holdingInputValue base tx holdingId = 0 := by
    have le := holdingInputValue_le base tx holdingId
    simpa [nothing] using le
  rw [processed.onchainLinkTotal wellFormed.ledger, processed.postedSum, if_pos unlinked, noTotal,
    holdingNet, noInputs]
  simp

/-- A wallet without coins and links is well-formed. -/
theorem wellFormed_of_empty (noCoins : base.utxos = .empty) (noLinks : base.ledgerLinks = .empty) :
    ChainWellFormed base where
  holderOfCoin := by simp [noCoins]
  ledger :=
    { entryOfLink := by simp [noLinks]
      linkOnce := by simp [linksFor, Table.select, noLinks] }

/-- The live coin table after one transaction on an empty wallet holds the first found outputs. -/
theorem Processed.coins_of_empty {live : Database} {ctx : TxContext} {result : TxProcessingResult}
    {direction : Direction} {postings : List Posting}
    (processed : Processed base tx ctx live result direction postings)
    (noCoins : base.utxos = .empty) (outpoint : Outpoint) :
    (live.coinAt outpoint).map (fun row => (row.addressId, row.valueSats)) =
      ((discoverOutputs base ctx.rowOrder tx).find? fun coin =>
        (⟨tx.txid, coin.vout⟩ : Outpoint) = outpoint).map
          fun coin => (coin.addressId, coin.valueSats) := by
  have nothing : base.coinAt outpoint = none := by
    simp [Database.coinAt, noCoins]
  rw [processed.coins, nothing, coinAfter, recordedAt]
  cases here : (discoverOutputs base ctx.rowOrder tx).find? fun coin =>
      (⟨tx.txid, coin.vout⟩ : Outpoint) = outpoint with
  | none => simp
  | some found =>
      have place : (⟨tx.txid, found.vout⟩ : Outpoint) = outpoint := by
        simpa using List.find?_some here
      rw [← place, if_neg (tx.own_not_mem_prevouts found.vout)]
      rfl

/-- A coin of a scanned database was found. -/
theorem CoinsScanned.isSome_of_hasCoin {db : Database} {found : List (Outpoint × DiscoveredOutput)}
    (scanned : CoinsScanned base db found) {outpoint : Outpoint} {address : String} {valueSats : Nat}
    (has : HasCoin db outpoint address valueSats) : (firstScanned found outpoint).isSome := by
  obtain ⟨row, stored, rfl, -, -⟩ := has
  have coins := scanned.coins row.outpoint
  rw [Database.coinAt_of_mem stored] at coins
  rw [← Option.isSome_map (f := DiscoveredOutput.addressId), ← coins]
  rfl

section Assumed

variable {library : DescriptorLibrary} {nodeKeys : NodeKeys} {order : List DescriptorRow}
  {paid : Outpoint → String}
  (stored : ∀ descriptor ∈ order, base.descriptors.get? descriptor.id = some descriptor)
  (reports : ∀ descriptor ∈ order, ReportsTransaction base tx paid node descriptor)
  {outpoint : Outpoint} {output : DiscoveredOutput}

/-- What is found names an address row of the table. -/
theorem row_of_mem_scannedCoins
    (member : (outpoint, output) ∈ scannedCoins node (matchedRow base) order) :
    ∃ row ∈ base.addresses.rows, output.address = row.address ∧ output.addressId = row.id ∧
      output.descriptorId = row.descriptorId := by
  obtain ⟨descriptor, -, coin, -, row, leads, same⟩ := mem_scannedCoins.mp member
  obtain ⟨-, rfl⟩ := Prod.mk.injEq .. ▸ same
  rw [matchedRow, addressOfUnspent, Option.bind_eq_some_iff] at leads
  obtain ⟨index, -, found⟩ := leads
  obtain ⟨inTable, ofDescriptor⟩ := mem_of_addressAt found
  exact ⟨row, inTable, rfl, rfl, ofDescriptor.symm⟩

/-- A coin that is found first is in the scanned database, at the address it was found at. -/
theorem CoinsScanned.hasCoin {db : Database}
    (scanned : CoinsScanned base db (scannedCoins node (matchedRow base) order))
    (first : firstScanned (scannedCoins node (matchedRow base) order) outpoint = some output) :
    ∃ valueSats, HasCoin db outpoint output.address valueSats := by
  obtain ⟨row, inTable, sameText, sameId, -⟩ := row_of_mem_scannedCoins (mem_of_firstScanned first)
  have coins := scanned.coins outpoint
  rw [first, Option.map_some] at coins
  obtain ⟨core, there, sameAddress⟩ := Option.map_eq_some_iff.mp coins
  obtain ⟨coin, found, rfl⟩ := Option.map_eq_some_iff.mp there
  obtain ⟨coinStored, place⟩ := Table.get?_eq_some_iff.mp found
  rw [UtxoRow.core_addressId] at sameAddress
  have rowFound : base.addresses.get? row.id = some row := Table.get?_of_mem inTable
  refine ⟨coin.valueSats, coin, coinStored, place, ?_, rfl⟩
  rw [sameAddress, sameId, addressText_congr scanned.addresses, rowFound, sameText]
  rfl

include stored reports in
/-- What is found at the address that the coin pays is a watched output of the transaction. -/
theorem watched_of_mem_scannedCoins
    (member : (outpoint, output) ∈ scannedCoins node (matchedRow base) order)
    (pays : output.address = paid outpoint) :
    output ∈ watchedOutputs base tx ∧ outpoint = ⟨tx.txid, output.vout⟩ := by
  obtain ⟨row, inTable, sameText, sameId, sameDescriptor⟩ := row_of_mem_scannedCoins member
  obtain ⟨descriptor, listed, coin, reported, row', leads, same⟩ := mem_scannedCoins.mp member
  obtain ⟨rfl, rfl⟩ := Prod.mk.injEq .. ▸ same
  have ofTx := (reports descriptor listed).alone coin reported
    ⟨row, inTable, sameText.symm.trans pays⟩
  have payment := (reports descriptor listed).outputs coin reported ofTx
  refine ⟨mem_watchedOutputs.mpr ⟨row, inTable, ?_, ?_, sameText, sameId, sameDescriptor⟩, ?_⟩
  · rw [← sameDescriptor, Database.holdingOf]
    change (base.descriptors.get? descriptor.id).map DescriptorRow.holdingId = _
    rw [stored descriptor listed]
    rfl
  · rw [pays]
    exact payment
  · rw [ScanUtxo.outpoint, ofTx]
    rfl

include reports in
/-- A watched output at the place of a reported coin has the address that the coin pays. -/
theorem paid_of_watched (member : (outpoint, output) ∈ scannedCoins node (matchedRow base) order)
    {watched : DiscoveredOutput} (isWatched : watched ∈ watchedOutputs base tx)
    (place : (⟨tx.txid, watched.vout⟩ : Outpoint) = outpoint) :
    watched.address = paid outpoint := by
  obtain ⟨descriptor, listed, coin, reported, row, leads, same⟩ := mem_scannedCoins.mp member
  obtain ⟨rfl, rfl⟩ := Prod.mk.injEq .. ▸ same
  have ofTx : coin.2.txid = tx.txid := (congrArg Outpoint.txid place).symm
  have payment := (reports descriptor listed).outputs coin reported ofTx
  obtain ⟨-, -, -, watchedPayment, -⟩ := mem_watchedOutputs.mp isWatched
  have sameVout : watched.vout = coin.2.vout := congrArg Outpoint.vout place
  have same := List.inj_on_of_nodup_map (payments_nodup tx) watchedPayment payment sameVout
  exact congrArg Prod.fst same

include stored reports in
/-- Where every coin is found first at the address that it pays, all that is found is of the
    transaction. -/
theorem ofTx_of_attributed
    (attributed : ∀ outpoint output,
      firstScanned (scannedCoins node (matchedRow base) order) outpoint = some output →
        output.address = paid outpoint) :
    ∀ descriptor ∈ order, ∀ coin ∈ reportedCoins node descriptor,
      (matchedRow base descriptor coin).isSome → coin.2.txid = tx.txid := by
  intro descriptor listed coin reported leads
  obtain ⟨row, leads⟩ := Option.isSome_iff_exists.mp leads
  have member := mem_scannedCoins.mpr ⟨descriptor, listed, coin, reported, row, leads, rfl⟩
  obtain ⟨first, found⟩ := Option.isSome_iff_exists.mp (firstScanned_isSome member)
  obtain ⟨-, place⟩ := watched_of_mem_scannedCoins stored reports (mem_of_firstScanned found)
    (attributed _ first found)
  exact congrArg Outpoint.txid place

include stored reports in
/-- There, the new coins are the watched outputs that are found. -/
theorem watched_of_mem_absorbAll
    (attributed : ∀ outpoint output,
      firstScanned (scannedCoins node (matchedRow base) order) outpoint = some output →
        output.address = paid outpoint)
    (member : output ∈ (absorbAll ((scannedCoins node (matchedRow base) order).map
      Prod.snd)).coins) : output ∈ watchedOutputs base tx := by
  have ofTx := ofTx_of_attributed stored reports attributed
  have first := find?_of_mem_absorbAll_coins member
  rw [List.find?_map] at first
  have samePlace : ∀ coin ∈ scannedCoins node (matchedRow base) order,
      decide (coin.1 = ⟨tx.txid, output.vout⟩) = decide (coin.2.vout = output.vout) := by
    intro coin there
    obtain ⟨descriptor, listed, coin, reported, row, leads, rfl⟩ := mem_scannedCoins.mp there
    have same := ofTx descriptor listed coin reported (by rw [leads]; rfl)
    rw [decide_eq_decide, ScanUtxo.outpoint, same, Outpoint.mk.injEq]
    exact and_iff_right rfl
  have found : firstScanned (scannedCoins node (matchedRow base) order) ⟨tx.txid, output.vout⟩ =
      some output := by
    rw [← first, firstScanned, ← List.head?_filter, ← List.head?_filter,
      List.filter_congr samePlace]
    rfl
  exact (watched_of_mem_scannedCoins stored reports (mem_of_firstScanned found)
    (attributed _ _ found)).1

include stored reports in
/-- There, the linked coins are some of the watched outputs. -/
theorem linked_subperm_watched
    (attributed : ∀ outpoint output,
      firstScanned (scannedCoins node (matchedRow base) order) outpoint = some output →
        output.address = paid outpoint) :
    (absorbAll ((scannedCoins node (matchedRow base) order).map Prod.snd)).linked.Subperm
      (watchedOutputs base tx) := by
  have sublist := absorbAll_linked_sublist ((scannedCoins node (matchedRow base) order).map Prod.snd)
  apply List.subperm_of_subset
  · exact (absorbAll_coins_nodup _).of_map.sublist sublist
  · intro output member
    exact watched_of_mem_absorbAll stored reports attributed (sublist.subset member)

include stored reports in
/-- There, a watched output that is found leaves a coin. -/
theorem covered_of_complete
    (attributed : ∀ outpoint output,
      firstScanned (scannedCoins node (matchedRow base) order) outpoint = some output →
        output.address = paid outpoint)
    (complete : ∀ output ∈ watchedOutputs base tx,
      (firstScanned (scannedCoins node (matchedRow base) order) ⟨tx.txid, output.vout⟩).isSome) :
    ∀ output ∈ watchedOutputs base tx, ∃ coin ∈ (absorbAll
      ((scannedCoins node (matchedRow base) order).map Prod.snd)).coins,
        coin.vout = output.vout := by
  intro output watched
  obtain ⟨first, found⟩ := Option.isSome_iff_exists.mp (complete output watched)
  have member := mem_of_firstScanned found
  have place := (watched_of_mem_scannedCoins stored reports member (attributed _ first found)).2
  have sameVout : output.vout = first.vout := congrArg Outpoint.vout place
  rw [sameVout]
  exact exists_absorbAll_coin (List.mem_map_of_mem member)

/-- The first linked coin has the value of the coin that is found first. -/
theorem headValue_absorbAll (found : List (Outpoint × DiscoveredOutput)) :
    ((absorbAll (found.map Prod.snd)).linked.head?.map DiscoveredOutput.valueSats).getD 0 =
      (found.head?.map fun coin => coin.2.valueSats).getD 0 := by
  rw [absorbAll_linked_head, List.head?_map, Option.map_map]
  rfl

section OneTransaction

variable (noCoins : base.utxos = .empty) (noEntries : base.ledgerEntries = .empty)
  (noLinks : base.ledgerLinks = .empty) {scanned live : Database}
  (scanRun : scanAll node base order = .ok scanned) {ctx : TxContext}
  {result : TxProcessingResult} {direction : Direction} {postings : List Posting}
  (processed : Processed base tx ctx live result direction postings)

include noCoins processed in
/-- The live path leaves a coin for every watched output, at the address that it pays. -/
theorem hasCoin_live_iff (outpoint : Outpoint) (address : String) (valueSats : Nat) :
    HasCoin live outpoint address valueSats ↔
      ∃ output ∈ watchedOutputs base tx, (⟨tx.txid, output.vout⟩ : Outpoint) = outpoint ∧
        output.address = address ∧ output.valueSats = valueSats := by
  have discovered := discoverOutputs_perm base ctx.rowOrder tx
  exact hasCoin_iff processed.addresses (processed.coins_of_empty noCoins)
    (fun coin member => discovered.mem_iff.mp member)
    (fun output watched => ⟨output, discovered.mem_iff.mpr watched, rfl⟩) outpoint address valueSats

include noCoins processed reports in
/-- Where scan and live path agree, every coin is found first at the address that it pays. -/
theorem attributed_of_agrees
    (coinsScanned : CoinsScanned base scanned (scannedCoins node (matchedRow base) order))
    (agrees : ScanAgrees scanned live) {outpoint : Outpoint} {output : DiscoveredOutput}
    (first : firstScanned (scannedCoins node (matchedRow base) order) outpoint = some output) :
    output.address = paid outpoint := by
  obtain ⟨valueSats, has⟩ := coinsScanned.hasCoin first
  obtain ⟨watched, isWatched, place, sameText, -⟩ :=
    (hasCoin_live_iff noCoins processed _ _ _).mp ((agrees.coins _ _ _).mp has)
  rw [← sameText]
  exact paid_of_watched reports (mem_of_firstScanned first) isWatched place

include stored reports noCoins noEntries noLinks scanRun processed in
/-- Where scan and live path agree, the scans fit. -/
theorem scansFit_of_agrees
    (coinsScanned : CoinsScanned base scanned (scannedCoins node (matchedRow base) order))
    (agrees : ScanAgrees scanned live) :
    ScansFit base tx paid (scannedCoins node (matchedRow base) order) := by
  have attributed : ∀ outpoint output,
      firstScanned (scannedCoins node (matchedRow base) order) outpoint = some output →
        output.address = paid outpoint :=
    fun _ _ first => attributed_of_agrees reports noCoins processed coinsScanned agrees first
  have state := (ScanState.start noCoins noEntries noLinks node tx).scanAll
    (ofTx_of_attributed stored reports attributed) scanRun
  refine ⟨attributed, ?complete, ?single⟩
  case complete =>
    intro output watched
    have live := (hasCoin_live_iff noCoins processed _ _ _).mpr ⟨output, watched, rfl, rfl, rfl⟩
    exact coinsScanned.isSome_of_hasCoin ((agrees.coins _ _ _).mpr live)
  case single =>
    rw [← headValue_absorbAll]
    refine (linked_books_all_iff (linked_subperm_watched stored reports attributed)).mp
      ⟨fun holdingId => ?_, state.ledger.balanced_iff.mp agrees.scannedBalanced⟩
    have same := agrees.totals holdingId
    rw [state.ledger.onchainLinkTotal,
      processed.onchainLinkTotal_of_empty (wellFormed_of_empty noCoins noLinks) noCoins noLinks]
      at same
    exact Int.ofNat_inj.mp same

include stored reports noCoins noEntries noLinks scanRun processed in
/-- Where the scans fit, scan and live path agree. -/
theorem agrees_of_scansFit
    (fit : ScansFit base tx paid (scannedCoins node (matchedRow base) order)) :
    ScanAgrees scanned live := by
  have state := (ScanState.start noCoins noEntries noLinks node tx).scanAll
    (ofTx_of_attributed stored reports fit.attributed) scanRun
  have scannedHas := hasCoin_iff state.addresses state.coins
    (fun coin member => watched_of_mem_absorbAll stored reports fit.attributed member)
    (covered_of_complete stored reports fit.attributed fit.complete)
  have headValue := headValue_absorbAll (scannedCoins node (matchedRow base) order)
  obtain ⟨totals, balanced⟩ :=
    (linked_books_all_iff (linked_subperm_watched stored reports fit.attributed)).mpr
      (by rw [fit.single]; exact headValue.symm)
  refine ⟨?totals, state.ledger.balanced_iff.mpr balanced,
    processed.entriesBalanced noEntries noLinks, ?coins⟩
  case totals =>
    intro holdingId
    rw [processed.onchainLinkTotal_of_empty (wellFormed_of_empty noCoins noLinks) noCoins noLinks,
      ← totals]
    exact state.ledger.onchainLinkTotal holdingId
  case coins =>
    intro outpoint address valueSats
    rw [hasCoin_live_iff noCoins processed, scannedHas]

end OneTransaction

end Assumed

/-- Scan and live path: on an empty ledger, for a transaction whose watched outputs bitcoind reports
    as they are, both return, and they agree on money exactly when the first keys' numbers lead every
    watched output to its address, and the coin that is found first has all of their value. -/
theorem scanAgrees_iff (noCoins : base.utxos = .empty) (noEntries : base.ledgerEntries = .empty)
    (noLinks : base.ledgerLinks = .empty) {order : List DescriptorRow}
    (stored : ∀ descriptor ∈ order, base.descriptors.get? descriptor.id = some descriptor)
    (answers : ∀ descriptor ∈ order, Answers node descriptor) {library : DescriptorLibrary}
    {nodeKeys : NodeKeys} {keysOf : DescriptorRow → Bool → List KeyExpression}
    {script : DescriptorRow → Bool × ScanUtxo → ReportedScript} {paid : Outpoint → String}
    (scripts : ∀ descriptor ∈ order, ReportsScripts library nodeKeys node descriptor
      (keysOf descriptor) (script descriptor) paid)
    (reports : ∀ descriptor ∈ order, ReportsTransaction base tx paid node descriptor)
    (ctx : TxContext) :
    ∃ scanned live result, scanAll node base order = .ok scanned ∧
      processDecodedTransaction base tx ctx = .ok (live, result) ∧
      (ScanAgrees scanned live ↔
        ScansFit base tx paid (scannedCoins node
          (fun descriptor => numberedRow base descriptor (script descriptor)) order)) := by
  rw [← scannedCoins_congr fun descriptor listed coin reported =>
    matchedRow_eq_numberedRow (scripts descriptor listed) reported]
  obtain ⟨scanned, scanRun, coinsScanned⟩ := (CoinsScanned.start noCoins noEntries).scanAll answers
  rw [List.nil_append] at coinsScanned
  obtain ⟨live, result, direction, postings, liveRun, processed⟩ :=
    processDecodedTransaction_spec (wellFormed_of_empty noCoins noLinks) tx ctx
  exact ⟨scanned, live, result, scanRun, liveRun,
    scansFit_of_agrees stored reports noCoins noEntries noLinks scanRun processed coinsScanned,
    agrees_of_scansFit stored reports noCoins noEntries noLinks scanRun processed⟩

/-- For ranged keys, with the derived addresses in the table and every watched output reported at an
    index that has a row, what is left of the condition is that one coin has all of the value. -/
theorem scansFit_iff_of_ranged {order : List DescriptorRow} {library : DescriptorLibrary}
    {nodeKeys : NodeKeys} {keysOf : DescriptorRow → Bool → List KeyExpression}
    {script : DescriptorRow → Bool × ScanUtxo → ReportedScript} {paid : Outpoint → String}
    (scripts : ∀ descriptor ∈ order, ReportsScripts library nodeKeys node descriptor
      (keysOf descriptor) (script descriptor) paid)
    (ranged : ∀ descriptor ∈ order, ∀ branch ∈ descriptor.branches,
      keysOf descriptor branch.1 ≠ [] ∧ ∀ key ∈ keysOf descriptor branch.1,
        key.wildcard = some false)
    (derived : ∀ descriptor ∈ order, ∀ branch ∈ descriptor.branches, ∀ index row,
      addressAt base descriptor branch.1 index = some row →
        row.address = library.deriveAddress branch.2 descriptor.network index)
    (complete : ∀ output ∈ watchedOutputs base tx, ∃ descriptor ∈ order,
      ∃ coin ∈ reportedCoins node descriptor, coin.2.outpoint = ⟨tx.txid, output.vout⟩ ∧
        (numberedRow base descriptor (script descriptor) coin).isSome) :
    ScansFit base tx paid (scannedCoins node
        (fun descriptor => numberedRow base descriptor (script descriptor)) order) ↔
      receivedTotal (watchedOutputs base tx) = ((scannedCoins node
        (fun descriptor => numberedRow base descriptor (script descriptor)) order).head?.map
          fun coin => coin.2.valueSats).getD 0 := by
  refine ⟨ScansFit.single, fun single => ⟨?_, ?_, single⟩⟩
  · intro outpoint output first
    obtain ⟨descriptor, listed, coin, reported, row, leads, same⟩ :=
      mem_scannedCoins.mp (mem_of_firstScanned first)
    obtain ⟨rfl, rfl⟩ := Prod.mk.injEq .. ▸ same
    obtain ⟨branch, branchListed, atRow, pays⟩ := @numberedRow_of_ranged _ _ _ base _ _ _ _
      (scripts descriptor listed) (ranged descriptor listed) coin reported
    rw [atRow] at leads
    rw [pays]
    exact derived descriptor listed branch branchListed _ row leads
  · intro output watched
    obtain ⟨descriptor, listed, coin, reported, place, leads⟩ := complete output watched
    obtain ⟨row, leads⟩ := Option.isSome_iff_exists.mp leads
    have member : (coin.2.outpoint, scannedOutput descriptor coin.2 row) ∈ scannedCoins node
        (fun descriptor => numberedRow base descriptor (script descriptor)) order :=
      mem_scannedCoins.mpr ⟨descriptor, listed, coin, reported, row, leads, rfl⟩
    rw [← place]
    exact firstScanned_isSome member

end Agreement

/-! ### Two sample wallets -/

/-- The key of the first sample descriptor. -/
def firstWalletKey : KeyExpression where
  origin := none
  key := ⟨['a'], List.all_eq_true.mp rfl⟩
  steps := [⟨0, false⟩]
  wildcard := some false

/-- The key of the second one. -/
def secondWalletKey : KeyExpression where
  origin := none
  key := ⟨['b'], List.all_eq_true.mp rfl⟩
  steps := [⟨0, false⟩]
  wildcard := some false

/-- The keys of a sample descriptor. -/
def sampleKeys (descriptor : DescriptorRow) : List KeyExpression :=
  if descriptor.expression = "wpkh(a/0/*)" then [firstWalletKey] else [secondWalletKey]

/-- Every sample coin is of the script at index 0. -/
def sampleScript (descriptor : DescriptorRow) (_ : Bool × ScanUtxo) : ReportedScript :=
  ⟨sampleKeys descriptor, 0⟩

/-- The library of the two sample wallets. -/
def sampleDescriptors : DescriptorLibrary where
  descriptor _ _ := .ok ⟨.wpkh, false, "", ""⟩
  deriveAddress expression _ _ := if expression = "wpkh(a/0/*)" then "bcrt1qa" else "bcrt1qb"

def sampleNodeKeys : NodeKeys where
  fingerprint _ := ['6', '8', '3', '4', 'a', '6', '3', 'c']
  hex _ := List.all_eq_true.mp rfl
  publicKey _ _ := ⟨['0', '2', 'a', 'b'], by decide, List.all_eq_true.mp rfl⟩
  mark := vaultNodeKeys.mark
  marks := vaultNodeKeys.marks

/-- A coin of the first sample address. -/
def sampleUnspent (c : Char) (vout amountSats : Nat) : ScanUtxo :=
  ⟨.repeated c, vout, amountSats, 7, "wpkh([6834a63c/0/0]02ab)#abcdwxyz"⟩

section SampleNode

variable {utxos : List ScanUtxo} {descriptor : DescriptorRow}

/-- What the sample node reports of the sample wallet. -/
theorem mem_reportedCoins_sampleNode {coin : Bool × ScanUtxo}
    (stored : descriptor ∈ sampleWallet.descriptors.rows)
    (reported : coin ∈ reportedCoins (sampleNode utxos) descriptor) :
    descriptor.expression = "wpkh(a/0/*)" ∧ coin.1 = false ∧ coin.2 ∈ utxos := by
  have external : ∀ descriptor ∈ sampleWallet.descriptors.rows,
      descriptor.branches = [(false, descriptor.expression)] := by decide
  rw [reportedCoins, external descriptor stored, List.flatMap_singleton] at reported
  obtain ⟨unspent, answered, rfl⟩ := List.mem_map.mp reported
  change unspent ∈ (if descriptor.expression = "wpkh(a/0/*)" then utxos else []) at answered
  split at answered
  · rename_i first
    exact ⟨first, rfl, answered⟩
  · cases answered

/-- The sample node answers for every descriptor. -/
theorem sampleNode_answers (descriptor : DescriptorRow) : Answers (sampleNode utxos) descriptor := by
  intro branch _ message refused
  cases refused

/-- The sample node reports the scripts of the keys. -/
theorem sampleNode_reportsScripts
    (texts : ∀ unspent ∈ utxos, unspent.descriptor = "wpkh([6834a63c/0/0]02ab)#abcdwxyz")
    (stored : descriptor ∈ sampleWallet.descriptors.rows) :
    ReportsScripts sampleDescriptors sampleNodeKeys (sampleNode utxos) descriptor
      (fun _ => sampleKeys descriptor) (sampleScript descriptor) (fun _ => "bcrt1qa") where
  expressed := by
    intro branch listed
    have expressed : ∀ descriptor ∈ sampleWallet.descriptors.rows, ∀ branch ∈ descriptor.branches,
        branch.2 = (if descriptor.expression = "wpkh(a/0/*)" then "wpkh(a/0/*)"
          else "wpkh(b/0/*)") := by decide
    rw [expressed descriptor stored branch listed, sampleKeys]
    split
    · exact ⟨.wpkh ⟨firstWalletKey.text 'h', List.all_eq_true.mp rfl⟩, none, 'h', .inl rfl, by decide,
        rfl⟩
    · exact ⟨.wpkh ⟨secondWalletKey.text 'h', List.all_eq_true.mp rfl⟩, none, 'h', .inl rfl, by decide,
        rfl⟩
  keys := fun _ _ => List.Perm.refl _
  writes := by
    intro coin reported
    obtain ⟨first, -, listed⟩ := mem_reportedCoins_sampleNode stored reported
    rw [texts coin.2 listed, sampleScript, sampleKeys, if_pos first]
    refine ⟨.wpkh ⟨sampleNodeKeys.keyText 0 firstWalletKey, List.all_eq_true.mp rfl⟩,
      some ⟨['a', 'b', 'c', 'd', 'w', 'x', 'y', 'z'], List.all_eq_true.mp rfl⟩, ?_, rfl, ?_, ?_⟩
    · decide
    · exact fun digest member => absurd member List.not_mem_nil
    · decide
  pays := by
    intro branch listed unspent answered
    change unspent ∈ (if branch.2 = "wpkh(a/0/*)" then utxos else []) at answered
    split at answered
    · rename_i first
      rw [first]
      rfl
    · cases answered

/-- The sample node reports the outputs of the transaction. -/
theorem sampleNode_reportsTransaction {tx : DecodedTx}
    (outputs : ∀ unspent ∈ utxos, unspent.txid = tx.txid ∧
      ("bcrt1qa", unspent.amountSats, unspent.vout) ∈ tx.payments)
    (stored : descriptor ∈ sampleWallet.descriptors.rows) :
    ReportsTransaction sampleWallet tx (fun _ => "bcrt1qa") (sampleNode utxos) descriptor where
  outputs := by
    intro coin reported _
    exact (outputs coin.2 (mem_reportedCoins_sampleNode stored reported).2.2).2
  alone := by
    intro coin reported _
    exact (outputs coin.2 (mem_reportedCoins_sampleNode stored reported).2.2).1

end SampleNode

theorem sampleWallet_stored : ∀ descriptor ∈ sampleWallet.descriptors.rows,
    sampleWallet.descriptors.get? descriptor.id = some descriptor := by decide

theorem sampleWallet_derived : ∀ descriptor ∈ sampleWallet.descriptors.rows,
    ∀ branch ∈ descriptor.branches, ∀ row ∈ sampleWallet.addresses.rows,
      row.descriptorId = descriptor.id →
        row.address = sampleDescriptors.deriveAddress branch.2 descriptor.network 0 := by decide

/-- The scan and the live path agree on one payment to a ranged wallet. -/
theorem scanAgrees_iff_onePayment :
    ∃ scanned live result,
      scanAll (sampleNode [sampleUnspent 'a' 0 100000]) sampleWallet
          sampleWallet.descriptors.rows = .ok scanned ∧
        processDecodedTransaction sampleWallet samplePayment (sampleCall (some 7)) =
          .ok (live, result) ∧
        ScanAgrees scanned live := by
  obtain ⟨scanned, live, result, scanRun, liveRun, agree⟩ :=
    @scanAgrees_iff sampleWallet (sampleNode [sampleUnspent 'a' 0 100000]) samplePayment
      rfl rfl rfl _ sampleWallet_stored (fun descriptor _ => sampleNode_answers descriptor)
      _ _ _ _ _ (fun _ stored => sampleNode_reportsScripts (by decide) stored)
      (fun _ stored => sampleNode_reportsTransaction (by decide) stored) (sampleCall (some 7))
  refine ⟨scanned, live, result, scanRun, liveRun, agree.mpr ?_⟩
  refine (scansFit_iff_of_ranged
    (fun _ stored => sampleNode_reportsScripts (by decide) stored) ?_ ?_ ?_).mpr (by decide)
  · decide
  · intro descriptor stored branch listed index row found
    exact sampleWallet_derived descriptor stored branch listed row (mem_of_addressAt found).1
      (mem_of_addressAt found).2
  · decide

/-- Two outputs to one holding. -/
def sampleSplit : DecodedTx where
  txid := .repeated 'c'
  hex := "00"
  vin := [⟨none, none⟩]
  vout := [⟨some 60000, some 0, some "bcrt1qa"⟩, ⟨some 40000, some 1, some "bcrt1qa"⟩]
  prevoutsNodup := samplePayment.prevoutsNodup
  indicesNodup := by decide
  noSelfSpend := by decide

/-- The node that reports both outputs. -/
def sampleSplitNode : ScanNode :=
  sampleNode [sampleUnspent 'c' 0 60000, sampleUnspent 'c' 1 40000]

/-- The scan books only the first of two outputs to one holding, though the node reports them as
    they are. -/
theorem not_scanAgrees_of_twoOutputs :
    (∀ descriptor ∈ sampleWallet.descriptors.rows,
      ReportsScripts sampleDescriptors sampleNodeKeys sampleSplitNode descriptor
          (fun _ => sampleKeys descriptor) (sampleScript descriptor) (fun _ => "bcrt1qa") ∧
        ReportsTransaction sampleWallet sampleSplit (fun _ => "bcrt1qa") sampleSplitNode
          descriptor) ∧
      ∃ scanned live result,
        scanAll sampleSplitNode sampleWallet sampleWallet.descriptors.rows = .ok scanned ∧
          processDecodedTransaction sampleWallet sampleSplit (sampleCall (some 7)) =
            .ok (live, result) ∧
          scanned.onchainLinkTotal 10 = 60000 ∧ live.onchainLinkTotal 10 = 100000 ∧
          ¬ScanAgrees scanned live := by
  refine ⟨fun descriptor stored => ⟨sampleNode_reportsScripts (by decide) stored,
    sampleNode_reportsTransaction (by decide) stored⟩, ?_⟩
  have start : CoinsScanned sampleWallet sampleWallet [] := .start rfl rfl
  obtain ⟨scanned, scanRun, -⟩ := @CoinsScanned.scanAll _ sampleSplitNode
    sampleWallet.descriptors.rows _ _ start fun descriptor _ => sampleNode_answers descriptor
  obtain ⟨live, result, -, -, liveRun, -⟩ := processDecodedTransaction_spec sampleWallet_wellFormed
    sampleSplit (sampleCall (some 7))
  have scannedTotal : (scanAll sampleSplitNode sampleWallet
      sampleWallet.descriptors.rows).toOption.map (fun db => db.onchainLinkTotal 10) =
        some 60000 := by decide +kernel
  have liveTotal : (processDecodedTransaction sampleWallet sampleSplit
      (sampleCall (some 7))).toOption.map (fun pair => pair.1.onchainLinkTotal 10) =
        some 100000 := by decide +kernel
  rw [scanRun] at scannedTotal
  rw [liveRun] at liveTotal
  have scannedTotal : scanned.onchainLinkTotal 10 = 60000 := Option.some.inj scannedTotal
  have liveTotal : live.onchainLinkTotal 10 = 100000 := Option.some.inj liveTotal
  refine ⟨scanned, live, result, scanRun, liveRun, scannedTotal, liveTotal, ?_⟩
  intro agrees
  have same := agrees.totals 10
  rw [scannedTotal, liveTotal] at same
  exact absurd same (by decide)

end TallyKeep
