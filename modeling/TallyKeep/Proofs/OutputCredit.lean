/-
Module: TallyKeep.Proofs.OutputCredit
Layer: Proofs
Purpose: What the ledger entries of a new transaction add up to, against the coins it creates and
  spends, whatever addresses the schema admits.
Trusted boundary: none
Main exports: SchemaAdmits, Unseen, CreditedOnce, surplusCredit, respentValue, creditedOnce_iff
-/
import TallyKeep.Proofs.Conservation

namespace TallyKeep

open Relational CoinMarks

/-- The foreign keys of the chain tables.  Addresses need not be unique: one text may stand in
    several rows, of one holding or of several. -/
structure SchemaAdmits (db : Database) : Prop where
  holderOfCoin : ∀ row ∈ db.utxos.rows, (db.holdingOf row.descriptorId).isSome
  holderOfAddress : ∀ row ∈ db.addresses.rows, (db.holdingOf row.descriptorId).isSome
  entryOfLink : ∀ link ∈ db.ledgerLinks.rows,
    (db.ledgerEntries.get? link.ledgerEntryId).isSome

/-- No table knows the transaction. -/
structure Unseen (db : Database) (tx : DecodedTx) : Prop where
  noRow : db.onchainTransactions.get? tx.txid = none
  noCoin : ∀ row ∈ db.utxos.rows, row.outpoint.txid ≠ tx.txid
  noEntry : ∀ entry ∈ db.ledgerEntries.rows, ¬entry.RecordsTx tx.txid
  noSpender : ∀ row ∈ db.utxos.rows, row.spentInTxid ≠ some tx.txid

/-! ### What one call adds -/

/-- The sum of `net_amount_sats` over the ledger entries that are new. -/
def newEntriesTotal (db db' : Database) : Int :=
  db'.ledgerEntries.total fun entry =>
    if (db.ledgerEntries.get? entry.id).isNone then entry.netAmountSats else 0

/-- The sum of `value_sats` over the coins that are new. -/
def newCoinsTotal (db db' : Database) : Nat :=
  db'.utxos.total fun row => if (db.utxos.get? row.outpoint).isNone then row.valueSats else 0

/-- The sum of `value_sats` over the coins that were unspent and are spent. -/
def newlySpentTotal (db db' : Database) : Nat :=
  db'.utxos.total fun row =>
    if row.isSpent && (db.utxos.get? row.outpoint).any fun before => !before.isSpent
    then row.valueSats
    else 0

/-- The call returns, and the new entries add up to the new coins less the newly spent ones. -/
def CreditedOnce (db : Database) (tx : DecodedTx) (ctx : TxContext) : Prop :=
  ∃ db' result, processDecodedTransaction db tx ctx = .ok (db', result) ∧
    newEntriesTotal db db' = (newCoinsTotal db db' : Int) - newlySpentTotal db db'

/-! ### The condition -/

/-- How many address rows watch an address text. -/
def watchers (db : Database) (address : String) : Nat :=
  (db.addresses.select fun row => decide (row.address = address)).length

/-- What the transaction pays to watched addresses, an output counted once for every further row
    that watches its address. -/
def surplusCredit (db : Database) (tx : DecodedTx) : Nat :=
  (tx.payments.map fun payment => payment.2.1 * (watchers db payment.1 - 1)).sum

/-- What the transaction consumes of coins that another transaction has spent already. -/
def respentValue (db : Database) (tx : DecodedTx) : Nat :=
  ((consumedRows db tx).map fun row => if row.isSpent then row.valueSats else 0).sum

/-! ### The entries -/

variable {db db' : Database} {tx : DecodedTx} {ctx : TxContext}

theorem Unseen.linksFor_eq_nil (unseen : Unseen db tx) (holdingId : Uuid) :
    linksFor db tx.txid holdingId = [] := by
  rw [linksFor, Table.select, List.filter_eq_nil_iff]
  intro link _ hit
  rw [Bool.and_eq_true] at hit
  cases found : db.ledgerEntries.get? link.ledgerEntryId with
  | none =>
      rw [found] at hit
      cases hit.2
  | some entry =>
      rw [found, Option.any_some] at hit
      exact unseen.noEntry entry (Table.mem_of_get? found) (of_decide_eq_true hit.2)

theorem Unseen.admits (admitted : SchemaAdmits db) (unseen : Unseen db tx) :
    LedgerAdmits db tx.txid := by
  refine ⟨admitted.entryOfLink, fun holdingId => ?_⟩
  rw [unseen.linksFor_eq_nil holdingId]
  exact Nat.zero_le 1

/-- The new entries are the postings. -/
theorem Processed.newEntriesTotal_eq {result : TxProcessingResult} {direction : Direction}
    {postings : List Posting} (processed : Processed db tx ctx db' result direction postings) :
    newEntriesTotal db db' = (postings.map Posting.net).sum := by
  have entries := processed.books.entries
  rw [newEntriesTotal, Table.total, entries, List.map_append, List.sum_append, List.map_map]
  have old : (db.ledgerEntries.rows.map fun entry =>
      if (db.ledgerEntries.get? entry.id).isNone then entry.netAmountSats else 0).sum = 0 := by
    apply List.sum_eq_zero
    intro amount member
    obtain ⟨entry, stored, rfl⟩ := List.mem_map.mp member
    have found : db.ledgerEntries.get? entry.id = some entry := Table.get?_of_mem stored
    simp [found]
  have new : ∀ posting ∈ postings, db.ledgerEntries.get? posting.entryId = none := by
    intro posting member
    have keys := db'.ledgerEntries.keysNodup
    rw [entries, List.map_append, List.nodup_append] at keys
    rw [Table.get?_eq_none_iff]
    intro used
    refine keys.2.2 _ used _ ?_ rfl
    exact List.mem_map_of_mem (List.mem_map_of_mem
      (f := fun posting : Posting => posting.entry tx ctx direction) member)
  change (db.ledgerEntries.rows.map fun entry =>
      if (db.ledgerEntries.get? entry.id).isNone then entry.netAmountSats else 0).sum + _ = _
  rw [old, zero_add]
  apply congrArg List.sum
  apply List.map_congr_left
  intro posting member
  simp [Posting.entry, new posting member]

/-- Sorted by holding, the found outputs are the found outputs. -/
theorem sum_receivedValue {discovered : List DiscoveredOutput} {holdings : Finset Uuid}
    (covered : ∀ found ∈ discovered, found.holdingId ∈ holdings) :
    ∑ holdingId ∈ holdings, receivedValue discovered holdingId = receivedTotal discovered := by
  have asSum : ∀ holdingId, receivedValue discovered holdingId =
      (discovered.map fun found =>
        if some found.holdingId = some holdingId then found.valueSats else 0).sum := by
    intro holdingId
    rw [receivedValue]
    induction discovered with
    | nil => rfl
    | cons found rest inductionHypothesis =>
        have later := inductionHypothesis fun other member =>
          covered other (List.mem_cons_of_mem found member)
        rw [List.filter_cons, List.map_cons, List.sum_cons, ← later]
        by_cases held : found.holdingId = holdingId <;> simp [held]
  rw [Finset.sum_congr rfl fun holdingId _ => asSum holdingId]
  exact sum_classes (fun found member => ⟨found.holdingId, covered found member, rfl⟩) _

/-- What a holding loses, over the coins that are consumed. -/
theorem holdingInputValue_eq_sum (db : Database) (tx : DecodedTx) (holdingId : Uuid) :
    holdingInputValue db tx holdingId =
      ((consumedRows db tx).map fun row =>
        if db.holdingOf row.descriptorId = some holdingId then row.valueSats else 0).sum := by
  rw [holdingInputValue, consumedRows]
  induction tx.prevouts with
  | nil => rfl
  | cons prevout rest inductionHypothesis =>
      rw [List.map_cons, List.sum_cons, inductionHypothesis]
      cases found : db.utxos.get? prevout with
      | none =>
          rw [List.filterMap_cons_none found]
          simp [inputValue, found]
      | some row =>
          rw [List.filterMap_cons_some found, List.map_cons, List.sum_cons]
          simp [inputValue, found]

/-- Sorted by holding, the consumed coins are the consumed coins. -/
theorem sum_holdingInputValue (holderOfCoin : ∀ row ∈ db.utxos.rows,
    (db.holdingOf row.descriptorId).isSome) (tx : DecodedTx) :
    ∑ holdingId ∈ affectedHoldings db tx, holdingInputValue db tx holdingId =
      ((consumedRows db tx).map UtxoRow.valueSats).sum := by
  rw [Finset.sum_congr rfl fun holdingId _ => holdingInputValue_eq_sum db tx holdingId]
  apply sum_classes
  intro row member
  have stored := ((mem_consumedRows db tx).mp member).1
  obtain ⟨holder, held⟩ := Option.isSome_iff_exists.mp (holderOfCoin row stored)
  refine ⟨holder, ?_, held⟩
  rw [affectedHoldings, Finset.mem_union, List.mem_toFinset, List.mem_filterMap]
  exact .inl ⟨row, member, held⟩

/-- What is posted for an unseen transaction, over all holdings. -/
theorem Processed.sum_nets {result : TxProcessingResult} {direction : Direction}
    {postings : List Posting} (processed : Processed db tx ctx db' result direction postings)
    (admitted : SchemaAdmits db) (unseen : Unseen db tx) :
    (postings.map Posting.net).sum =
      (receivedTotal (watchedOutputs db tx) : Int) -
        ((consumedRows db tx).map UtxoRow.valueSats).sum := by
  have byHolding : (postings.map Posting.net).sum =
      ∑ holdingId ∈ affectedHoldings db tx, (postings.map fun posting =>
        if some posting.holdingId = some holdingId then posting.net else 0).sum := by
    apply Eq.symm
    apply sum_classes
    intro posting member
    exact ⟨posting.holdingId,
      ((processed.posted_iff posting.holdingId).mp ⟨posting, member, rfl⟩).1, rfl⟩
  have received : ∑ holdingId ∈ affectedHoldings db tx,
      receivedValue (watchedOutputs db tx) holdingId = receivedTotal (watchedOutputs db tx) := by
    apply sum_receivedValue
    intro found watched
    rw [affectedHoldings, Finset.mem_union]
    exact .inr (List.mem_toFinset.mpr (List.mem_map_of_mem watched))
  rw [byHolding, ← received, ← sum_holdingInputValue admitted.holderOfCoin tx, Nat.cast_sum,
    Nat.cast_sum, ← Finset.sum_sub_distrib]
  apply Finset.sum_congr rfl
  intro holdingId _
  have posted := processed.postedSum holdingId
  rw [if_pos (unseen.linksFor_eq_nil holdingId), holdingNet] at posted
  simpa only [Option.some.injEq] using posted

/-! ### The coins -/

/-- The payments to addresses that some row watches. -/
def watchedPayments (db : Database) (tx : DecodedTx) : List (String × Nat × Nat) :=
  tx.payments.filter fun payment => decide (0 < watchers db payment.1)

theorem watchers_pos_iff {address : String} :
    0 < watchers db address ↔ ∃ row ∈ db.addresses.rows, row.address = address := by
  rw [watchers, List.length_pos_iff_exists_mem]
  apply exists_congr
  intro row
  rw [Table.mem_select, decide_eq_true_eq]

/-- What is watched, by payments and not by rows. -/
theorem SchemaAdmits.exists_watched_iff (admitted : SchemaAdmits db) (vout : Nat) :
    (∃ found ∈ watchedOutputs db tx, found.vout = vout) ↔
      ∃ payment ∈ watchedPayments db tx, payment.2.2 = vout := by
  constructor
  · intro ⟨found, watched, place⟩
    obtain ⟨row, stored, -, paid, sameAddress, -⟩ := mem_watchedOutputs.mp watched
    refine ⟨_, List.mem_filter.mpr ⟨paid, ?_⟩, place⟩
    exact decide_eq_true (watchers_pos_iff.mpr ⟨row, stored, sameAddress.symm⟩)
  · intro ⟨(address, valueSats, index), listed, place⟩
    obtain ⟨paid, positive⟩ := List.mem_filter.mp listed
    obtain ⟨row, stored, rfl⟩ := watchers_pos_iff.mp (of_decide_eq_true positive)
    obtain ⟨holder, held⟩ := Option.isSome_iff_exists.mp (admitted.holderOfAddress row stored)
    exact ⟨⟨index, valueSats, row.address, row.id, row.descriptorId, holder⟩,
      mem_watchedOutputs.mpr ⟨row, stored, held, paid, rfl, rfl, rfl⟩, place⟩

/-- The coin that is recorded for a payment has its value. -/
theorem Processed.coin_of_payment {result : TxProcessingResult} {direction : Direction}
    {postings : List Posting} (processed : Processed db tx ctx db' result direction postings)
    (admitted : SchemaAdmits db) (unseen : Unseen db tx) {payment : String × Nat × Nat}
    (listed : payment ∈ watchedPayments db tx) :
    ∃ row, db'.utxos.get? ⟨tx.txid, payment.2.2⟩ = some row ∧ row.valueSats = payment.2.1 := by
  obtain ⟨found, watched, place⟩ := (admitted.exists_watched_iff payment.2.2).mpr ⟨_, listed, rfl⟩
  have value : ∀ other ∈ watchedOutputs db tx, other.vout = payment.2.2 →
      other.valueSats = payment.2.1 := by
    intro other otherWatched otherPlace
    obtain ⟨-, -, -, paid, -⟩ := mem_watchedOutputs.mp otherWatched
    have same := List.inj_on_of_nodup_map (payments_nodup tx) paid (List.mem_filter.mp listed).1
      otherPlace
    exact congrArg (fun payment => payment.2.1) same
  have absent : db.coinAt ⟨tx.txid, payment.2.2⟩ = none := by
    rw [Database.coinAt_eq_none_iff, Table.get?_eq_none_iff]
    intro used
    obtain ⟨row, stored, same⟩ := List.mem_map.mp used
    exact unseen.noCoin row stored (congrArg Outpoint.txid same)
  have coin := processed.coins ⟨tx.txid, payment.2.2⟩
  rw [absent, coinAfter, if_neg (tx.own_not_mem_prevouts payment.2.2), recordedAt] at coin
  cases first : (discoverOutputs db ctx.rowOrder tx).find? fun output =>
      (⟨tx.txid, output.vout⟩ : Outpoint) = ⟨tx.txid, payment.2.2⟩ with
  | none =>
      have here := (discoverOutputs_perm db ctx.rowOrder tx).mem_iff.mpr watched
      have refused := List.find?_eq_none.mp first found here
      rw [place, decide_eq_true_eq] at refused
      exact absurd rfl refused
  | some other =>
      rw [first] at coin
      obtain ⟨row, stored, same⟩ := Option.map_eq_some_iff.mp coin
      have otherPlace : (⟨tx.txid, other.vout⟩ : Outpoint) = ⟨tx.txid, payment.2.2⟩ := by
        simpa using List.find?_some first
      have otherWatched := (discoverOutputs_perm db ctx.rowOrder tx).mem_iff.mp
        (List.mem_of_find?_eq_some first)
      refine ⟨row, stored, ?_⟩
      rw [← value other otherWatched (congrArg Outpoint.vout otherPlace)]
      exact congrArg UtxoRow.valueSats same

/-- The new coins are the watched payments, each once. -/
theorem Processed.newCoinsTotal_eq {result : TxProcessingResult} {direction : Direction}
    {postings : List Posting} (processed : Processed db tx ctx db' result direction postings)
    (admitted : SchemaAdmits db) (unseen : Unseen db tx) :
    newCoinsTotal db db' = ((watchedPayments db tx).map fun payment => payment.2.1).sum := by
  let value : Outpoint → Nat := fun outpoint =>
    ((db'.utxos.get? outpoint).map UtxoRow.valueSats).getD 0
  have places : ((watchedPayments db tx).map fun payment =>
      (⟨tx.txid, payment.2.2⟩ : Outpoint)).Nodup := by
    apply List.Nodup.of_map Outpoint.vout
    rw [List.map_map]
    exact (payments_nodup tx).sublist (List.filter_sublist.map _)
  have total : newCoinsTotal db db' = (((watchedPayments db tx).map fun payment =>
      (⟨tx.txid, payment.2.2⟩ : Outpoint)).map value).sum := by
    apply Table.total_eq_sum_map places
    · intro row stored listed
      have found : db'.utxos.get? row.outpoint = some row := Table.get?_of_mem stored
      obtain ⟨payment, -, place⟩ := List.mem_map.mp listed
      have absent : db.utxos.get? row.outpoint = none := by
        rw [Table.get?_eq_none_iff]
        intro used
        obtain ⟨before, old, same⟩ := List.mem_map.mp used
        have sameTx := congrArg Outpoint.txid (same.trans place.symm)
        exact unseen.noCoin before old sameTx
      change _ = value row.outpoint
      simp [value, found, absent]
    · intro row stored outside
      have coin := Database.coinAt_of_mem stored
      rcases processed.coin_origin coin with ⟨before, known, -⟩ | ⟨-, output, watched, place, -⟩
      · have present : (db.utxos.get? row.outpoint).isSome := by
          rw [← Database.coinAt_isSome, known]
          rfl
        rw [if_neg]
        rw [Option.isNone_iff_eq_none]
        intro none
        rw [none] at present
        cases present
      · obtain ⟨payment, listed, same⟩ :=
          (admitted.exists_watched_iff output.vout).mp ⟨output, watched, rfl⟩
        refine absurd (List.mem_map.mpr ⟨payment, listed, ?_⟩) outside
        rw [same]
        exact place.symm
    · intro outpoint _ absent
      simp [value, absent]
  rw [total, List.map_map]
  apply congrArg List.sum
  apply List.map_congr_left
  intro payment listed
  obtain ⟨row, found, same⟩ := processed.coin_of_payment admitted unseen listed
  simp [value, found, same]

/-- The newly spent coins are the consumed ones that were unspent. -/
theorem Processed.newlySpentTotal_eq {result : TxProcessingResult} {direction : Direction}
    {postings : List Posting} (processed : Processed db tx ctx db' result direction postings) :
    newlySpentTotal db db' =
      ((consumedRows db tx).map fun row => if row.isSpent then 0 else row.valueSats).sum := by
  let value : Outpoint → Nat := fun outpoint =>
    ((db.utxos.get? outpoint).map fun row => if row.isSpent then 0 else row.valueSats).getD 0
  have total : newlySpentTotal db db' = (tx.prevouts.map value).sum := by
    apply Table.total_eq_sum_map tx.prevouts_nodup
    · intro row stored consumed
      change row.outpoint ∈ tx.prevouts at consumed
      have coin := Database.coinAt_of_mem stored
      rw [processed.coins, coinAfter, if_pos consumed] at coin
      obtain ⟨before, known, same⟩ := Option.map_eq_some_iff.mp coin
      obtain ⟨old, found, rfl⟩ := Option.map_eq_some_iff.mp known
      have sameValue : old.valueSats = row.valueSats := by
        have values := congrArg UtxoRow.valueSats same
        rw [UtxoRow.markSpent_valueSats] at values
        exact values
      have spent : row.isSpent = true := by
        have spenders := congrArg UtxoRow.spentInTxid same
        rw [UtxoRow.markSpent_spentInTxid] at spenders
        have spender : row.spentInTxid = old.spentInTxid.or (some tx.txid) := spenders.symm
        rw [row.spentConsistent, spender]
        simp
      change _ = value row.outpoint
      cases already : old.isSpent <;> simp [value, found, spent, sameValue, already]
    · intro row stored outside
      change row.outpoint ∉ tx.prevouts at outside
      have coin := Database.coinAt_of_mem stored
      rw [processed.coins, coinAfter, if_neg outside] at coin
      apply if_neg
      rw [Bool.and_eq_true]
      rintro ⟨spent, unspentBefore⟩
      cases found : db.utxos.get? row.outpoint with
      | none =>
          rw [found] at unspentBefore
          cases unspentBefore
      | some before =>
          rw [found] at unspentBefore
          rw [Database.coinAt, found, Option.map_some, recordedAt] at coin
          have kept : row.spentInTxid = before.spentInTxid := by
            split at coin
            · have spenders := congrArg UtxoRow.spentInTxid (Option.some.inj coin)
              exact spenders.symm
            · have spenders := congrArg UtxoRow.spentInTxid (Option.some.inj coin)
              simp only [DiscoveredOutput.recorded, UtxoRow.refreshHeight_spentInTxid] at spenders
              exact spenders.symm
          rw [row.spentConsistent, kept, ← before.spentConsistent] at spent
          rw [Option.any_some, spent] at unspentBefore
          cases unspentBefore
    · intro outpoint consumed absent
      have coin := processed.coins outpoint
      rw [coinAfter, if_pos consumed] at coin
      have gone : db.coinAt outpoint = none := by
        have none : db'.coinAt outpoint = none := Database.coinAt_eq_none_iff.mpr absent
        rw [none] at coin
        simpa using coin.symm
      have missing := Database.coinAt_eq_none_iff.mp gone
      simp [value, missing]
  rw [total, consumedRows]
  induction tx.prevouts with
  | nil => rfl
  | cons prevout rest inductionHypothesis =>
      rw [List.map_cons, List.sum_cons, inductionHypothesis]
      cases found : db.utxos.get? prevout with
      | none =>
          rw [List.filterMap_cons_none found]
          simp [value, found]
      | some row =>
          rw [List.filterMap_cons_some found, List.map_cons, List.sum_cons]
          simp [value, found]

/-! ### The sums together -/

/-- What is found for one address row is what the transaction pays to its address. -/
theorem sum_discoverForRow {row : AddressRow} (held : (db.holdingOf row.descriptorId).isSome)
    (tx : DecodedTx) :
    ((discoverForRow db tx row).map DiscoveredOutput.valueSats).sum =
      (tx.payments.map fun payment => if row.address = payment.1 then payment.2.1 else 0).sum := by
  obtain ⟨holder, found⟩ := Option.isSome_iff_exists.mp held
  rw [discoverForRow, found]
  induction tx.payments with
  | nil => rfl
  | cons payment rest inductionHypothesis =>
      rw [List.map_cons, List.sum_cons, ← inductionHypothesis]
      by_cases paid : payment.1 = row.address
      · simp [paid]
      · simp [paid, Ne.symm paid]

/-- Found for every watching row, a payment is credited once for each. -/
theorem SchemaAdmits.receivedTotal_eq (admitted : SchemaAdmits db) (tx : DecodedTx) :
    receivedTotal (watchedOutputs db tx) =
      (tx.payments.map fun payment => payment.2.1 * watchers db payment.1).sum := by
  have held := admitted.holderOfAddress
  simp only [receivedTotal, watchedOutputs, watchers, Table.select]
  generalize db.addresses.rows = rows at held ⊢
  induction rows with
  | nil => simp
  | cons row rest inductionHypothesis =>
      rw [List.flatMap_cons, List.map_append, List.sum_append,
        sum_discoverForRow (held row List.mem_cons_self), inductionHypothesis fun other member =>
          held other (List.mem_cons_of_mem row member), ← List.sum_map_add]
      apply congrArg List.sum
      apply List.map_congr_left
      intro payment _
      by_cases paid : row.address = payment.1
      · simp [paid, Nat.mul_add, Nat.add_comm]
      · simp [paid]

/-- The credit is one time what is watched, and the surplus. -/
theorem SchemaAdmits.receivedTotal_split (admitted : SchemaAdmits db) (tx : DecodedTx) :
    receivedTotal (watchedOutputs db tx) =
      ((watchedPayments db tx).map fun payment => payment.2.1).sum + surplusCredit db tx := by
  rw [admitted.receivedTotal_eq, watchedPayments, surplusCredit]
  induction tx.payments with
  | nil => rfl
  | cons payment rest inductionHypothesis =>
      rw [List.map_cons, List.sum_cons, inductionHypothesis, List.map_cons, List.sum_cons,
        List.filter_cons]
      cases count : watchers db payment.1 with
      | zero => simp
      | succ further =>
          simp only [Nat.zero_lt_succ, decide_true, if_true, List.map_cons, List.sum_cons,
            Nat.add_sub_cancel, Nat.mul_add, Nat.mul_one]
          omega

/-- A consumed coin was unspent or is spent again. -/
theorem consumed_split (db : Database) (tx : DecodedTx) :
    ((consumedRows db tx).map UtxoRow.valueSats).sum =
      ((consumedRows db tx).map fun row => if row.isSpent then 0 else row.valueSats).sum +
        respentValue db tx := by
  rw [respentValue, ← List.sum_map_add]
  apply congrArg List.sum
  apply List.map_congr_left
  intro row _
  cases row.isSpent <;> simp

theorem sampleWallet_admits : SchemaAdmits sampleWallet where
  holderOfCoin := by decide
  holderOfAddress := by decide
  entryOfLink := by decide

/-- The descriptor of the second holding derives the address of the first. -/
def sharedWallet : Database :=
  { sampleWallet with
    addresses := (Table.empty.insert ⟨1, 1, "bcrt1qa", false, 0, none, none, false⟩).insert
      ⟨2, 2, "bcrt1qa", false, 0, none, none, false⟩ }

end TallyKeep
