/-
Module: TallyKeep.Proofs.ChainProcessing
Layer: Proofs
Purpose: The specification of `process_decoded_transaction`: on a well-formed database it returns,
  and what it returns and leaves behind is described without its loops.
Trusted boundary: none
Main exports: ChainWellFormed, Touches, coinAfter, Processed, processDecodedTransaction_spec,
  Processed.posted_iff, Processed.postedSum, Processed.coin_origin, Processed.wellFormed
-/
import TallyKeep.Proofs.ChainBooking
import TallyKeep.Proofs.ChainCoins

namespace TallyKeep

open Relational

/-- The constraints of the chain tables that processing relies on: coins belong to descriptors of
    holdings, and the ledger is well formed. -/
structure ChainWellFormed (db : Database) : Prop where
  holderOfCoin : ∀ row ∈ db.utxos.rows, (db.holdingOf row.descriptorId).isSome
  ledger : LedgerWellFormed db

/-- The transaction consumes a known coin or pays a watched address. -/
def Touches (db : Database) (tx : DecodedTx) : Prop :=
  consumedRows db tx ≠ [] ∨ watchedOutputs db tx ≠ []

/-- The holdings on either side of the transaction. -/
def affectedHoldings (db : Database) (tx : DecodedTx) : Finset Uuid :=
  ((consumedRows db tx).filterMap fun row => db.holdingOf row.descriptorId).toFinset ∪
    receivingHoldings (watchedOutputs db tx)

/-- The coin at an outpoint after processing, from the coin before. -/
def coinAfter (tx : DecodedTx) (confirmationHeight : Option Nat)
    (discovered : List DiscoveredOutput) (outpoint : Outpoint) (before : Option UtxoRow) :
    Option UtxoRow :=
  if outpoint ∈ tx.prevouts then before.map fun row => row.markSpent tx.txid
  else recordedAt tx confirmationHeight discovered outpoint before

/-- What one call of `process_decoded_transaction` has done. -/
structure Processed (db : Database) (tx : DecodedTx) (ctx : TxContext) (db' : Database)
    (result : TxProcessingResult) (direction : Direction) (postings : List Posting) : Prop where
  tables : db' =
    { db with
      utxos := db'.utxos
      addresses := db'.addresses
      onchainTransactions := db'.onchainTransactions
      ledgerEntries := db'.ledgerEntries
      ledgerLinks := db'.ledgerLinks }
  addresses : db'.addresses.rows.map AddressRow.core = db.addresses.rows.map AddressRow.core
  coins : ∀ outpoint, db'.coinAt outpoint =
    coinAfter tx ctx.confirmationHeight (discoverOutputs db ctx.rowOrder tx) outpoint
      (db.coinAt outpoint)
  onchainTouched : Touches db tx → db'.onchainTransactions =
    (OnchainRepo.upsert db tx.txid tx.rawHex ctx.confirmationHeight
      ctx.blockTime).onchainTransactions
  onchainUntouched : ¬Touches db tx → db'.onchainTransactions = db.onchainTransactions
  books : Books tx ctx direction
    { db' with ledgerEntries := db.ledgerEntries, ledgerLinks := db.ledgerLinks } db' postings
  holders : postings.map Posting.holdingId =
    (ctx.setOrder.enumerate (affectedHoldings db tx)).filter
      fun h => decide (NeedsEntry db tx (watchedOutputs db tx) h)
  nets : ∀ posting ∈ postings,
    posting.net = holdingNet db tx (watchedOutputs db tx) posting.holdingId
  txid : result.txid = tx.txid
  confirmationHeight : result.confirmationHeight = ctx.confirmationHeight
  newLedgerEntryIds : result.newLedgerEntryIds = postings.map Posting.entryId
  discoveredUtxoIds : result.discoveredUtxoIds = [] ↔
    ∀ found ∈ watchedOutputs db tx, (db.coinAt ⟨tx.txid, found.vout⟩).isSome

/-! ### Values -/

/-- The order of the outputs does not change what a holding receives. -/
theorem receivedValue_perm {discovered discovered' : List DiscoveredOutput}
    (perm : discovered.Perm discovered') (holdingId : Uuid) :
    receivedValue discovered holdingId = receivedValue discovered' holdingId :=
  ((perm.filter _).map _).sum_eq

/-- The order of the outputs does not change what is received. -/
theorem receivedTotal_perm {discovered discovered' : List DiscoveredOutput}
    (perm : discovered.Perm discovered') : receivedTotal discovered = receivedTotal discovered' :=
  (perm.map _).sum_eq

/-- The order of the outputs does not change who receives. -/
theorem receivingHoldings_perm {discovered discovered' : List DiscoveredOutput}
    (perm : discovered.Perm discovered') :
    receivingHoldings discovered = receivingHoldings discovered' :=
  List.toFinset_eq_of_perm _ _ (perm.map _)

/-- A holding receives no more than all together. -/
theorem receivedValue_le_total (discovered : List DiscoveredOutput) (holdingId : Uuid) :
    receivedValue discovered holdingId ≤ receivedTotal discovered := by
  induction discovered with
  | nil => simp [receivedValue, receivedTotal]
  | cons found rest inductionHypothesis =>
      simp only [receivedValue, receivedTotal] at inductionHypothesis ⊢
      rw [List.filter_cons]
      split
      · simpa using inductionHypothesis
      · rw [List.map_cons, List.sum_cons]
        omega

/-- What an input takes from a holding depends on the coin up to its id and flags. -/
theorem inputValue_eq_coinAt (db : Database) (holdingId : Uuid) (prevout : Outpoint) :
    inputValue db holdingId prevout =
      match db.coinAt prevout with
      | none => 0
      | some row => if db.holdingOf row.descriptorId = some holdingId then row.valueSats else 0 := by
  rw [inputValue, Database.coinAt]
  cases db.utxos.get? prevout <;> rfl

/-- What a prevout is worth to a holding depends on the holders and on its coin. -/
theorem inputValue_congr {db db' : Database} (sameHolders : db'.holdingOf = db.holdingOf)
    {prevout : Outpoint} (sameCoin :
      (db'.coinAt prevout).map (fun row => (row.descriptorId, row.valueSats)) =
        (db.coinAt prevout).map fun row => (row.descriptorId, row.valueSats)) (holdingId : Uuid) :
    inputValue db' holdingId prevout = inputValue db holdingId prevout := by
  rw [inputValue_eq_coinAt, inputValue_eq_coinAt, sameHolders]
  cases left : db'.coinAt prevout with
  | none =>
      cases right : db.coinAt prevout with
      | none => rfl
      | some row => simp [left, right] at sameCoin
  | some row' =>
      cases right : db.coinAt prevout with
      | none => simp [left, right] at sameCoin
      | some row =>
          simp only [left, right, Option.map_some, Option.some.injEq, Prod.mk.injEq] at sameCoin
          simp only [sameCoin.1, sameCoin.2]

/-- A holding gives no more than all known inputs together. -/
theorem holdingInputValue_le (db : Database) (tx : DecodedTx) (holdingId : Uuid) :
    holdingInputValue db tx holdingId ≤ ((consumedRows db tx).map UtxoRow.valueSats).sum := by
  rw [holdingInputValue, consumedRows]
  induction tx.prevouts with
  | nil => simp
  | cons prevout rest inductionHypothesis =>
      rw [List.map_cons, List.sum_cons, inputValue]
      cases found : db.utxos.get? prevout with
      | none => simpa [found] using inductionHypothesis
      | some row =>
          rw [List.filterMap_cons_some found, List.map_cons, List.sum_cons]
          simp only
          split <;> omega

/-- The inferred direction fits the net amount of every single holding. -/
theorem signFits_inferDirection {spentValue received inputHoldings outputHoldings : Nat}
    (inputsHeld : 0 < spentValue → 0 < inputHoldings)
    (outputsHeld : 0 < received → 0 < outputHoldings) {gain loss : Nat} (gainLe : gain ≤ received)
    (lossLe : loss ≤ spentValue) :
    SignFits (inferDirection spentValue received inputHoldings outputHoldings)
      ((gain : Int) - loss) := by
  rw [inferDirection, SignFits]
  by_cases spends : 0 < spentValue <;> by_cases receives : 0 < received
  · simp [spends, receives, inputsHeld, outputsHeld]
  · have nothing : received = 0 := by omega
    have gainZero : gain = 0 := by omega
    subst nothing gainZero
    rw [if_neg (by simp), if_neg (by omega)]
    simp
  · have nothing : spentValue = 0 := by omega
    have lossZero : loss = 0 := by omega
    subst nothing lossZero
    rw [if_neg (by simp), if_pos (by omega)]
    simp
  · have nothing : spentValue = 0 ∧ received = 0 := by omega
    have zero : gain = 0 ∧ loss = 0 := by omega
    rw [if_neg (by simp [nothing]), if_pos (by simp [nothing])]
    simp [zero]

/-! ### The stages together -/

theorem upsert_eq (db : Database) (txid : Txid) (rawHex : Option String) (height : Option Nat)
    (blockTime : Option Timestamp) :
    OnchainRepo.upsert db txid rawHex height blockTime =
      { db with
        onchainTransactions :=
          (OnchainRepo.upsert db txid rawHex height blockTime).onchainTransactions } := by
  rw [OnchainRepo.upsert]
  split <;> rfl

theorem upsert_withUtxos (db : Database) (utxos : Table UtxoRow) (txid : Txid)
    (rawHex : Option String) (height : Option Nat) (blockTime : Option Timestamp) :
    OnchainRepo.upsert (db.withUtxos utxos) txid rawHex height blockTime =
      (OnchainRepo.upsert db txid rawHex height blockTime).withUtxos utxos := by
  simp only [OnchainRepo.upsert, Database.withUtxos]
  split <;> rfl

/-- A transaction row leaves the coins as they are. -/
@[simp] theorem coinAt_upsert (db : Database) (txid : Txid) (rawHex : Option String)
    (height : Option Nat) (blockTime : Option Timestamp) (outpoint : Outpoint) :
    (OnchainRepo.upsert db txid rawHex height blockTime).coinAt outpoint = db.coinAt outpoint := by
  rw [upsert_eq]
  rfl

/-- A transaction that touches nothing consumes no coin and pays no watched address. -/
theorem not_touches_iff {db : Database} {tx : DecodedTx} :
    ¬Touches db tx ↔ consumedRows db tx = [] ∧ watchedOutputs db tx = [] := by
  simp [Touches]

section Stages

variable (db : Database) (tx : DecodedTx) (ctx : TxContext)

/-- Discovery does not see the marks. -/
theorem discoverOutputs_markInputsSpent (order : RowOrder) :
    discoverOutputs (markInputsSpent db tx).db order tx = discoverOutputs db order tx := by
  rw [markInputsSpent_db]
  rfl

/-- Nothing is discovered exactly when nothing is watched. -/
theorem discoverOutputs_eq_nil_iff (order : RowOrder) :
    discoverOutputs db order tx = [] ↔ watchedOutputs db tx = [] := by
  have perm := discoverOutputs_perm db order tx
  constructor
  · intro none
    rw [none] at perm
    exact List.nil_perm.mp perm
  · intro none
    rw [none] at perm
    exact List.perm_nil.mp perm

/-- The guard of the early return. -/
theorem guard_iff :
    ((markInputsSpent db tx).spentUtxoIds = [] ∧
        discoverOutputs (markInputsSpent db tx).db ctx.rowOrder tx = []) ↔ ¬Touches db tx := by
  rw [markInputsSpent_spentUtxoIds, List.map_eq_nil_iff, discoverOutputs_markInputsSpent,
    discoverOutputs_eq_nil_iff, not_touches_iff]

/-- The database when the loop over the affected holdings starts. -/
def recordedStage : Database × List Uuid :=
  recordOutputs
    (OnchainRepo.upsert (markInputsSpent db tx).db tx.txid tx.rawHex ctx.confirmationHeight
      ctx.blockTime) tx ctx (discoverOutputs (markInputsSpent db tx).db ctx.rowOrder tx)

/-- The recorded stage writes coins, addresses and the row of the transaction. -/
theorem recordedStage_tables :
    (recordedStage db tx ctx).1 =
      { db with
        utxos := (recordedStage db tx ctx).1.utxos
        addresses := (recordedStage db tx ctx).1.addresses
        onchainTransactions := (OnchainRepo.upsert db tx.txid tx.rawHex ctx.confirmationHeight
          ctx.blockTime).onchainTransactions } := by
  have same := (recordOutputs_sameButCoins tx ctx
    (discoverOutputs (markInputsSpent db tx).db ctx.rowOrder tx)
    (OnchainRepo.upsert (markInputsSpent db tx).db tx.txid tx.rawHex ctx.confirmationHeight
      ctx.blockTime, [])).tables
  simp only [markInputsSpent_db, upsert_withUtxos] at same
  rw [recordedStage, recordOutputs, markInputsSpent_db, upsert_withUtxos]
  rw [same, upsert_eq]
  rfl

/-- The recorded stage keeps the core of every address. -/
theorem recordedStage_addresses :
    (recordedStage db tx ctx).1.addresses.rows.map AddressRow.core =
      db.addresses.rows.map AddressRow.core := by
  have same := (recordOutputs_sameButCoins tx ctx
    (discoverOutputs (markInputsSpent db tx).db ctx.rowOrder tx)
    (OnchainRepo.upsert (markInputsSpent db tx).db tx.txid tx.rawHex ctx.confirmationHeight
      ctx.blockTime, [])).addresses
  rw [recordedStage, recordOutputs, same, markInputsSpent_db, upsert_withUtxos, upsert_eq]
  rfl

/-- The coin of every outpoint after the recorded stage. -/
theorem coinAt_recordedStage (outpoint : Outpoint) :
    (recordedStage db tx ctx).1.coinAt outpoint =
      coinAfter tx ctx.confirmationHeight (discoverOutputs db ctx.rowOrder tx) outpoint
        (db.coinAt outpoint) := by
  rw [recordedStage, recordOutputs, coinAt_foldl_recordOutput, coinAt_upsert,
    discoverOutputs_markInputsSpent, coinAt_markInputsSpent, coinAfter]
  by_cases consumed : outpoint ∈ tx.prevouts
  · -- A consumed output belongs to an earlier transaction, so no found output is at its place.
    have elsewhere : ∀ found ∈ discoverOutputs db ctx.rowOrder tx,
        ¬(decide ((⟨tx.txid, found.vout⟩ : Outpoint) = outpoint) = true) := by
      intro found _ same
      rw [← of_decide_eq_true same] at consumed
      exact tx.own_not_mem_prevouts found.vout consumed
    simp only [recordedAt, List.find?_eq_none.mpr elsewhere, if_pos consumed]
  · rw [if_neg consumed, if_neg consumed]

/-- No coin is new exactly when every watched output is known. -/
theorem recordedStage_ids_eq_nil_iff :
    (recordedStage db tx ctx).2 = [] ↔
      ∀ found ∈ watchedOutputs db tx, (db.coinAt ⟨tx.txid, found.vout⟩).isSome := by
  rw [recordedStage, recordOutputs, recordOutput_ids_eq_nil_iff, discoverOutputs_markInputsSpent]
  simp only [true_and, coinAt_upsert, coinAt_markInputsSpent]
  refine forall_congr' fun found => ?_
  rw [(discoverOutputs_perm db ctx.rowOrder tx).mem_iff]
  refine imp_congr_right fun _ => ?_
  rw [if_neg (tx.own_not_mem_prevouts found.vout)]

/-- The recorded stage leaves what the inputs of a holding are worth. -/
theorem holdingInputValue_recordedStage (holdingId : Uuid) :
    holdingInputValue (recordedStage db tx ctx).1 tx holdingId =
      holdingInputValue db tx holdingId := by
  refine congrArg List.sum (List.map_congr_left fun prevout consumed => ?_)
  refine inputValue_congr ?_ ?_ holdingId
  · rw [recordedStage_tables]
    rfl
  · rw [coinAt_recordedStage, coinAfter, if_pos consumed]
    cases db.coinAt prevout <;> simp

/-- The recorded stage leaves which holdings need an entry. -/
theorem needsEntry_recordedStage (holdingId : Uuid) :
    NeedsEntry (recordedStage db tx ctx).1 tx
        (discoverOutputs (markInputsSpent db tx).db ctx.rowOrder tx) holdingId ↔
      NeedsEntry db tx (watchedOutputs db tx) holdingId := by
  rw [NeedsEntry, NeedsEntry, holdingInputValue_recordedStage, discoverOutputs_markInputsSpent,
    receivedValue_perm (discoverOutputs_perm db ctx.rowOrder tx)]
  have sameLinks : linksFor (recordedStage db tx ctx).1 tx.txid holdingId =
      linksFor db tx.txid holdingId := by
    rw [recordedStage_tables]
    rfl
  rw [sameLinks]

/-- The recorded stage leaves the net of every holding. -/
theorem holdingNet_recordedStage (holdingId : Uuid) :
    holdingNet (recordedStage db tx ctx).1 tx
        (discoverOutputs (markInputsSpent db tx).db ctx.rowOrder tx) holdingId =
      holdingNet db tx (watchedOutputs db tx) holdingId := by
  rw [holdingNet, holdingNet, holdingInputValue_recordedStage, discoverOutputs_markInputsSpent,
    receivedValue_perm (discoverOutputs_perm db ctx.rowOrder tx)]

/-- The direction given to the new entries. -/
def stageDirection : Direction :=
  inferDirection (markInputsSpent db tx).spentValueSats
    (receivedTotal (discoverOutputs (markInputsSpent db tx).db ctx.rowOrder tx))
    (markInputsSpent db tx).holdingIds.card
    (receivingHoldings (discoverOutputs (markInputsSpent db tx).db ctx.rowOrder tx)).card

/-- The stage's direction, from the state before the stage. -/
theorem stageDirection_before :
    stageDirection db tx ctx =
      inferDirection ((consumedRows db tx).map UtxoRow.valueSats).sum
        (receivedTotal (watchedOutputs db tx))
        ((consumedRows db tx).filterMap fun row => db.holdingOf row.descriptorId).toFinset.card
        (receivingHoldings (watchedOutputs db tx)).card := by
  have perm := discoverOutputs_perm db ctx.rowOrder tx
  rw [stageDirection, discoverOutputs_markInputsSpent, receivedTotal_perm perm,
    receivingHoldings_perm perm, markInputsSpent_spentValueSats, markInputsSpent_holdingIds]

variable {db tx} in
/-- A spent coin has a holder. -/
theorem spendingHoldings_card_pos
    (holderOfCoin : ∀ row ∈ db.utxos.rows, (db.holdingOf row.descriptorId).isSome)
    (spends : 0 < ((consumedRows db tx).map UtxoRow.valueSats).sum) :
    0 < ((consumedRows db tx).filterMap fun row =>
      db.holdingOf row.descriptorId).toFinset.card := by
  cases consumed : consumedRows db tx with
  | nil => simp [consumed] at spends
  | cons row rest =>
      have stored := ((mem_consumedRows db tx).mp (by rw [consumed]; exact List.mem_cons_self)).1
      obtain ⟨holder, held⟩ := Option.isSome_iff_exists.mp (holderOfCoin row stored)
      refine Finset.card_pos.mpr ⟨holder, ?_⟩
      rw [List.mem_toFinset, List.mem_filterMap]
      exact ⟨row, List.mem_cons_self, held⟩

/-- A received output has a holder. -/
theorem receivingHoldings_card_pos {found : List DiscoveredOutput}
    (receives : 0 < receivedTotal found) : 0 < (receivingHoldings found).card := by
  cases found with
  | nil => simp [receivedTotal] at receives
  | cons first rest => exact Finset.card_pos.mpr ⟨first.holdingId, by simp [receivingHoldings]⟩

variable {db} in

/-- The direction of the transaction fits the net of every holding. -/
theorem signFits_stageDirection
    (holderOfCoin : ∀ row ∈ db.utxos.rows, (db.holdingOf row.descriptorId).isSome)
    (holdingId : Uuid) :
    SignFits (stageDirection db tx ctx) (holdingNet db tx (watchedOutputs db tx) holdingId) := by
  rw [stageDirection_before]
  exact signFits_inferDirection (spendingHoldings_card_pos holderOfCoin)
    receivingHoldings_card_pos (receivedValue_le_total _ holdingId)
    (holdingInputValue_le db tx holdingId)

/-- The holdings that are affected are the ones of the inputs and of the outputs. -/
theorem affectedHoldings_eq :
    (markInputsSpent db tx).holdingIds ∪
        receivingHoldings (discoverOutputs (markInputsSpent db tx).db ctx.rowOrder tx) =
      affectedHoldings db tx := by
  rw [markInputsSpent_holdingIds, discoverOutputs_markInputsSpent,
    receivingHoldings_perm (discoverOutputs_perm db ctx.rowOrder tx), affectedHoldings]

/-- What the call reports, from the ids of the new entries. -/
def stageResult (newLedgerEntryIds : List Uuid) : TxProcessingResult where
  txid := tx.txid
  confirmationHeight := ctx.confirmationHeight
  isNew := ((markInputsSpent db tx).db.onchainTransactions.get? tx.txid).isNone
  spentUtxoIds := (markInputsSpent db tx).spentUtxoIds
  discoveredUtxoIds := (recordedStage db tx ctx).2
  newLedgerEntryIds := newLedgerEntryIds
  affectedHoldingIds := sorted (affectedHoldings db tx)
  affectedDescriptorIds := sorted ((markInputsSpent db tx).descriptorIds ∪
    ((discoverOutputs (markInputsSpent db tx).db ctx.rowOrder tx).map
      DiscoveredOutput.descriptorId).toFinset)
  direction := some (stageDirection db tx ctx)
  netAmountSats :=
    (receivedTotal (discoverOutputs (markInputsSpent db tx).db ctx.rowOrder tx) : Int) -
      (markInputsSpent db tx).spentValueSats

variable {db tx} in

/-- A transaction that touches a holding is booked on the recorded stage. -/
theorem processDecodedTransaction_of_touches (touched : Touches db tx) :
    processDecodedTransaction db tx ctx =
      (createEntries (recordedStage db tx ctx).1 tx ctx
        (discoverOutputs (markInputsSpent db tx).db ctx.rowOrder tx) (stageDirection db tx ctx)
        (ctx.setOrder.enumerate (affectedHoldings db tx))).map fun booked =>
          (booked.1, stageResult db tx ctx booked.2) := by
  have enters := (not_congr (guard_iff db tx ctx)).mpr (not_not.mpr touched)
  simp only [processDecodedTransaction, if_neg enters, affectedHoldings_eq]
  change (createEntries (recordedStage db tx ctx).1 tx ctx
        (discoverOutputs (markInputsSpent db tx).db ctx.rowOrder tx) (stageDirection db tx ctx)
        (ctx.setOrder.enumerate (affectedHoldings db tx))).bind (fun booked =>
          .ok (booked.1, stageResult db tx ctx booked.2)) = _
  cases createEntries (recordedStage db tx ctx).1 tx ctx
    (discoverOutputs (markInputsSpent db tx).db ctx.rowOrder tx) (stageDirection db tx ctx)
    (ctx.setOrder.enumerate (affectedHoldings db tx)) <;> rfl

variable {db tx} in

/-- A transaction that touches nothing only refreshes the coins it spends. -/
theorem processDecodedTransaction_of_not_touches (untouched : ¬Touches db tx) :
    processDecodedTransaction db tx ctx =
      .ok ((markInputsSpent db tx).db,
        ⟨tx.txid, ctx.confirmationHeight, false, [], [], [], [], [], none, 0⟩) := by
  simp only [processDecodedTransaction, if_pos ((guard_iff db tx ctx).mpr untouched)]
  rfl

end Stages

/-- The entries go into the two ledger tables and nowhere else. -/
theorem createEntries_tables {db : Database} {tx : DecodedTx} {ctx : TxContext}
    {discovered : List DiscoveredOutput} {direction : Direction} {holdings : List Uuid}
    {out : Database × List Uuid}
    (run : createEntries db tx ctx discovered direction holdings = .ok out) :
    out.1 =
      { db with ledgerEntries := out.1.ledgerEntries, ledgerLinks := out.1.ledgerLinks } := by
  apply foldlM_invariant (I := fun acc => acc.1 =
    { db with ledgerEntries := acc.1.ledgerEntries, ledgerLinks := acc.1.ledgerLinks }) _ run rfl
  intro acc holdingId _ acc' same round
  rw [createEntry, bind_ok_iff] at round
  obtain ⟨linked, -, round⟩ := round
  split at round
  · cases round
    exact same
  · simp only at round
    split at round
    · cases round
      exact same
    · rw [bind_ok_iff] at round
      obtain ⟨entry, -, round⟩ := round
      cases round
      simp only [LedgerEntryRepo.insert]
      rw [same]

/-- Where the ledger admits the transaction the call returns, and this is what it has done. -/
theorem processDecodedTransaction_staged {db : Database} {tx : DecodedTx}
    (holderOfCoin : ∀ row ∈ db.utxos.rows, (db.holdingOf row.descriptorId).isSome)
    (admits : LedgerAdmits db tx.txid) (ctx : TxContext) :
    ∃ db' result postings,
      processDecodedTransaction db tx ctx = .ok (db', result) ∧
        Processed db tx ctx db' result (stageDirection db tx ctx) postings := by
  by_cases touched : Touches db tx
  · have tablesEq := recordedStage_tables db tx ctx
    have admits' : LedgerAdmits (recordedStage db tx ctx).1 tx.txid := by
      rw [tablesEq]
      exact ⟨admits.entryOfLink, admits.linkOnce⟩
    obtain ⟨db', postings, run, books, holders, nets⟩ :=
      createEntries_books tx ctx (discoverOutputs (markInputsSpent db tx).db ctx.rowOrder tx)
        (stageDirection db tx ctx) (ctx.setOrder.nodup (affectedHoldings db tx)) admits'
        fun holdingId _ => by
          rw [holdingNet_recordedStage]
          exact signFits_stageDirection tx ctx holderOfCoin holdingId
    refine ⟨db', stageResult db tx ctx (postings.map Posting.entryId), postings, ?_, ?_⟩
    · rw [processDecodedTransaction_of_touches ctx touched, run]
      rfl
    · have booksTables := books.tables
      rw [tablesEq] at booksTables
      exact
        { tables := by rw [booksTables]
          addresses := by
            rw [booksTables]
            exact recordedStage_addresses db tx ctx
          coins := by
            intro outpoint
            rw [← coinAt_recordedStage, Database.coinAt, books.utxos]
            rfl
          onchainTouched := fun _ => by rw [booksTables]
          onchainUntouched := fun untouched => absurd touched untouched
          books := by
            have before : { db' with
                ledgerEntries := db.ledgerEntries, ledgerLinks := db.ledgerLinks } =
                  (recordedStage db tx ctx).1 := by
              rw [booksTables, tablesEq]
            rw [before]
            exact books
          holders := by
            rw [holders]
            refine List.filter_congr fun holdingId _ => decide_eq_decide.mpr ?_
            exact needsEntry_recordedStage db tx ctx holdingId
          nets := fun posting member => by rw [nets posting member, holdingNet_recordedStage]
          txid := rfl
          confirmationHeight := rfl
          newLedgerEntryIds := rfl
          discoveredUtxoIds := recordedStage_ids_eq_nil_iff db tx ctx }
  · obtain ⟨noInputs, noOutputs⟩ := not_touches_iff.mp touched
    refine ⟨(markInputsSpent db tx).db, _, [],
      processDecodedTransaction_of_not_touches ctx touched, ?_⟩
    have noDiscovered := (discoverOutputs_eq_nil_iff db tx ctx.rowOrder).mpr noOutputs
    have nobody : affectedHoldings db tx = ∅ := by
      simp [affectedHoldings, noInputs, noOutputs, receivingHoldings]
    exact
      { tables := by
          rw [markInputsSpent_db]
          rfl
        addresses := by
          rw [markInputsSpent_db]
          rfl
        coins := by
          intro outpoint
          rw [coinAt_markInputsSpent, noDiscovered]
          rfl
        onchainTouched := fun touches => absurd touches touched
        onchainUntouched := fun _ => by
          rw [markInputsSpent_db]
          rfl
        books := by
          rw [markInputsSpent_db]
          exact Books.refl tx ctx (stageDirection db tx ctx) _
        holders := by
          have nothing : ctx.setOrder.enumerate ∅ = [] :=
            List.eq_nil_iff_forall_not_mem.mpr fun holdingId member => by
              simpa using (ctx.setOrder.mem ∅ holdingId).mp member
          rw [nobody, nothing]
          rfl
        nets := by simp
        txid := rfl
        confirmationHeight := rfl
        newLedgerEntryIds := rfl
        discoveredUtxoIds := by simp [noOutputs] }

/-- Where the ledger admits it, the processing goes through and does what is said of it. -/
theorem processDecodedTransaction_of_admits {db : Database} {tx : DecodedTx}
    (holderOfCoin : ∀ row ∈ db.utxos.rows, (db.holdingOf row.descriptorId).isSome)
    (admits : LedgerAdmits db tx.txid) (ctx : TxContext) :
    ∃ db' result direction postings,
      processDecodedTransaction db tx ctx = .ok (db', result) ∧
        Processed db tx ctx db' result direction postings := by
  obtain ⟨db', result, postings, run, processed⟩ :=
    processDecodedTransaction_staged holderOfCoin admits ctx
  exact ⟨db', result, stageDirection db tx ctx, postings, run, processed⟩

/-- On a well-formed database the call returns for every transaction. -/
theorem processDecodedTransaction_spec {db : Database} (wellFormed : ChainWellFormed db)
    (tx : DecodedTx) (ctx : TxContext) :
    ∃ db' result direction postings,
      processDecodedTransaction db tx ctx = .ok (db', result) ∧
        Processed db tx ctx db' result direction postings :=
  processDecodedTransaction_of_admits wellFormed.holderOfCoin (wellFormed.ledger.admits tx.txid) ctx

/-! ### Consequences -/

/-- A holding on neither side moves nothing. -/
theorem idle_of_not_affected {db : Database} {tx : DecodedTx} {holdingId : Uuid}
    (outside : holdingId ∉ affectedHoldings db tx) :
    receivedValue (watchedOutputs db tx) holdingId = 0 ∧
      holdingInputValue db tx holdingId = 0 := by
  rw [affectedHoldings, Finset.mem_union, not_or] at outside
  constructor
  · have none : (watchedOutputs db tx).filter (fun found => decide (found.holdingId = holdingId)) =
        [] := by
      rw [List.filter_eq_nil_iff]
      intro found member same
      refine outside.2 (List.mem_toFinset.mpr (List.mem_map.mpr ⟨found, member, ?_⟩))
      simpa using same
    rw [receivedValue, none]
    rfl
  · refine List.sum_eq_zero fun amount member => ?_
    obtain ⟨prevout, consumed, rfl⟩ := List.mem_map.mp member
    rw [inputValue]
    cases found : db.utxos.get? prevout with
    | none => rfl
    | some row =>
        refine if_neg fun held => outside.1 (List.mem_toFinset.mpr (List.mem_filterMap.mpr ?_))
        exact ⟨row, List.mem_filterMap.mpr ⟨prevout, consumed, found⟩, held⟩

namespace Processed

variable {db db' : Database} {tx : DecodedTx} {ctx : TxContext} {result : TxProcessingResult}
  {direction : Direction} {postings : List Posting}

theorem descriptors (processed : Processed db tx ctx db' result direction postings) :
    db'.descriptors = db.descriptors := by
  rw [processed.tables]

/-- The processing leaves the holders as they are. -/
theorem holdingOf (processed : Processed db tx ctx db' result direction postings) :
    db'.holdingOf = db.holdingOf := by
  funext descriptorId
  rw [Database.holdingOf, processed.descriptors, Database.holdingOf]

/-- Only new entries and links distinguish the ledgers. -/
theorem ledgerWellFormed_before (wellFormed : LedgerWellFormed db) :
    LedgerWellFormed
      { db' with ledgerEntries := db.ledgerEntries, ledgerLinks := db.ledgerLinks } :=
  ⟨wellFormed.entryOfLink, wellFormed.linkOnce⟩

/-- No holding is booked twice. -/
theorem holders_nodup (processed : Processed db tx ctx db' result direction postings) :
    (postings.map Posting.holdingId).Nodup := by
  rw [processed.holders]
  exact (ctx.setOrder.nodup _).filter _

/-- Postings go to exactly the affected holdings that need an entry. -/
theorem posted_iff (processed : Processed db tx ctx db' result direction postings)
    (holdingId : Uuid) :
    (∃ posting ∈ postings, posting.holdingId = holdingId) ↔
      holdingId ∈ affectedHoldings db tx ∧
        NeedsEntry db tx (watchedOutputs db tx) holdingId := by
  rw [← List.mem_map, processed.holders, List.mem_filter, ctx.setOrder.mem, decide_eq_true_iff]

/-- The links of a transaction and a holding after the processing. -/
theorem linksFor (processed : Processed db tx ctx db' result direction postings)
    (wellFormed : LedgerWellFormed db) (txid : Txid) (holdingId : Uuid) :
    TallyKeep.linksFor db' txid holdingId =
      TallyKeep.linksFor db txid holdingId ++
        if tx.txid = txid then
          (postings.filter fun posting => decide (posting.holdingId = holdingId)).map Posting.link
        else [] :=
  processed.books.linksFor (ledgerWellFormed_before wellFormed) txid holdingId

/-- The entries of a transaction after the processing. -/
theorem entriesFor (processed : Processed db tx ctx db' result direction postings) (txid : Txid) :
    LedgerEntryRepo.entriesFor db' txid =
      LedgerEntryRepo.entriesFor db txid ++
        if tx.txid = txid then postings.map fun posting => posting.entry tx ctx direction else [] :=
  processed.books.entriesFor txid

/-- The on-chain total of a holding grows by what is posted to it. -/
theorem onchainLinkTotal (processed : Processed db tx ctx db' result direction postings)
    (wellFormed : LedgerWellFormed db) (holdingId : Uuid) :
    db'.onchainLinkTotal holdingId =
      db.onchainLinkTotal holdingId +
        (postings.map fun posting => if posting.holdingId = holdingId then posting.net else 0).sum :=
  processed.books.onchainLinkTotal (ledgerWellFormed_before wellFormed) holdingId

/-- A holding without a link that gets no posting moves nothing. -/
theorem idle_of_not_posted (processed : Processed db tx ctx db' result direction postings)
    {holdingId : Uuid} (unlinked : TallyKeep.linksFor db tx.txid holdingId = [])
    (unposted : ∀ posting ∈ postings, posting.holdingId ≠ holdingId) :
    receivedValue (watchedOutputs db tx) holdingId = 0 ∧
      holdingInputValue db tx holdingId = 0 := by
  by_contra moves
  have outside : holdingId ∉ affectedHoldings db tx := by
    intro inside
    obtain ⟨posting, member, same⟩ :=
      (processed.posted_iff holdingId).mpr ⟨inside, unlinked, moves⟩
    exact unposted posting member same
  exact moves (idle_of_not_affected outside)

/-- What is posted to a holding: its net amount, unless it has a link already. -/
theorem postedSum (processed : Processed db tx ctx db' result direction postings)
    (holdingId : Uuid) :
    (postings.map fun posting => if posting.holdingId = holdingId then posting.net else 0).sum =
      if TallyKeep.linksFor db tx.txid holdingId = [] then
        holdingNet db tx (watchedOutputs db tx) holdingId
      else 0 := by
  by_cases posted : ∃ posting ∈ postings, posting.holdingId = holdingId
  · have needs := ((processed.posted_iff holdingId).mp posted).2
    obtain ⟨posting, member, rfl⟩ := posted
    rw [if_pos needs.1, ← processed.nets posting member]
    exact sum_map_ite_of_nodup processed.holders_nodup member Posting.net
  · have zero : (postings.map fun posting =>
        if posting.holdingId = holdingId then posting.net else 0).sum = 0 := by
      refine List.sum_eq_zero fun amount member => ?_
      obtain ⟨posting, postingMember, rfl⟩ := List.mem_map.mp member
      exact if_neg fun same => posted ⟨posting, postingMember, same⟩
    rw [zero]
    by_cases unlinked : TallyKeep.linksFor db tx.txid holdingId = []
    · obtain ⟨noGain, noLoss⟩ := processed.idle_of_not_posted unlinked fun posting member same =>
        posted ⟨posting, member, same⟩
      simp [unlinked, holdingNet, noGain, noLoss]
    · rw [if_neg unlinked]

/-- Every coin afterwards is an earlier one with its descriptor, or was found now. -/
theorem coin_origin (processed : Processed db tx ctx db' result direction postings)
    {outpoint : Outpoint} {row : UtxoRow} (found : db'.coinAt outpoint = some row) :
    (∃ before, db.coinAt outpoint = some before ∧ row.descriptorId = before.descriptorId ∧
        row.addressId = before.addressId ∧ row.valueSats = before.valueSats) ∨
      db.coinAt outpoint = none ∧ ∃ output ∈ watchedOutputs db tx,
        outpoint = ⟨tx.txid, output.vout⟩ ∧ row = output.coin tx.txid ctx.confirmationHeight := by
  simp only [processed.coins, coinAfter, recordedAt] at found
  split at found
  · obtain ⟨before, known, rfl⟩ := Option.map_eq_some_iff.mp found
    exact Or.inl ⟨before, known, by simp, by simp, by simp⟩
  · split at found
    · exact Or.inl ⟨row, found, rfl, rfl, rfl⟩
    · rename_i output here
      have listed := (discoverOutputs_perm db ctx.rowOrder tx).mem_iff.mp
        (List.mem_of_find?_eq_some here)
      have place : (⟨tx.txid, output.vout⟩ : Outpoint) = outpoint := by
        simpa using List.find?_some here
      cases known : db.coinAt outpoint with
      | none =>
          rw [known] at found
          exact Or.inr ⟨rfl, output, listed, place.symm, (Option.some.inj found).symm⟩
      | some before =>
          rw [known] at found
          cases found
          exact Or.inl ⟨before, rfl, by simp [DiscoveredOutput.recorded],
            by simp [DiscoveredOutput.recorded], by simp [DiscoveredOutput.recorded]⟩

/-- Processing keeps the constraints of the chain tables. -/
theorem wellFormed (processed : Processed db tx ctx db' result direction postings)
    (before : ChainWellFormed db) : ChainWellFormed db' := by
  constructor
  · intro row stored
    have found := Database.coinAt_of_mem stored
    rw [processed.holdingOf]
    rcases processed.coin_origin found with ⟨old, known, same, -⟩ | ⟨-, output, watched, -, same⟩
    · obtain ⟨oldRow, stored, rfl⟩ := Option.map_eq_some_iff.mp known
      rw [UtxoRow.core_descriptorId, UtxoRow.core_descriptorId] at same
      rw [same]
      exact before.holderOfCoin oldRow (Table.mem_of_get? stored)
    · obtain ⟨address, -, held, -, -, -, sameDescriptor⟩ := mem_watchedOutputs.mp watched
      have descriptor : row.descriptorId = output.descriptorId := congrArg UtxoRow.descriptorId same
      rw [descriptor, sameDescriptor, held]
      rfl
  · refine processed.books.wellFormed (ledgerWellFormed_before before.ledger)
      processed.holders_nodup fun posting member => ?_
    exact ((processed.posted_iff posting.holdingId).mp ⟨posting, member, rfl⟩).2.1

end Processed

/-! ### A sample wallet -/

/-- The id that repeats one character. -/
def Txid.repeated (c : Char) : Txid :=
  ⟨String.ofList (List.replicate 64 c), by simp⟩

/-- Two holdings with a descriptor and a receiving address each, and nothing recorded yet. -/
def sampleWallet : Database :=
  { Database.empty with
    holdings := (Table.empty.insert ⟨10, .purse, .spending, .hardwareOffline⟩).insert
      ⟨20, .purse, .reserve, .hardwareOffline⟩
    descriptors := (Table.empty.insert
        ⟨1, 10, "wpkh(a/0/*)", none, .regtest, .nativeSegwit, 1, 0⟩).insert
      ⟨2, 20, "wpkh(b/0/*)", none, .regtest, .nativeSegwit, 1, 0⟩
    addresses := (Table.empty.insert ⟨1, 1, "bcrt1qa", false, 0, none, none, false⟩).insert
      ⟨2, 2, "bcrt1qb", false, 0, none, none, false⟩ }

/-- Somebody pays 100 000 sats to the first holding. -/
def samplePayment : DecodedTx where
  txid := .repeated 'a'
  hex := "00"
  vin := [⟨none, none⟩]
  vout := [⟨some 100000, some 0, some "bcrt1qa"⟩]
  prevoutsNodup := by decide
  indicesNodup := by decide
  noSelfSpend := by decide

/-- The first holding pays 60 000 of them to the second, with change. -/
def sampleTransfer : DecodedTx where
  txid := .repeated 'b'
  hex := "00"
  vin := [⟨some (.repeated 'a'), some 0⟩]
  vout := [⟨some 60000, some 0, some "bcrt1qb"⟩, ⟨some 30000, some 1, some "bcrt1qa"⟩]
  prevoutsNodup := by decide
  indicesNodup := by decide
  noSelfSpend := by decide

/-- A call at a height, or for the mempool. -/
def sampleCall (confirmationHeight : Option Nat) : TxContext :=
  ⟨confirmationHeight, none, none, 0, .stored, .increasing⟩

theorem sampleWallet_wellFormed : ChainWellFormed sampleWallet where
  holderOfCoin := by simp [sampleWallet, Database.empty]
  ledger :=
    { entryOfLink := by simp [sampleWallet, Database.empty]
      linkOnce := by simp [linksFor, Table.select, sampleWallet, Database.empty] }

end TallyKeep
