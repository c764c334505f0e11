/-
Module: TallyKeep.Proofs.Redelivery
Layer: Proofs
Purpose: What the listener announces of a transaction that it has handled before, with a new height
  or with none: nothing, unless the transaction spends a known coin.
Trusted boundary: none
Main exports: WatchKept, Settled, settled_of_handled, Settled.of_step, unchanged_iff_of_settled,
  redelivery_silent_iff
-/
import TallyKeep.Proofs.ListenerThread
import TallyKeep.Proofs.HoldingHistory

namespace TallyKeep

open Relational Transition

variable {Psbt Tx : Type} {bdk : Bdk Psbt Tx} {chain : Chain}

/-! ### What is watched -/

/-- What a transaction is matched against: ids, descriptors and texts of the address rows. -/
def AddressRow.watched (row : AddressRow) : Uuid × Uuid × String :=
  (row.id, row.descriptorId, row.address)

/-- The holders and addresses stay, and so do the recorded transactions. -/
structure WatchKept (db db' : Database) : Prop where
  holders : db'.holdingOf = db.holdingOf
  addresses : db'.addresses.rows.map AddressRow.watched = db.addresses.rows.map AddressRow.watched
  transactions : ∀ txid, (db.onchainTransactions.get? txid).isSome →
    (db'.onchainTransactions.get? txid).isSome

/-- A transaction row is there after it is written, and where it was before. -/
theorem upsert_isSome (db : Database) (written txid : Txid) (rawHex : Option String)
    (height : Option Nat) (blockTime : Option Timestamp) :
    ((OnchainRepo.upsert db written rawHex height blockTime).onchainTransactions.get? txid).isSome ↔
      txid = written ∨ (db.onchainTransactions.get? txid).isSome := by
  rw [OnchainRepo.upsert]
  cases known : db.onchainTransactions.get? written with
  | none =>
      simp only
      rw [Table.get?_insert_of_fresh known]
      change (if txid = written then some _ else _).isSome = true ↔ _
      split
      · rename_i same
        exact iff_of_true rfl (.inl same)
      · rename_i different
        simp [different]
  | some row =>
      simp only [Table.get?_update]
      split
      · rename_i same
        rw [same, known]
        simp
      · rename_i different
        simp [different]

namespace WatchKept

variable {db db' db'' : Database}

/-- What two stretches keep of the watched tables is kept by both. -/
theorem trans (first : WatchKept db db') (second : WatchKept db' db'') : WatchKept db db'' where
  holders := second.holders.trans first.holders
  addresses := second.addresses.trans first.addresses
  transactions txid known := second.transactions txid (first.transactions txid known)

theorem of_tables (descriptors : db'.descriptors = db.descriptors)
    (addresses : db'.addresses = db.addresses)
    (transactions : db'.onchainTransactions = db.onchainTransactions) : WatchKept db db' where
  holders := by
    funext descriptorId
    rw [Database.holdingOf, descriptors, Database.holdingOf]
  addresses := by rw [addresses]
  transactions txid known := by
    rw [transactions]
    exact known

theorem refl (db : Database) : WatchKept db db := of_tables rfl rfl rfl

/-- The watched part of an address is within its core. -/
theorem watched_of_core (same : db'.addresses.rows.map AddressRow.core =
      db.addresses.rows.map AddressRow.core) :
    db'.addresses.rows.map AddressRow.watched = db.addresses.rows.map AddressRow.watched := by
  have through : ∀ rows : List AddressRow,
      rows.map AddressRow.watched = (rows.map AddressRow.core).map AddressRow.watched := by
    intro rows
    rw [List.map_map]
    rfl
  rw [through, same, ← through]

/-- A scanned coin keeps what is watched. -/
theorem recorded {descriptor : DescriptorRow} {address : AddressRow} {unspent : ScanUtxo}
    (done : Recorded descriptor db address unspent db') : WatchKept db db' where
  holders := done.holdingOf
  addresses := watched_of_core done.addresses
  transactions txid known := by
    rw [done.onchainTransactions, upsert_isSome]
    exact .inr known

/-- A scan keeps what is watched. -/
theorem scanned {node : ScanNode} {descriptor : DescriptorRow} {report : ScanReport}
    (run : initialScan node db descriptor = .ok (db', report)) : WatchKept db db' := by
  obtain ⟨scanned, height, kept, rfl⟩ := initialScan_invariant
    (I := fun middle => WatchKept db middle)
    (fun _ _ _ _ before unknown _ round => before.trans (recorded (recorded_of_ok unknown round)))
    run (.refl db)
  refine ⟨?_, kept.addresses, kept.transactions⟩
  rw [← kept.holders]
  funext descriptorId
  simp only [Database.holdingOf, Table.get?_update]
  split
  · rename_i same
    rw [Option.map_map, same]
    rfl
  · rfl

/-- The processing of a transaction keeps what is watched. -/
theorem processed {tx : DecodedTx} {ctx : TxContext} {result : TxProcessingResult}
    {direction : Direction} {postings : List Posting}
    (processed : Processed db tx ctx db' result direction postings) : WatchKept db db' where
  holders := by
    funext descriptorId
    rw [Database.holdingOf, processed.descriptors, Database.holdingOf]
  addresses := watched_of_core processed.addresses
  transactions txid known := by
    by_cases touched : Touches db tx
    · rw [processed.onchainTouched touched, upsert_isSome]
      exact .inr known
    · rw [processed.onchainUntouched touched]
      exact known

/-- The database phase keeps what is watched. -/
theorem handled {tx : DecodedTx} {ctx : TxContext} {direction : Direction}
    {postings : List Posting} (handled : Handled db tx ctx db' direction postings) :
    WatchKept db db' := by
  obtain ⟨chainDb, result, done, tables⟩ := handled.processed
  apply (processed done).trans
  rw [tables]
  exact of_tables rfl rfl rfl

/-- Which outputs are watched stays. -/
theorem watchedOutputs (kept : WatchKept db db') (tx : DecodedTx) :
    TallyKeep.watchedOutputs db' tx = TallyKeep.watchedOutputs db tx := by
  -- One address row counts by what is watched of it, and the holders are the same.
  have byRow : ∀ base : Database, base.holdingOf = db.holdingOf →
      TallyKeep.watchedOutputs base tx = (base.addresses.rows.map AddressRow.watched).flatMap
        fun watched => (db.holdingOf watched.2.1).elim [] fun holdingId =>
          (tx.payments.filter fun payment => decide (payment.1 = watched.2.2)).map fun payment =>
            ⟨payment.2.2, payment.2.1, watched.2.2, watched.1, watched.2.1, holdingId⟩ := by
    intro base holders
    rw [TallyKeep.watchedOutputs, List.flatMap_map]
    apply List.flatMap_congr
    intro row _
    rw [discoverForRow, holders, AddressRow.watched]
    cases db.holdingOf row.descriptorId <;> rfl
  rw [byRow db' kept.holders, byRow db rfl, kept.addresses]

end WatchKept

/-- The operation neither deletes a holding nor adds addresses. -/
def Operation.KeepsWatch : Operation → Prop
  | .deleteHolding _ _ => False
  | .registerDescriptor _ _ => False
  | _ => True

theorem Operation.KeepsWatch.not_deletes {operation : Operation} (keeps : operation.KeepsWatch) :
    ¬operation.Deletes := by
  cases operation with
  | deleteHolding holdingId policyIds => exact keeps.elim
  | _ => exact id

/-- An operation that keeps the watch keeps what is watched. -/
theorem WatchKept.of_step {db : Database} (wellFormed : ChainWellFormed db)
    {operation : Operation} (keeps : operation.KeepsWatch) :
    WatchKept db (step bdk db operation) := by
  have effect := chainEffect_of_step bdk wellFormed operation
  generalize step bdk db operation = db' at effect
  cases effect with
  | kept descriptors addresses _ transactions _ _ =>
      exact .of_tables descriptors addresses transactions
  | registered run => exact keeps.elim
  | deleted other policyIds => exact keeps.elim
  | scanned found run => exact .scanned run
  | frozen outpoint frozen => exact .of_tables rfl rfl rfl
  | invoiced run =>
      rw [createInvoice, bind_ok_iff] at run
      obtain ⟨address, -, run⟩ := run
      rw [bind_ok_iff] at run
      obtain ⟨invoice, -, run⟩ := run
      cases run
      refine ⟨rfl, ?_, fun _ known => known⟩
      simp only [InvoiceRepo.insert, DescriptorRepo.updateAddressLabel, Table.update,
        Table.rows_updateAll, List.map_map]
      apply List.map_congr_left
      intro row _
      rw [Function.comp_apply]
      split <;> rfl
  | handled handled => exact .handled handled

/-! ### Handled transactions -/

/-- All that a transaction pays to watched addresses is recorded, with its entries. -/
structure Settled (db : Database) (tx : DecodedTx) : Prop where
  coins : ∀ found ∈ watchedOutputs db tx, (db.coinAt ⟨tx.txid, found.vout⟩).isSome
  linked : ∀ holdingId, receivedValue (watchedOutputs db tx) holdingId ≠ 0 →
    linksFor db tx.txid holdingId ≠ []
  recorded : watchedOutputs db tx ≠ [] → (db.onchainTransactions.get? tx.txid).isSome

section Handling

variable {db db' : Database} {tx : DecodedTx} {ctx : TxContext}

/-- Without a coin to spend the inputs are worth nothing. -/
theorem holdingInputValue_of_spendsNothing (nothing : consumedRows db tx = []) (holdingId : Uuid) :
    holdingInputValue db tx holdingId = 0 := by
  rw [holdingInputValue]
  apply List.sum_eq_zero
  intro value listed
  obtain ⟨prevout, among, rfl⟩ := List.mem_map.mp listed
  have unknown : db.utxos.get? prevout = none := by
    cases known : db.utxos.get? prevout with
    | none => rfl
    | some row =>
        have consumed : row ∈ consumedRows db tx := List.mem_filterMap.mpr ⟨prevout, among, known⟩
        rw [nothing] at consumed
        cases consumed
  rw [inputValue, unknown]

/-- A holding that is paid is among those of the transaction. -/
theorem mem_affectedHoldings_of_received {holdingId : Uuid}
    (paid : receivedValue (watchedOutputs db tx) holdingId ≠ 0) :
    holdingId ∈ affectedHoldings db tx := by
  apply Finset.mem_union_right
  rw [receivingHoldings, List.mem_toFinset]
  by_contra absent
  apply paid
  have nobody : (watchedOutputs db tx).filter (fun found => decide (found.holdingId = holdingId)) =
      [] := by
    apply List.filter_eq_nil_iff.mpr
    intro found member same
    exact absent (of_decide_eq_true same ▸ List.mem_map_of_mem member)
  rw [receivedValue, nobody]
  rfl

/-- A processed transaction is settled. -/
theorem Processed.settled {result : TxProcessingResult} {direction : Direction}
    {postings : List Posting} (wellFormed : ChainWellFormed db)
    (processed : Processed db tx ctx db' result direction postings) : Settled db' tx := by
  have watch := WatchKept.processed processed
  refine ⟨?_, ?_, ?_⟩
  · intro found member
    rw [watch.watchedOutputs] at member
    have listed := (discoverOutputs_perm db ctx.rowOrder tx).mem_iff.mpr member
    rw [processed.coins, coinAfter]
    split
    · rename_i own
      exact absurd own (tx.own_not_mem_prevouts found.vout)
    · rw [recordedAt]
      split
      · rename_i missed
        exact absurd (decide_eq_true rfl) (List.find?_eq_none.mp missed found listed)
      · rfl
  · intro holdingId paid
    rw [watch.watchedOutputs] at paid
    rw [processed.linksFor wellFormed.ledger, if_pos rfl]
    by_cases before : TallyKeep.linksFor db tx.txid holdingId = []
    · have needs : NeedsEntry db tx (watchedOutputs db tx) holdingId :=
        ⟨before, fun idle => paid idle.1⟩
      have posted : holdingId ∈ postings.map Posting.holdingId := by
        rw [processed.holders, List.mem_filter]
        exact ⟨(ctx.setOrder.mem _ _).mpr (mem_affectedHoldings_of_received paid),
          decide_eq_true needs⟩
      obtain ⟨posting, member, same⟩ := List.mem_map.mp posted
      have among : posting.link ∈ (postings.filter fun posting =>
          decide (posting.holdingId = holdingId)).map Posting.link :=
        List.mem_map_of_mem (List.mem_filter.mpr ⟨member, decide_eq_true same⟩)
      exact List.append_ne_nil_of_right_ne_nil _ (List.ne_nil_of_mem among)
    · exact List.append_ne_nil_of_left_ne_nil before _
  · intro paid
    rw [watch.watchedOutputs] at paid
    rw [processed.onchainTouched (.inr paid), upsert_isSome]
    exact .inl rfl

/-- The database phase begins with the processing. -/
theorem processed_of_handleTxDb {events : TxEvents}
    (run : handleTxDb db tx ctx = .ok (db', events)) :
    ∃ chainDb, processDecodedTransaction db tx ctx = .ok (chainDb, events.result) := by
  cases processed : processDecodedTransaction db tx ctx with
  | error error =>
      rw [handleTxDb, processed] at run
      cases run
  | ok out =>
      obtain ⟨-, -, -, same⟩ := (handleTxDb_ok_iff_steps processed).mp run
      cases same
      exact ⟨out.1, rfl⟩

/-- What a result says of the inputs, and of a transaction that is recorded. -/
theorem spentUtxoIds_of_processed {result : TxProcessingResult}
    (run : processDecodedTransaction db tx ctx = .ok (db', result)) :
    result.spentUtxoIds = (consumedRows db tx).map UtxoRow.id ∧
      ((watchedOutputs db tx ≠ [] → (db.onchainTransactions.get? tx.txid).isSome) →
        consumedRows db tx = [] → result.isNew = false) := by
  by_cases touched : Touches db tx
  · rw [processDecodedTransaction_of_touches ctx touched] at run
    cases created : createEntries (recordedStage db tx ctx).1 tx ctx
        (discoverOutputs (markInputsSpent db tx).db ctx.rowOrder tx) (stageDirection db tx ctx)
        (ctx.setOrder.enumerate (affectedHoldings db tx)) with
    | error error =>
        rw [created] at run
        cases run
    | ok booked =>
        rw [created] at run
        cases run
        refine ⟨markInputsSpent_spentUtxoIds db tx, ?_⟩
        intro recorded nothing
        rcases touched with spends | pays
        · exact absurd nothing spends
        · have sameTable : (markInputsSpent db tx).db.onchainTransactions =
              db.onchainTransactions := by
            rw [markInputsSpent_db]
            rfl
          change ((markInputsSpent db tx).db.onchainTransactions.get? tx.txid).isNone = false
          rw [sameTable]
          exact Option.isNone_eq_false_iff.mpr (recorded pays)
  · rw [processDecodedTransaction_of_not_touches ctx touched] at run
    cases run
    rw [(not_touches_iff.mp touched).1]
    exact ⟨rfl, fun _ _ => rfl⟩

/-- Of a handled transaction nothing is new but what it spends. -/
theorem unchanged_iff_of_settled {events : TxEvents} (wellFormed : ChainWellFormed db)
    (settled : Settled db tx) (run : handleTxDb db tx ctx = .ok (db', events)) :
    events.result.Unchanged ↔ consumedRows db tx = [] := by
  obtain ⟨chainDb, processedRun⟩ := processed_of_handleTxDb run
  obtain ⟨spent, known⟩ := spentUtxoIds_of_processed processedRun
  obtain ⟨final, result, direction, postings, ends, processed⟩ :=
    processDecodedTransaction_spec wellFormed tx ctx
  rw [processedRun] at ends
  cases ends
  constructor
  · intro unchanged
    rw [unchanged.2.1] at spent
    exact List.map_eq_nil_iff.mp spent.symm
  · intro nothing
    refine ⟨processed.discoveredUtxoIds.mpr settled.coins, ?_, ?_, known settled.recorded nothing⟩
    · rw [spent, nothing]
      rfl
    · rw [processed.newLedgerEntryIds, List.map_eq_nil_iff, processed.postings_eq_nil_iff,
        bookedHoldings, Finset.filter_eq_empty_iff]
      intro holdingId _ needs
      have paid : receivedValue (watchedOutputs db tx) holdingId ≠ 0 := fun idle =>
        needs.2 ⟨idle, holdingInputValue_of_spendsNothing nothing holdingId⟩
      exact settled.linked holdingId paid needs.1

end Handling

/-- A handled transaction is settled. -/
theorem settled_of_handled {db db' : Database} {tx : DecodedTx} {ctx : TxContext}
    {events : TxEvents} (wellFormed : ChainWellFormed db)
    (run : handleTxDb db tx ctx = .ok (db', events)) : Settled db' tx := by
  obtain ⟨-, direction, postings, handled⟩ := handled_of_ok wellFormed run
  obtain ⟨chainDb, result, processed, tables⟩ := handled.processed
  have settled := processed.settled wellFormed
  rw [tables]
  exact ⟨settled.coins, settled.linked, settled.recorded⟩

/-- A handled transaction stays so while nothing is deleted and no address is added. -/
theorem Settled.of_step {db : Database} {tx : DecodedTx} (settled : Settled db tx)
    (wellFormed : ChainWellFormed db) {operation : Operation} (keeps : operation.KeepsWatch) :
    Settled (step bdk db operation) tx := by
  have watch : WatchKept db (step bdk db operation) := .of_step wellFormed keeps
  have grows : RecordsGrow db (step bdk db operation) := .of_step wellFormed keeps.not_deletes
  generalize step bdk db operation = db' at watch grows
  refine ⟨?_, ?_, ?_⟩
  · intro found member
    rw [watch.watchedOutputs] at member
    obtain ⟨row, known⟩ := Option.isSome_iff_exists.mp (settled.coins found member)
    obtain ⟨after, knownAfter, -⟩ := grows.coins _ row known
    rw [knownAfter]
    rfl
  · intro holdingId paid
    rw [watch.watchedOutputs] at paid
    obtain ⟨link, listed⟩ := List.exists_mem_of_ne_nil _ (settled.linked holdingId paid)
    obtain ⟨stored, named⟩ := Table.mem_select.mp listed
    rw [Bool.and_eq_true, decide_eq_true_eq] at named
    obtain ⟨own, records⟩ := named
    obtain ⟨entry, found, ofTx⟩ : ∃ entry, db.ledgerEntries.get? link.ledgerEntryId = some entry ∧
        decide (entry.RecordsTx tx.txid) = true := by
      cases found : db.ledgerEntries.get? link.ledgerEntryId with
      | none =>
          rw [found] at records
          cases records
      | some entry =>
          rw [found] at records
          exact ⟨entry, rfl, records⟩
    apply List.ne_nil_of_mem (a := link)
    apply Table.mem_select.mpr
    refine ⟨Table.mem_of_get? (grows.links _ link (Table.get?_of_mem stored)), ?_⟩
    rw [grows.entries _ entry found, Bool.and_eq_true, decide_eq_true_eq]
    exact ⟨own, ofTx⟩
  · intro pays
    rw [watch.watchedOutputs] at pays
    exact watch.transactions _ (settled.recorded pays)

/-- A settled transaction stays settled over a run. -/
theorem settled_of_run {db db' : Database} {tx : DecodedTx} (sound : Sound chain db)
    (settled : Settled db tx) {operations : List Operation}
    (run : Run (SystemStep bdk chain) db operations db')
    (keeps : ∀ operation ∈ operations, operation.KeepsWatch) :
    Sound chain db' ∧ Settled db' tx := by
  induction run with
  | stop db => exact ⟨sound, settled⟩
  | cons taken _ inductionHypothesis =>
      have next := sound_step _ _ _ sound taken
      obtain ⟨-, rfl⟩ := taken
      exact inductionHypothesis next
        (settled.of_step sound.wellFormed (keeps _ List.mem_cons_self))
        fun operation later => keeps operation (List.mem_cons_of_mem _ later)

/-- A transaction that was handled before is announced again exactly when it spends a known coin:
    neither the confirmation of an incoming payment that was seen in the mempool, nor any later
    delivery of it, makes the listener publish an event about the transaction, its coins or its
    entries, whatever was done since, short of deleting a holding or adding addresses. -/
theorem redelivery_silent_iff {db first later last : Database} {tx : DecodedTx}
    {ctx ctx' : TxContext} {events again : TxEvents} (reached : Reached bdk chain db)
    (fromChain : tx = chain.txOf tx.txid) (handled : handleTxDb db tx ctx = .ok (first, events))
    {operations : List Operation} (run : Run (SystemStep bdk chain) first operations later)
    (keeps : ∀ operation ∈ operations, operation.KeepsWatch)
    (redelivered : handleTxDb later tx ctx' = .ok (last, again)) (shown : Database) :
    resultEvents shown again.result = [] ↔ consumedRows later tx = [] := by
  have sound := sound_of_reached reached
  obtain ⟨soundLater, settled⟩ := settled_of_run
    (sound_step _ _ _ sound (systemStep_of_handled bdk fromChain handled))
    (settled_of_handled sound.wellFormed handled) run keeps
  rw [← unchanged_iff_of_settled soundLater.wellFormed settled redelivered, resultEvents]
  constructor
  · intro silent
    by_contra changed
    rw [if_neg changed] at silent
    cases silent
  · exact fun unchanged => if_pos unchanged

/-- The sample payment is announced from the mempool, and its confirmation is not. -/
theorem redelivery_silent_of_payment :
    ∃ first last events again,
      handleTxDb (invoiceWaiting 100000) samplePayment (sampleCall none) = .ok (first, events) ∧
        handleTxDb first samplePayment (sampleCall (some 101)) = .ok (last, again) ∧
        resultEvents first events.result ≠ [] ∧ resultEvents last again.result = [] := by
  have facts : (handleTxDb (invoiceWaiting 100000) samplePayment (sampleCall none)).toOption.any
      (fun out => (handleTxDb out.1 samplePayment (sampleCall (some 101))).toOption.isSome &&
        decide (resultEvents out.1 out.2.result ≠ [] ∧ consumedRows out.1 samplePayment = [])) =
          true := by
    decide +kernel
  cases seen : handleTxDb (invoiceWaiting 100000) samplePayment (sampleCall none) with
  | error error =>
      rw [seen] at facts
      cases facts
  | ok out =>
      obtain ⟨first, events⟩ := out
      rw [seen] at facts
      obtain ⟨returns, announced⟩ := (Bool.and_eq_true _ _).mp facts
      obtain ⟨announces, spendsNothing⟩ := of_decide_eq_true announced
      cases confirmed : handleTxDb first samplePayment (sampleCall (some 101)) with
      | error error =>
          rw [confirmed] at returns
          cases returns
      | ok out =>
          obtain ⟨last, again⟩ := out
          refine ⟨first, last, events, again, rfl, confirmed, announces, ?_⟩
          exact (@redelivery_silent_iff _ _ sampleBdk sampleChain _ _ _ _ _ _ _ _ _
            (invoiceWaiting_reached 100000) sampleChain_payment seen [] (.stop first)
            (fun _ none => absurd none List.not_mem_nil) confirmed last).mpr spendsNothing

end TallyKeep
