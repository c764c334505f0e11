/-
Module: TallyKeep.Proofs.ListenerTruth
Layer: Proofs
Purpose: What the listener announces is committed before it is announced, and stays as it was
  announced for as long as no holding is deleted.
Trusted boundary: none
Main exports: EventHolds, RecordsStay, TxEventsHold, truthful_of_run
-/
import TallyKeep.Proofs.BankingHistory
import TallyKeep.Proofs.ListenerAnnouncements
import TallyKeep.Proofs.Redelivery

namespace TallyKeep

open History Relational Transition

variable {Psbt Tx : Type} {bdk : Bdk Psbt Tx} {chain : Chain}

/-! ### What an event says -/

/-- The coin an event is about is stored under a descriptor of the holding that the event names. -/
def CoinHolds (db : Database) (holdingId : Option Uuid) (descriptorId utxoId : Uuid)
    (has : UtxoRow → Prop) : Prop :=
  ∃ row ∈ db.utxos.rows, row.id = utxoId ∧ row.descriptorId = descriptorId ∧ has row ∧
    holdingId.isSome ∧ db.holdingOf descriptorId = holdingId

/-- The request is CONFIRMED as the payload has it. -/
def PaymentHolds (db : Database) (payload : PaymentConfirmed) : Prop :=
  ∃ row, db.paymentRequests.get? payload.id = some row ∧ row.status = .confirmed ∧
    row.broadcastTxid = some payload.txid.text ∧
    row.resultingLedgerEntryId = some payload.ledgerEntryId ∧
    (db.ledgerEntries.get? payload.ledgerEntryId).isSome

/-- The invoice is settled as the payload has it. -/
def InvoiceHolds (db : Database) (payload : InvoicePaid) : Prop :=
  ∃ row, db.invoices.get? payload.id = some row ∧
    row.status = (if payload.overpaid then .overpaid else .paid) ∧
    row.resultingLedgerEntryId = some payload.ledgerEntryId ∧
    (db.ledgerEntries.get? payload.ledgerEntryId).isSome

/-- What an event says is the case.  Of a transaction only that it is recorded, not the height and
    the ids in the event; of an invoice not the amount and the txid; and of the connection, the tip
    and the sweep executions, which other parts of the program write as well, nothing is asked. -/
def EventHolds (db : Database) : ListenerEvent → Prop
  | .txMempool txid _ _ => (db.onchainTransactions.get? txid).isSome
  | .txConfirmed txid _ _ _ => (db.onchainTransactions.get? txid).isSome
  | .utxoReceived holdingId descriptorId utxoId valueSats =>
      CoinHolds db holdingId descriptorId utxoId fun row => row.valueSats = valueSats
  | .utxoSpent holdingId descriptorId utxoId =>
      CoinHolds db holdingId descriptorId utxoId fun row => row.isSpent = true
  | .requiresCategorization ledgerEntryId => (db.ledgerEntries.get? ledgerEntryId).isSome
  | .paymentRequestConfirmed payload => PaymentHolds db payload
  | .invoicePaid payload => InvoiceHolds db payload
  | _ => True

/-! ### What stays -/

theorem CoinVersion.isSpent {before after : UtxoRow} (version : CoinVersion before after)
    (spent : before.isSpent = true) : after.isSpent = true := by
  rw [before.spentConsistent] at spent
  obtain ⟨txid, found⟩ := Option.isSome_iff_exists.mp spent
  rw [after.spentConsistent, version.spent txid found]
  rfl

/-- What a later state keeps of the records that events are about. -/
structure RecordsStay (db db' : Database) : Prop where
  coins : ∀ row ∈ db.utxos.rows, ∃ row' ∈ db'.utxos.rows, CoinVersion row row'
  holders : ∀ descriptorId holdingId, db.holdingOf descriptorId = some holdingId →
    db'.holdingOf descriptorId = some holdingId
  entries : ∀ entryId, (db.ledgerEntries.get? entryId).isSome →
    (db'.ledgerEntries.get? entryId).isSome
  transactions : ∀ txid, (db.onchainTransactions.get? txid).isSome →
    (db'.onchainTransactions.get? txid).isSome
  requests : ∀ requestId row, db.paymentRequests.get? requestId = some row →
    row.status = .confirmed → ∃ row', db'.paymentRequests.get? requestId = some row' ∧
      row'.status = .confirmed ∧ row'.broadcastTxid = row.broadcastTxid ∧
      row'.resultingLedgerEntryId = row.resultingLedgerEntryId
  invoices : ∀ invoiceId row, db.invoices.get? invoiceId = some row → row.status ≠ .open →
    db'.invoices.get? invoiceId = some row

/-- The recorded transactions stay while nothing is deleted. -/
theorem transactionsStay_of_step {db : Database} (wellFormed : ChainWellFormed db)
    {operation : Operation} (keeps : ¬operation.Deletes) (txid : Txid)
    (known : (db.onchainTransactions.get? txid).isSome) :
    ((step bdk db operation).onchainTransactions.get? txid).isSome := by
  by_cases registers : ∃ holdingId spec, operation = .registerDescriptor holdingId spec
  · obtain ⟨holdingId, spec, rfl⟩ := registers
    rw [step]
    apply commitOrRollback_invariant
      (I := fun after : Database => (after.onchainTransactions.get? txid).isSome = true) known
    intro after run
    simp only [registerDescriptor] at run
    split at run
    · cases run
    · split at run
      · cases run
      · cases run
        exact known
  · have watch : WatchKept db (step bdk db operation) := by
      apply WatchKept.of_step wellFormed
      cases operation with
      | deleteHolding holdingId policyIds => exact keeps trivial
      | registerDescriptor holdingId spec => exact registers ⟨holdingId, spec, rfl⟩
      | _ => trivial
    exact watch.transactions txid known

/-- A confirmed request is at most attributed to another sweep. -/
theorem RequestMove.confirmed_stays {row : PaymentRequestRow} {after : Option PaymentRequestRow}
    (move : RequestMove bdk operation (some row) after) (isConfirmed : row.status = .confirmed) :
    ∃ row', after = some row' ∧ row'.status = .confirmed ∧
      row'.broadcastTxid = row.broadcastTxid ∧
      row'.resultingLedgerEntryId = row.resultingLedgerEntryId := by
  cases move with
  | kept => exact ⟨row, rfl, isConfirmed, rfl, rfl⟩
  | attributed _ executionId => exact ⟨_, rfl, isConfirmed, rfl, rfl⟩
  | signed awaits => cases awaits.symm.trans isConfirmed
  | sent awaits => cases awaits.symm.trans isConfirmed
  | confirmed waits => cases waits.symm.trans isConfirmed
  | cancelled allowed => exact absurd (.inr isConfirmed) allowed.not_final

theorem RecordsStay.of_step {db : Database} (wellFormed : ChainWellFormed db)
    {operation : Operation} (keeps : ¬operation.Deletes) {coins entries : List Uuid}
    (extended : RecordsExtended db (step bdk db operation) coins entries) :
    RecordsStay db (step bdk db operation) := by
  have grows : RecordsGrow db (step bdk db operation) := .of_step wellFormed keeps
  refine ⟨fun row stored => extended.coins.exists_of_mem stored, grows.descriptors, ?_,
    transactionsStay_of_step wellFormed keeps, ?_, ?_⟩
  · intro entryId stored
    obtain ⟨entry, found⟩ := Option.isSome_iff_exists.mp stored
    rw [grows.entries entryId entry found]
    rfl
  · intro requestId row found isConfirmed
    have change := requestChange_of_step bdk wellFormed operation requestId
    rw [found] at change
    cases change with
    | moved move => exact move.confirmed_stays isConfirmed
    | built builds new => cases new
    | deleted deletes gone => exact absurd deletes keeps
  · intro invoiceId row found isClosed
    have move := invoiceMove_of_step bdk wellFormed keeps invoiceId
    rw [found] at move
    obtain ⟨row', same, grown⟩ := move.grows
    rw [same, grown.closed isClosed]

/-- What an event has said stays so. -/
theorem EventHolds.stays {db db' : Database} (stay : RecordsStay db db') {event : ListenerEvent}
    (holds : EventHolds db event) : EventHolds db' event := by
  have coin : ∀ {holdingId descriptorId utxoId} {has : UtxoRow → Prop},
      (∀ row row', CoinVersion row row' → has row → has row') →
      CoinHolds db holdingId descriptorId utxoId has →
        CoinHolds db' holdingId descriptorId utxoId has := by
    intro holdingId descriptorId utxoId has kept holds
    obtain ⟨row, stored, named, owner, had, held, holder⟩ := holds
    obtain ⟨row', stored', version⟩ := stay.coins row stored
    obtain ⟨holding, rfl⟩ := Option.isSome_iff_exists.mp held
    exact ⟨row', stored', version.id.trans named, version.descriptorId.trans owner,
      kept row row' version had, held, stay.holders descriptorId holding holder⟩
  cases event with
  | txMempool txid _ _ => exact stay.transactions txid holds
  | txConfirmed txid _ _ _ => exact stay.transactions txid holds
  | utxoReceived _ _ _ valueSats =>
      exact coin (fun row row' version had => version.valueSats.trans had) holds
  | utxoSpent _ _ _ =>
      exact coin (fun row row' version spent => version.isSpent spent) holds
  | requiresCategorization ledgerEntryId => exact stay.entries ledgerEntryId holds
  | paymentRequestConfirmed payload =>
      obtain ⟨row, found, isConfirmed, sent, named, stored⟩ := holds
      obtain ⟨row', found', isConfirmed', sent', named'⟩ :=
        stay.requests payload.id row found isConfirmed
      exact ⟨row', found', isConfirmed', sent'.trans sent, named'.trans named,
        stay.entries payload.ledgerEntryId stored⟩
  | invoicePaid payload =>
      obtain ⟨row, found, settled, named, stored⟩ := holds
      have isClosed : row.status ≠ .open := by
        rw [settled]
        split <;> exact fun same => InvoiceStatus.noConfusion same
      exact ⟨row, stay.invoices payload.id row found isClosed, settled, named,
        stay.entries payload.ledgerEntryId stored⟩
  | _ => trivial

/-! ### What a session announces -/

/-- What the announcements of a session rest on is committed. -/
structure TxEventsHold (db : Database) (events : TxEvents) : Prop where
  spent : ∀ utxoId ∈ events.result.spentUtxoIds,
    ∃ row ∈ db.utxos.rows, row.id = utxoId ∧ row.isSpent = true
  entries : ∀ entryId ∈ events.result.newLedgerEntryIds,
    (db.ledgerEntries.get? entryId).isSome
  recorded : ¬events.result.Unchanged →
    (db.onchainTransactions.get? events.result.txid).isSome
  payment : ∀ payload, events.paymentConfirmation = some payload → PaymentHolds db payload
  invoice : ∀ payload, events.invoicePaid = some payload → InvoiceHolds db payload

theorem TxEventsHold.stays {db db' : Database} (stay : RecordsStay db db') {events : TxEvents}
    (holds : TxEventsHold db events) : TxEventsHold db' events where
  spent utxoId member := by
    obtain ⟨row, stored, named, spent⟩ := holds.spent utxoId member
    obtain ⟨row', stored', version⟩ := stay.coins row stored
    exact ⟨row', stored', version.id.trans named, version.isSpent spent⟩
  entries entryId member := stay.entries entryId (holds.entries entryId member)
  recorded changed := stay.transactions _ (holds.recorded changed)
  payment payload paid := by
    have held : EventHolds db (.paymentRequestConfirmed payload) := holds.payment payload paid
    exact held.stays stay
  invoice payload paid := by
    have held : EventHolds db (.invoicePaid payload) := holds.invoice payload paid
    exact held.stays stay

/-- Every event of the announcements says what is the case. -/
theorem TxEventsHold.event {db : Database} (wellFormed : ChainWellFormed db)
    (distinct : (coinIds db).Nodup) {events : TxEvents} (holds : TxEventsHold db events)
    {event : ListenerEvent} (listed : event ∈ txEvents db events) : EventHolds db event := by
  simp only [txEvents, List.mem_append, Option.mem_toList, Option.map_eq_some_iff] at listed
  rcases listed with ((result | ⟨payload, paid, rfl⟩) | ⟨payload, paid, rfl⟩) | ⟨payload, -, rfl⟩
  · rw [resultEvents] at result
    split at result
    · cases result
    · rename_i changed
      simp only [List.mem_cons, List.mem_append, List.mem_filterMap, utxoReceivedEvent,
        utxoSpentEvent, Option.map_eq_some_iff, List.mem_map] at result
      rcases result with rfl | (⟨utxoId, -, row, found, rfl⟩ | ⟨utxoId, member, row, found, rfl⟩) |
        ⟨entryId, member, rfl⟩
      · have recorded := holds.recorded changed
        rw [txEvent]
        split <;> exact recorded
      · have stored := List.mem_of_find?_eq_some found
        exact ⟨row, stored, rfl, rfl, rfl, wellFormed.holderOfCoin row stored, rfl⟩
      · have stored := List.mem_of_find?_eq_some found
        obtain ⟨row', stored', named, spent⟩ := holds.spent utxoId member
        have same : row = row' :=
          List.inj_on_of_nodup_map distinct stored stored' ((id_of_coinById found).trans named.symm)
        rw [← same] at spent
        exact ⟨row, stored, rfl, rfl, spent, wellFormed.holderOfCoin row stored, rfl⟩
      · exact holds.entries entryId member
  · exact holds.payment payload paid
  · exact holds.invoice payload paid
  · trivial

section Session

variable {db db' : Database} {tx : DecodedTx} {ctx : TxContext} {events : TxEvents}

theorem confirmation_holds {result : TxProcessingResult} {now : Timestamp}
    (stored : ∀ entryId ∈ result.newLedgerEntryIds, (db.ledgerEntries.get? entryId).isSome)
    {payload : PaymentConfirmed} (made : (confirmation db result now).2 = some payload) :
    PaymentHolds (confirmation db result now).1 payload := by
  have tables := confirmation_tables db result now
  unfold confirmation at made tables ⊢
  split at made
  · rename_i height entryId request confirmed chosen head
    have entry : (db.ledgerEntries.get? entryId).isSome := by
      rw [chosenEntry] at chosen
      split at chosen
      · obtain ⟨row, first, rfl⟩ := Option.map_eq_some_iff.mp chosen
        have listed := (Table.mem_select.mp (List.mem_of_head? first)).1
        rw [show row.id = key row from rfl, Table.get?_of_mem listed]
        rfl
      · rename_i new
        cases chosen
        exact stored entryId (new ▸ List.mem_cons_self)
    obtain ⟨listed, sent⟩ := mem_requestsFor.mp (List.mem_of_head? head)
    rw [confirmRequest] at made
    split at made
    · cases made
    · rename_i waits
      cases made
      have same : db.paymentRequests.get? request.id = some request := Table.get?_of_mem listed
      simp only [confirmRequest, if_neg waits]
      refine ⟨request.confirmed entryId now, ?_, rfl, sent, rfl, ?_⟩
      · rw [completeOriginatingSweep_tables]
        simp only [PaymentRequestRepo.markConfirmed, PaymentRequestRepo.modify, Table.get?_update,
          if_true, same, Option.map_some]
      · rw [completeOriginatingSweep_tables]
        exact entry
  · cases made

theorem invoiceStep_holds {result : TxProcessingResult} {payload : InvoicePaid}
    (made : (invoiceStep db result tx).2 = some payload) :
    InvoiceHolds (invoiceStep db result tx).1 payload := by
  rw [invoiceStep] at made ⊢
  split at made
  · cases made
  · rename_i active
    rw [if_neg active]
    unfold settlement at made ⊢
    split at made
    · rename_i entry invoice valueSats first found
      cases made
      have listed := (Table.mem_select.mp (List.mem_of_head? first)).1
      have stored : db.ledgerEntries.get? entry.id = some entry := Table.get?_of_mem listed
      have known : db.invoices.get? invoice.id = some invoice :=
        Table.get?_of_mem (firstSettlement_open found).1
      refine ⟨invoice.settled entry.id (invoice.overpaidBy valueSats), ?_, rfl, rfl, ?_⟩
      · simp only [InvoiceRepo.markPaid, Table.get?_update, if_true, known, Option.map_some]
      · change (db.ledgerEntries.get? entry.id).isSome = true
        rw [stored]
        rfl
    · cases made

/-- A touched transaction is recorded, and of an untouched one there is nothing to say. -/
theorem recorded_of_processed {result : TxProcessingResult} (wellFormed : ChainWellFormed db)
    (run : processDecodedTransaction db tx ctx = .ok (db', result)) (changed : ¬result.Unchanged) :
    (db'.onchainTransactions.get? tx.txid).isSome := by
  obtain ⟨done, outcome, direction, postings, returns, processed⟩ :=
    processDecodedTransaction_spec wellFormed tx ctx
  rw [run] at returns
  cases returns
  by_cases touched : Touches db tx
  · rw [processed.onchainTouched touched, upsert_isSome]
    exact .inl rfl
  · rw [processDecodedTransaction_of_not_touches ctx touched] at run
    cases run
    exact absurd ⟨rfl, rfl, rfl, rfl⟩ changed

/-- The coins that a transaction is reported to spend are spent. -/
theorem spent_of_processed {result : TxProcessingResult} (wellFormed : ChainWellFormed db)
    (run : processDecodedTransaction db tx ctx = .ok (db', result)) :
    ∀ utxoId ∈ result.spentUtxoIds,
      ∃ row ∈ db'.utxos.rows, row.id = utxoId ∧ row.isSpent = true := by
  obtain ⟨done, outcome, direction, postings, returns, processed⟩ :=
    processDecodedTransaction_spec wellFormed tx ctx
  rw [run] at returns
  cases returns
  rw [(spentUtxoIds_of_processed run).1]
  intro utxoId member
  obtain ⟨row, consumed, rfl⟩ := List.mem_map.mp member
  obtain ⟨stored, input⟩ := (mem_consumedRows db tx).mp consumed
  obtain ⟨row', stored', version⟩ :=
    (RecordsExtended.processed wellFormed run).coins.exists_of_mem stored
  have after := processed.coins row.outpoint
  rw [coinAfter, if_pos input, Database.coinAt_of_mem stored, ← version.outpoint,
    Database.coinAt_of_mem stored'] at after
  refine ⟨row', stored', version.id, ?_⟩
  have sameCore : row'.core = row.core.markSpent tx.txid := Option.some.inj after
  have spent : row'.core.spentInTxid = (row.core.markSpent tx.txid).spentInTxid :=
    congrArg UtxoRow.spentInTxid sameCore
  rw [row.core.markSpent_spentInTxid] at spent
  rw [row'.spentConsistent, show row'.spentInTxid = row'.core.spentInTxid from rfl, spent]
  cases row.core.spentInTxid <;> rfl

/-- What a session announces is what it commits. -/
theorem txEventsHold_of_handled (wellFormed : ChainWellFormed db)
    (run : handleTxDb db tx ctx = .ok (db', events)) : TxEventsHold db' events := by
  have extended := RecordsExtended.handled wellFormed run
  have newEntries : ∀ entryId ∈ events.result.newLedgerEntryIds,
      (db'.ledgerEntries.get? entryId).isSome := by
    intro entryId member
    have listed : entryId ∈ entryIds db' := by
      rw [extended.entryIds_eq]
      exact List.mem_append_right _ member
    obtain ⟨entry, stored, rfl⟩ := List.mem_map.mp listed
    rw [show entry.id = key entry from rfl, Table.get?_of_mem stored]
    rfl
  obtain ⟨chainDb, processed⟩ := processed_of_handleTxDb run
  obtain ⟨-, -, -, same⟩ := (handleTxDb_ok_iff_steps processed).mp run
  have tables := afterSweep_tables chainDb events.result tx ctx.now
  have final : db' = (afterSweep chainDb events.result tx ctx.now).1 := congrArg Prod.fst same
  rw [← final] at tables
  have sameEntries : db'.ledgerEntries = chainDb.ledgerEntries := by rw [tables]
  have sameCoins : db'.utxos = chainDb.utxos := by rw [tables]
  have sameTransactions : db'.onchainTransactions = chainDb.onchainTransactions := by rw [tables]
  have sameTxid : events.result.txid = tx.txid := by
    obtain ⟨done, outcome, direction, postings, returns, holds⟩ :=
      processDecodedTransaction_spec wellFormed tx ctx
    rw [processed] at returns
    cases returns
    exact holds.txid
  refine ⟨?_, newEntries, ?_, ?_, ?_⟩
  · rw [sameCoins]
    exact spent_of_processed wellFormed processed
  · intro changed
    rw [sameTransactions, sameTxid]
    exact recorded_of_processed wellFormed processed changed
  · intro payload paid
    have made : (confirmation chainDb events.result ctx.now).2 = some payload :=
      (congrArg (fun out => out.2.paymentConfirmation) same).symm.trans paid
    obtain ⟨row, found, rest⟩ := confirmation_holds (sameEntries ▸ newEntries) made
    rw [confirmation_tables] at rest
    have requests : db'.paymentRequests =
        (confirmation chainDb events.result ctx.now).1.paymentRequests := by rw [tables]
    refine ⟨row, requests ▸ found, rest.1, rest.2.1, rest.2.2.1, ?_⟩
    rw [sameEntries]
    exact rest.2.2.2
  · intro payload paid
    have made : (afterInvoice chainDb events.result tx ctx.now).2 = some payload :=
      (congrArg (fun out => out.2.invoicePaid) same).symm.trans paid
    obtain ⟨row, found, settled, named, stored⟩ := invoiceStep_holds made
    have invoices : db'.invoices = (afterInvoice chainDb events.result tx ctx.now).1.invoices := by
      rw [tables]
    refine ⟨row, invoices ▸ found, settled, named, ?_⟩
    rw [invoiceStep_tables, confirmation_tables] at stored
    rw [sameEntries]
    exact stored

end Session

/-! ### Every run -/

/-- The invariant of a run: what is announced holds, and so does what waits to be announced. -/
structure ListenerTruthful (chain : Chain) (s : ListenerState) : Prop where
  sound : Sound chain s.db
  distinct : (coinIds s.db).Nodup
  said : ∀ attempt ∈ s.attempts, EventHolds s.db attempt.event
  waiting : ∀ events, .emit events ∈ s.tasks → TxEventsHold s.db events

theorem ListenerTruthful.changed {s : ListenerState} {db : Database}
    (truthful : ListenerTruthful chain s)
    (sound : Sound chain db) {coins entries : List Uuid}
    (extended : RecordsExtended s.db db coins entries) (stay : RecordsStay s.db db) :
    ListenerTruthful chain { s with db := db } where
  sound := sound
  distinct := extended.nodup truthful.distinct
  said attempt member := (truthful.said attempt member).stays stay
  waiting events member := (truthful.waiting events member).stays stay

theorem ListenerTruthful.moved {s t : ListenerState} (truthful : ListenerTruthful chain s)
    (move : ListenerMove bdk chain (fun operation => ¬operation.Deletes) s () t) :
    ListenerTruthful chain t := by
  have told : ∀ event taken, EventHolds s.db event →
      ∀ attempt ∈ s.attempts ++ [⟨event, taken⟩], EventHolds s.db attempt.event := by
    intro event taken holds attempt member
    rcases List.mem_append.mp member with earlier | last
    · exact truthful.said attempt earlier
    · rw [List.mem_singleton.mp last]
      exact holds
  cases move with
  | queued idle live txs =>
      refine ⟨truthful.sound, truthful.distinct, truthful.said, ?_⟩
      intro events member
      obtain ⟨queued, -, impossible⟩ := List.mem_map.mp member
      cases impossible
  | dropped first =>
      refine ⟨truthful.sound, truthful.distinct, truthful.said, fun events member => ?_⟩
      exact truthful.waiting events (first ▸ List.mem_cons_of_mem _ member)
  | changed differs placed taken =>
      exact ⟨truthful.sound, truthful.distinct, told _ taken trivial, truthful.waiting⟩
  | tip height blockHash taken =>
      exact ⟨truthful.sound, truthful.distinct, told _ taken trivial, truthful.waiting⟩
  | estimated stale =>
      exact ⟨truthful.sound, truthful.distinct, truthful.said, truthful.waiting⟩
  | @committed txid height rest first tx ctx db events asked decoded priced run =>
      have taken := systemStep_of_handled bdk decoded run
      have extended := RecordsExtended.handled truthful.sound.wellFormed run
      have stay : RecordsStay s.db db := by
        rw [taken.2] at extended ⊢
        exact .of_step truthful.sound.wellFormed id extended
      obtain ⟨sound, distinct, said, waiting⟩ :=
        truthful.changed (sound_step _ _ _ truthful.sound taken) extended stay
      refine ⟨sound, distinct, said, fun later member => ?_⟩
      rcases List.mem_cons.mp member with same | among
      · cases same
        exact txEventsHold_of_handled truthful.sound.wellFormed run
      · exact waiting later (first ▸ List.mem_cons_of_mem _ among)
  | @announced events rest first env =>
      obtain ⟨asked, same, begins, -⟩ :=
        publishAll_asks env (txEvents s.db events) { s with tasks := rest }
      rw [publishAll_fields]
      refine ⟨truthful.sound, truthful.distinct, ?_, fun later member => ?_⟩
      · intro attempt member
        rw [same] at member
        rcases List.mem_append.mp member with earlier | last
        · exact truthful.said attempt earlier
        · have holds := truthful.waiting events (first ▸ List.mem_cons_self)
          exact holds.event truthful.sound.wellFormed truthful.distinct
            (begins.subset (List.mem_map_of_mem last))
      · exact truthful.waiting later (first ▸ List.mem_cons_of_mem _ member)
  | halted => exact ⟨truthful.sound, truthful.distinct, truthful.said, truthful.waiting⟩
  | other legal elsewhere keeps =>
      obtain ⟨coins, entries, extended, -⟩ := recordsExtended_of_step bdk s.db keeps elsewhere
      exact truthful.changed (sound_step _ _ _ truthful.sound ⟨legal, rfl⟩) extended
        (.of_step truthful.sound.wellFormed keeps extended)

/-- The listener says nothing that is not so: wherever a run of it is, and whatever came between,
    every event it has asked the bus to publish about a transaction, a coin, a ledger entry, a
    payment request or an invoice is about records that are committed as the event says, as long as
    no holding was deleted meanwhile. -/
theorem truthful_of_run {db : Database} (reached : Reached bdk chain db)
    {labels : List ListenerLabel} {s : ListenerState}
    (run : ListenerRun bdk chain (.started db) labels s)
    (kept : ∀ operation, .other operation ∈ labels → ¬operation.Deletes) :
    ∀ attempt ∈ s.attempts, EventHolds s.db attempt.event := by
  have started : ListenerTruthful chain (.started db) :=
    ⟨sound_of_reached reached, coinIds_nodup_of_reached reached,
      fun attempt none => absurd none List.not_mem_nil,
      fun events none => absurd none List.not_mem_nil⟩
  exact (invariant_of_listener (fun _ _ truthful move => truthful.moved move) kept run started).said

/-- The sample payment is announced, with the invoice it settles. -/
theorem truthful_of_payment : sampleListening.attempts ≠ [] ∧
    ∀ attempt ∈ sampleListening.attempts, EventHolds sampleListening.db attempt.event := by
  refine ⟨by decide +kernel, ?_⟩
  refine truthful_of_run (invoiceWaiting_reached 100000) sampleListening_run ?_
  intro operation performed
  simp [sampleLabels] at performed

end TallyKeep
