/-
Module: TallyKeep.Proofs.EntryLinks
Layer: Proofs
Purpose: Which ledger entry a confirmed request and a settled invoice are linked to, and when that
  entry belongs to their own holding.
Trusted boundary: none
Main exports: EntryOf, LinksHolding, Handled.entryOf_iff, EntryLinksRight, entryLinksRight_iff
-/
import TallyKeep.Proofs.Confirmation

namespace TallyKeep

open Relational Transition

/-- The entry is one for the transaction, and the holding has a link to it. -/
def EntryOf (db : Database) (txid : Txid) (entryId holdingId : Uuid) : Prop :=
  (∃ entry, db.ledgerEntries.get? entryId = some entry ∧ entry.RecordsTx txid) ∧
    (db.ledgerLinks.get? (entryId, holdingId)).isSome

/-- The first holding, in the order in which the set of affected holdings is iterated, that this
    delivery gives an entry. -/
def firstBooked (db : Database) (tx : DecodedTx) (ctx : TxContext) : Option Uuid :=
  ((ctx.setOrder.enumerate (affectedHoldings db tx)).filter fun holdingId =>
    decide (NeedsEntry db tx (watchedOutputs db tx) holdingId)).head?

/-- The entry that will be linked belongs to the holding: the holding is the first that is given an
    entry, or none is and the holding has a link to an entry that is there. -/
def LinksHolding (db : Database) (tx : DecodedTx) (ctx : TxContext) (holdingId : Uuid) : Prop :=
  match firstBooked db tx ctx with
  | some first => first = holdingId
  | none => ∃ entry ∈ LedgerEntryRepo.entriesFor db tx.txid,
      (db.ledgerLinks.get? (entry.id, holdingId)).isSome

section Phase

variable {db db' : Database} {tx : DecodedTx} {ctx : TxContext} {direction : Direction}
  {postings : List Posting}

/-! ### The entry that is linked -/

theorem Processed.firstBooked {result : TxProcessingResult}
    (processed : Processed db tx ctx db' result direction postings) :
    TallyKeep.firstBooked db tx ctx = postings.head?.map Posting.holdingId := by
  rw [TallyKeep.firstBooked, ← processed.holders, List.head?_map]

/-- The entry of a posting has no link but the posting's own. -/
theorem Processed.posting_linked_iff {result : TxProcessingResult}
    (processed : Processed db tx ctx db' result direction postings)
    (wellFormed : LedgerWellFormed db) {posting : Posting} (posted : posting ∈ postings)
    (holdingId : Uuid) :
    (db'.ledgerLinks.get? (posting.entryId, holdingId)).isSome ↔ posting.holdingId = holdingId := by
  rw [Table.get?_isSome_iff, processed.books.links, List.map_append, List.mem_append]
  have notOld : (posting.entryId, holdingId) ∉
      db.ledgerLinks.rows.map (key (α := LedgerEntryHoldingLinkRow)) := by
    intro old
    obtain ⟨link, stored, same⟩ := List.mem_map.mp old
    have sameEntry : link.ledgerEntryId = posting.entryId := congrArg Prod.fst same
    obtain ⟨entry, found⟩ := Option.isSome_iff_exists.mp (wellFormed.entryOfLink link stored)
    have nodup := db'.ledgerEntries.keysNodup
    rw [processed.books.entries, List.map_append, List.nodup_append] at nodup
    apply nodup.2.2 posting.entryId _ posting.entryId _ rfl
    · rw [← sameEntry]
      exact List.mem_map.mpr ⟨entry, Table.mem_of_get? found, Table.key_of_get? found⟩
    · rw [List.map_map]
      exact List.mem_map.mpr ⟨posting, posted, rfl⟩
  constructor
  · intro member
    rcases member with old | new
    · exact absurd old notOld
    · rw [List.map_map] at new
      obtain ⟨other, member, same⟩ := List.mem_map.mp new
      have sameEntry : other.entryId = posting.entryId := congrArg Prod.fst same
      have sameHolding : other.holdingId = holdingId := congrArg Prod.snd same
      rw [← sameHolding]
      exact congrArg Posting.holdingId
        (List.inj_on_of_nodup_map processed.books.entryIds_nodup posted member sameEntry.symm)
  · rintro rfl
    apply Or.inr
    rw [List.map_map]
    exact List.mem_map.mpr ⟨posting, posted, rfl⟩

/-- The ledger after the phase is the one after the booking. -/
theorem Handled.entryOf_iff (handled : Handled db tx ctx db' direction postings)
    (wellFormed : LedgerWellFormed db)
    (few : postings = [] → (LedgerEntryRepo.entriesFor db tx.txid).length ≤ 1) {entryId : Uuid}
    (chosen : entryToLink db tx postings = some entryId) (holdingId : Uuid) :
    EntryOf db' tx.txid entryId holdingId ↔ LinksHolding db tx ctx holdingId := by
  obtain ⟨chainDb, result, processed, tables⟩ := handled.processed
  have sameLedger : EntryOf db' tx.txid entryId holdingId ↔
      EntryOf chainDb tx.txid entryId holdingId := by
    rw [tables]
    exact Iff.rfl
  rw [sameLedger, EntryOf, LinksHolding, processed.firstBooked]
  cases postings with
  | cons posting rest =>
      cases chosen
      have found := processed.books.get?_posting (List.mem_cons_self (a := posting) (l := rest))
      have records := (posting.recordsTx_entry_iff tx ctx direction tx.txid).mpr rfl
      rw [processed.posting_linked_iff wellFormed List.mem_cons_self]
      exact and_iff_right ⟨_, found, records⟩
  | nil =>
      obtain ⟨existing, head, rfl⟩ := Option.map_eq_some_iff.mp chosen
      have listed : existing ∈ LedgerEntryRepo.entriesFor db tx.txid := List.mem_of_head? head
      have only : ∀ entry ∈ LedgerEntryRepo.entriesFor db tx.txid, entry = existing := by
        intro entry member
        have short := few rfl
        match rows : LedgerEntryRepo.entriesFor db tx.txid, head, member with
        | [_], head, member =>
            rw [List.head?_cons, Option.some.injEq] at head
            rw [List.mem_singleton] at member
            rw [member, head]
        | _ :: _ :: _, _, _ =>
            rw [rows] at short
            simp at short
      obtain ⟨stored, records⟩ := Table.mem_select.mp listed
      have found := processed.books.get?_of_get? (Table.get?_of_mem stored)
      have links : chainDb.ledgerLinks = db.ledgerLinks := by
        apply Table.ext
        rw [processed.books.links, List.map_nil, List.append_nil]
      rw [links, and_iff_right ⟨existing, found, of_decide_eq_true records⟩]
      constructor
      · intro linked
        exact ⟨existing, listed, linked⟩
      · rintro ⟨entry, member, linked⟩
        rw [only entry member] at linked
        exact linked

/-! ### Requests -/

/-- Every request that was broadcast under the transaction becomes CONFIRMED, with an entry for the
    transaction that its own holding has a link to. -/
def RequestsLinked (db db' : Database) (txid : Txid) : Prop :=
  ∀ request ∈ PaymentRequestRepo.requestsFor db txid, request.status = .broadcast →
    ∃ request', db'.paymentRequests.get? request.id = some request' ∧
      request'.status = .confirmed ∧
        ∃ entryId, request'.resultingLedgerEntryId = some entryId ∧
          EntryOf db' txid entryId request.holdingId

/-- The entry that will be linked belongs to the holding of every request that waits for one. -/
def RequestEntriesRight (db : Database) (tx : DecodedTx) (ctx : TxContext) : Prop :=
  ∀ request ∈ PaymentRequestRepo.requestsFor db tx.txid, request.status = .broadcast →
    LinksHolding db tx ctx request.holdingId

theorem eq_head_of_short {α : Type} {rows : List α} (short : rows.length ≤ 1) {row : α}
    (member : row ∈ rows) : rows.head? = some row := by
  match rows, short, member with
  | [_], _, member => rw [List.mem_singleton.mp member, List.head?_cons]
  | _ :: _ :: _, short, _ => simp at short

theorem Handled.few (handled : Handled db tx ctx db' direction postings)
    (unique : LookupsUnique db tx ctx.confirmationHeight.isSome)
    (confirmed : ctx.confirmationHeight.isSome) (none : postings = []) :
    (LedgerEntryRepo.entriesFor db tx.txid).length ≤ 1 := by
  obtain ⟨chainDb, result, processed, -⟩ := handled.processed
  exact unique.entry confirmed (processed.postings_eq_nil_iff.mp none)

/-- A holding that will be linked makes sure there is something to link. -/
theorem LinksHolding.entryToLink (handled : Handled db tx ctx db' direction postings)
    {holdingId : Uuid} (links : LinksHolding db tx ctx holdingId) :
    ∃ entryId, TallyKeep.entryToLink db tx postings = some entryId := by
  obtain ⟨chainDb, result, processed, -⟩ := handled.processed
  rw [LinksHolding, processed.firstBooked] at links
  cases postings with
  | cons posting rest => exact ⟨posting.entryId, rfl⟩
  | nil =>
      obtain ⟨entry, listed, -⟩ := links
      cases existing : LedgerEntryRepo.entriesFor db tx.txid with
      | nil =>
          rw [existing] at listed
          cases listed
      | cons head rest => exact ⟨head.id, by simp [TallyKeep.entryToLink, existing]⟩

theorem Handled.requestsLinked_iff (handled : Handled db tx ctx db' direction postings)
    (wellFormed : LedgerWellFormed db)
    (unique : LookupsUnique db tx ctx.confirmationHeight.isSome)
    (confirmed : ctx.confirmationHeight.isSome) :
    RequestsLinked db db' tx.txid ↔ RequestEntriesRight db tx ctx := by
  have few := handled.few unique confirmed
  constructor
  · intro linked request listed waits
    obtain ⟨request', found, isConfirmed, entryId, resulting, right⟩ := linked request listed waits
    rcases handled.get?_request request.id with
      same | ⟨other, otherEntry, head, -, chosen, -, sameId, after⟩
    · have stored : db.paymentRequests.get? request.id = some request :=
        Table.get?_of_mem (mem_requestsFor.mp listed).1
      rw [same, stored, Option.some.injEq] at found
      rw [← found, waits] at isConfirmed
      cases isConfirmed
    · rw [after, Option.some.injEq] at found
      rw [← found] at resulting
      cases resulting
      exact (handled.entryOf_iff wellFormed few chosen request.holdingId).mp right
  · intro right request listed waits
    have links := right request listed waits
    obtain ⟨entryId, chosen⟩ := links.entryToLink handled
    have present := handled.entryToLink_isSome.mp (Option.isSome_iff_exists.mpr ⟨entryId, chosen⟩)
    have head := eq_head_of_short (unique.request confirmed present) listed
    refine ⟨_, handled.get?_confirmed confirmed chosen head waits, rfl, entryId, rfl, ?_⟩
    exact (handled.entryOf_iff wellFormed few chosen request.holdingId).mpr links

/-! ### Invoices -/

/-- Every invoice that the delivery settles is linked to an entry that its own holding has a link
    to. -/
def InvoicesLinked (db db' : Database) (txid : Txid) : Prop :=
  ∀ invoice ∈ db.invoices.rows, invoice.status = .open →
    ∀ invoice', db'.invoices.get? invoice.id = some invoice' → invoice'.status ≠ .open →
      ∃ entryId, invoice'.resultingLedgerEntryId = some entryId ∧
        EntryOf db' txid entryId invoice.holdingId

/-- The entry that will be linked belongs to the holding of the invoice that will be settled. -/
def InvoiceEntryRight (db : Database) (tx : DecodedTx) (ctx : TxContext) : Prop :=
  SettlementActive db tx →
    bookedHoldings db tx ≠ ∅ ∨ LedgerEntryRepo.entriesFor db tx.txid ≠ [] →
      ∀ invoice valueSats, firstSettlement db tx.vout = some (invoice, valueSats) →
        LinksHolding db tx ctx invoice.holdingId

/-- When an invoice is settled the transaction has one entry, so both steps take the same. -/
theorem Handled.entryToSettle_eq (handled : Handled db tx ctx db' direction postings) {p : Prop}
    (unique : LookupsUnique db tx p) (active : SettlementActive db tx) {invoice : InvoiceRow}
    {valueSats : Nat} (found : firstSettlement db tx.vout = some (invoice, valueSats)) :
    entryToSettle db tx postings = entryToLink db tx postings ∧
      (LedgerEntryRepo.entriesFor db tx.txid).length ≤ 1 := by
  obtain ⟨chainDb, result, processed, -⟩ := handled.processed
  obtain ⟨output, member, waits, -⟩ := firstSettlement_some found
  rcases unique.settlement active with single | nobody
  · rw [← processed.length_postings] at single
    refine ⟨?_, by omega⟩
    cases postings with
    | nil => simp [entryToSettle, entryToLink]
    | cons posting rest =>
        rw [List.length_cons] at single
        have nothing : LedgerEntryRepo.entriesFor db tx.txid = [] :=
          List.length_eq_zero_iff.mp (by omega)
        simp [entryToSettle, entryToLink, nothing]
  · rw [nobody output member] at waits
    cases waits

theorem Handled.invoicesLinked_iff (handled : Handled db tx ctx db' direction postings)
    (wellFormed : LedgerWellFormed db)
    (unique : LookupsUnique db tx ctx.confirmationHeight.isSome) :
    InvoicesLinked db db' tx.txid ↔ InvoiceEntryRight db tx ctx := by
  constructor
  · intro linked active present invoice valueSats found
    obtain ⟨sameEntry, single⟩ := handled.entryToSettle_eq unique active found
    obtain ⟨entryId, chosen⟩ := Option.isSome_iff_exists.mp (handled.entryToLink_isSome.mpr present)
    have settled : settledInvoice db tx (entryToSettle db tx postings) =
        some (invoice, valueSats, entryId) := by
      rw [settledInvoice, if_pos active, sameEntry, chosen, found]
      rfl
    have after := handled.get?_invoice invoice.id
    rw [settled] at after
    simp only [if_true] at after
    obtain ⟨stored, isOpen⟩ := firstSettlement_open found
    have notOpen : (invoice.settled entryId (invoice.overpaidBy valueSats)).status ≠ .open := by
      simp only [InvoiceRow.settled]
      split <;> simp
    obtain ⟨other, resulting, right⟩ := linked invoice stored isOpen _ after notOpen
    cases resulting
    exact (handled.entryOf_iff wellFormed (fun _ => single) chosen invoice.holdingId).mp right
  · intro right invoice stored isOpen invoice' found' notOpen
    have found : db.invoices.get? invoice.id = some invoice := Table.get?_of_mem stored
    have after := handled.get?_invoice invoice.id
    rw [found'] at after
    cases settled : settledInvoice db tx (entryToSettle db tx postings) with
    | none =>
        simp only [settled, found, Option.some.injEq] at after
        exact absurd (after ▸ isOpen) notOpen
    | some settlement =>
        obtain ⟨paid, valueSats, entryId⟩ := settlement
        simp only [settled] at after
        obtain ⟨active, chosen, first⟩ := settledInvoice_some settled
        obtain ⟨sameEntry, single⟩ := handled.entryToSettle_eq unique active first
        rw [sameEntry] at chosen
        split at after
        · rename_i sameId
          have sameRow : invoice = paid :=
            Table.eq_of_key_eq stored (firstSettlement_open first).1 sameId
          rw [Option.some.injEq] at after
          have present := handled.entryToLink_isSome.mp
            (Option.isSome_iff_exists.mpr ⟨entryId, chosen⟩)
          have links := right active present paid valueSats first
          rw [after, sameRow]
          exact ⟨entryId, rfl,
            (handled.entryOf_iff wellFormed (fun _ => single) chosen paid.holdingId).mpr links⟩
        · rw [found, Option.some.injEq] at after
          exact absurd (after ▸ isOpen) notOpen

end Phase

/-! ### Both links -/

/-- A completed phase links entries of the right holdings. -/
def EntryLinksRight (db db' : Database) (tx : DecodedTx) (ctx : TxContext) : Prop :=
  (ctx.confirmationHeight.isSome → RequestsLinked db db' tx.txid) ∧ InvoicesLinked db db' tx.txid

variable {Psbt Tx : Type}

/-- In every reachable state, a phase that completes links the entries of the right holdings exactly
    when the first holding that is given an entry, or with no new entry the holding linked to the
    old one, is that of the request under the transaction and that of the invoice it settles. -/
theorem entryLinksRight_iff {bdk : Bdk Psbt Tx} {chain : Chain} {db db' : Database}
    (reached : Reached bdk chain db) {tx : DecodedTx} {ctx : TxContext} {events : TxEvents}
    (run : handleTxDb db tx ctx = .ok (db', events)) :
    EntryLinksRight db db' tx ctx ↔
      (ctx.confirmationHeight.isSome → RequestEntriesRight db tx ctx) ∧
        InvoiceEntryRight db tx ctx := by
  have wellFormed := (sound_of_reached reached).wellFormed
  obtain ⟨unique, direction, postings, handled⟩ := handled_of_ok wellFormed run
  rw [EntryLinksRight, handled.invoicesLinked_iff wellFormed.ledger unique]
  apply and_congr_left
  intro _
  apply imp_congr_right
  intro confirmed
  exact handled.requestsLinked_iff wellFormed.ledger unique confirmed

/-! ### A payment from one holding to another -/

/-- bitcoind knows every parent transaction and names what it is sent by the id of the transfer. -/
def samplePaymentNode : PaymentNode where
  estimateSmartFee _ := .ok none
  getRawTransaction _ := .ok (some "00")
  sendRawTransaction _ := .ok sampleTransfer.txid.text

/-- The order of a payment to the second sample address. -/
def sampleOrder (holdingId : Uuid) : PaymentOrder :=
  ⟨holdingId, "bcrt1qb", some 60000, none, none, none, false⟩

/-- The first of two holdings receives the sample payment. -/
def fundingOperations (first second : Uuid) : List Operation :=
  setupOperations first second ++ [.handleTx samplePayment (sampleCall (some 100))]

/-- It orders to pay some of it to the second. -/
def transferOrdered (first second : Uuid) : List Operation :=
  fundingOperations first second ++
    [.buildPaymentRequest samplePaymentNode (sampleOrder first) 1]

/-- The order is signed and sent. -/
def transferPaid (first second : Uuid) : List Operation :=
  transferOrdered first second ++
    [.submitSigned 1 (some "signed") none 2, .broadcast samplePaymentNode 1 3]

/-- Where the transfer is broadcast and not yet seen. -/
def transferBroadcast (first second : Uuid) : Database :=
  (transferPaid first second).foldl (step sampleBdk) Database.empty

theorem transferBroadcast_reached (first second : Uuid) :
    Reached sampleBdk sampleChain (transferBroadcast first second) := by
  apply reached_of_legal
  simp only [transferPaid, transferOrdered, fundingOperations, setupOperations, List.cons_append,
    List.nil_append, List.forall_mem_cons, List.not_mem_nil, false_implies, implies_true,
    Legal, and_true, true_and]
  exact sampleChain_payment

/-- The first holding that is given an entry is linked. -/
theorem linksHolding_of_firstBooked {db : Database} {tx : DecodedTx} {ctx : TxContext}
    {first : Uuid} (booked : firstBooked db tx ctx = some first) (holdingId : Uuid) :
    LinksHolding db tx ctx holdingId ↔ first = holdingId := by
  rw [LinksHolding, booked]

/-- The payer's entry comes first: the request is linked to it. -/
theorem entryLinksRight_iff_transfer :
    ∃ db' events, handleTxDb (transferBroadcast 10 20) sampleTransfer (sampleCall (some 101)) =
        .ok (db', events) ∧
      EntryLinksRight (transferBroadcast 10 20) db' sampleTransfer (sampleCall (some 101)) := by
  have reached := transferBroadcast_reached 10 20
  have first : firstBooked (transferBroadcast 10 20) sampleTransfer (sampleCall (some 101)) =
      some 10 := by decide +kernel
  obtain ⟨⟨db', events⟩, run⟩ := (handleTxDb_completes_iff (sound_of_reached reached).wellFormed
    sampleTransfer (sampleCall (some 101))).mpr (by
      refine ⟨fun _ _ => ?_, fun _ _ => ?_, fun _ => Or.inr ?_, fun _ => ?_⟩ <;> decide +kernel)
  refine ⟨db', events, run, (entryLinksRight_iff reached run).mpr ⟨fun _ => ?_, ?_⟩⟩
  · intro request listed _
    apply (linksHolding_of_firstBooked first request.holdingId).mpr
    have own : ∀ request ∈ PaymentRequestRepo.requestsFor (transferBroadcast 10 20)
        sampleTransfer.txid, 10 = request.holdingId := by decide +kernel
    exact own request listed
  · intro _ _ invoice valueSats found
    have nobody : firstSettlement (transferBroadcast 10 20) sampleTransfer.vout = none := by
      decide +kernel
    rw [nobody] at found
    cases found

/-- The entry of the receiving holding comes first: the payer's request is linked to that one. -/
theorem not_entryLinksRight_of_transfer :
    Reached sampleBdk sampleChain (transferBroadcast 20 10) ∧
      ∃ db' events, handleTxDb (transferBroadcast 20 10) sampleTransfer (sampleCall (some 101)) =
          .ok (db', events) ∧
        ¬EntryLinksRight (transferBroadcast 20 10) db' sampleTransfer (sampleCall (some 101)) := by
  have reached := transferBroadcast_reached 20 10
  have wellFormed := (sound_of_reached reached).wellFormed
  obtain ⟨⟨db', events⟩, run⟩ := (handleTxDb_completes_iff wellFormed
    sampleTransfer (sampleCall (some 101))).mpr (by
      refine ⟨fun _ _ => ?_, fun _ _ => ?_, fun _ => Or.inr ?_, fun _ => ?_⟩ <;> decide +kernel)
  obtain ⟨unique, direction, postings, handled⟩ := handled_of_ok wellFormed run
  refine ⟨reached, db', events, run, ?_⟩
  rintro ⟨requests, -⟩
  have right := (handled.requestsLinked_iff wellFormed.ledger unique rfl).mp (requests rfl)
  have first : firstBooked (transferBroadcast 20 10) sampleTransfer (sampleCall (some 101)) =
      some 10 := by decide +kernel
  have waits : ∃ request ∈ PaymentRequestRepo.requestsFor (transferBroadcast 20 10)
      sampleTransfer.txid, request.status = .broadcast ∧ 10 ≠ request.holdingId := by decide +kernel
  obtain ⟨request, listed, broadcast, other⟩ := waits
  exact other ((linksHolding_of_firstBooked first _).mp (right request listed broadcast))

end TallyKeep
