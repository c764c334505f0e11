/-
Module: TallyKeep.Proofs.ListenerPhase
Layer: Proofs
Purpose: The specification of the database phase of `_handle_tx`: exactly when it completes, as a
  condition on the database before it, and what it leaves in every table.
Trusted boundary: none
Main exports: bookedHoldings, LookupsUnique, entryToLink, confirmedRequests, settledInvoices,
  Handled, handleTxDb_ok_iff_steps, handleTxDb_spec, handleTxDb_completes_iff
-/
import TallyKeep.Proofs.ChainProcessing
import TallyKeep.Workers.ChainListener

namespace TallyKeep

open Relational

/-! ### The request -/

/-- The entry the confirmation takes, when its lookup does not raise. -/
def chosenEntry (db : Database) (result : TxProcessingResult) : Option Uuid :=
  match result.newLedgerEntryIds with
  | [] => (LedgerEntryRepo.entriesFor db result.txid).head?.map LedgerEntryRow.id
  | entryId :: _ => some entryId

/-- The entry of a confirmation is found unless several exist and none is new. -/
theorem confirmedEntryId_ok_iff {db : Database} {result : TxProcessingResult}
    {found : Option Uuid} :
    confirmedEntryId db result = .ok found ↔
      (result.newLedgerEntryIds = [] →
        (LedgerEntryRepo.entriesFor db result.txid).length ≤ 1) ∧
        found = chosenEntry db result := by
  cases new : result.newLedgerEntryIds with
  | cons entryId rest =>
      simp [confirmedEntryId, chosenEntry, new, eq_comm]
  | nil =>
      simp only [confirmedEntryId, chosenEntry, new, LedgerEntryRepo.getBySource, true_implies]
      cases lookup : scalarOneOrNone (LedgerEntryRepo.entriesFor db result.txid) with
      | error error =>
          have many : ¬(LedgerEntryRepo.entriesFor db result.txid).length ≤ 1 := by
            intro few
            rw [scalarOneOrNone_of_length_le few] at lookup
            cases lookup
          simp [Except.map, many]
      | ok existing =>
          obtain ⟨few, rfl⟩ := scalarOneOrNone_ok_iff.mp lookup
          simp [Except.map, few, eq_comm]

/-- The confirmation finds at most one entry and at most one request. -/
structure ConfirmationUnique (db : Database) (result : TxProcessingResult) : Prop where
  entry : result.newLedgerEntryIds = [] →
    (LedgerEntryRepo.entriesFor db result.txid).length ≤ 1
  request : (chosenEntry db result).isSome →
    (PaymentRequestRepo.requestsFor db result.txid).length ≤ 1

/-- What the confirmation does, when its lookups do not raise. -/
def confirmation (db : Database) (result : TxProcessingResult) (now : Timestamp) :
    Database × Option PaymentConfirmed :=
  match result.confirmationHeight, chosenEntry db result,
      (PaymentRequestRepo.requestsFor db result.txid).head? with
  | some height, some entryId, some request =>
      confirmRequest db request result.txid height entryId now
  | _, _, _ => (db, none)

/-- Requests are linked unless a row that should be one of a kind is not. -/
theorem linkPaymentRequestIfAny_ok_iff {db : Database} {result : TxProcessingResult}
    {now : Timestamp} {out : Database × Option PaymentConfirmed} :
    linkPaymentRequestIfAny db result now = .ok out ↔
      (result.confirmationHeight.isSome → ConfirmationUnique db result) ∧
        out = confirmation db result now := by
  cases height : result.confirmationHeight with
  | none => simp [linkPaymentRequestIfAny, confirmation, height, eq_comm]
  | some h =>
      simp only [linkPaymentRequestIfAny, confirmation, height, Option.isSome_some, true_implies]
      cases lookup : confirmedEntryId db result with
      | error error =>
          simp only [bind, Except.bind, reduceCtorEq, false_iff, not_and]
          intro unique
          rw [confirmedEntryId_ok_iff.mpr ⟨unique.entry, rfl⟩] at lookup
          cases lookup
      | ok found =>
          obtain ⟨few, rfl⟩ := confirmedEntryId_ok_iff.mp lookup
          simp only [bind, Except.bind]
          cases chosen : chosenEntry db result with
          | none =>
              have unique : ConfirmationUnique db result := ⟨few, by simp [chosen]⟩
              simp [pure, Except.pure, unique, eq_comm]
          | some entryId =>
              simp only [PaymentRequestRepo.getByBroadcastTxid]
              cases requests : scalarOneOrNone (PaymentRequestRepo.requestsFor db result.txid) with
              | error error =>
                  simp only [reduceCtorEq, false_iff, not_and]
                  intro unique
                  rw [scalarOneOrNone_of_length_le (unique.request (by simp [chosen]))] at requests
                  cases requests
              | ok request =>
                  obtain ⟨single, rfl⟩ := scalarOneOrNone_ok_iff.mp requests
                  have unique : ConfirmationUnique db result := ⟨few, fun _ => single⟩
                  cases (PaymentRequestRepo.requestsFor db result.txid).head? <;>
                    simp [pure, Except.pure, unique, eq_comm]

/-! ### The invoice -/

/-- The first output, in order, that has a value and pays an address some OPEN invoice waits on, as
    that invoice and the value of this one output. -/
def firstSettlement (db : Database) (outputs : List DecodedOutput) : Option (InvoiceRow × Nat) :=
  outputs.findSome? fun output =>
    (invoiceAwaiting db output).bind fun invoice =>
      output.value.map fun value => (invoice, btcToSats value)

/-- The open invoices at an address. -/
theorem mem_openAt {db : Database} {address : String} {invoice : InvoiceRow} :
    invoice ∈ InvoiceRepo.openAt db address ↔
      invoice ∈ db.invoices.rows ∧ invoice.receivingAddress = some address ∧
        invoice.status = .open := by
  rw [InvoiceRepo.openAt, Table.mem_select, decide_eq_true_iff]

/-- An invoice that an output is matched with is OPEN and waits on the output's address. -/
theorem invoiceAwaiting_some {db : Database} {output : DecodedOutput} {invoice : InvoiceRow}
    (waits : invoiceAwaiting db output = some invoice) :
    ∃ address, output.address = some address ∧ address ≠ "" ∧
      invoice ∈ InvoiceRepo.openAt db address := by
  rw [invoiceAwaiting] at waits
  cases paid : output.address with
  | none =>
      simp only [paid] at waits
      cases waits
  | some address =>
      simp only [paid] at waits
      split at waits
      · cases waits
      · rename_i named
        exact ⟨address, rfl, named, List.mem_of_getLast? waits⟩

/-- What is settled awaits a payment, by an output that carries the value. -/
theorem firstSettlement_some {db : Database} {outputs : List DecodedOutput}
    {invoice : InvoiceRow} {valueSats : Nat}
    (found : firstSettlement db outputs = some (invoice, valueSats)) :
    ∃ output ∈ outputs, invoiceAwaiting db output = some invoice ∧
      output.value = some valueSats := by
  obtain ⟨output, member, here⟩ := List.exists_of_findSome?_eq_some found
  obtain ⟨waiting, waits, valued⟩ := Option.bind_eq_some_iff.mp here
  obtain ⟨value, same, pair⟩ := Option.map_eq_some_iff.mp valued
  rw [btcToSats_eq, Prod.mk.injEq] at pair
  exact ⟨output, member, by rw [waits, pair.1], by rw [same, pair.2]⟩

/-- The settled invoice is a stored OPEN one. -/
theorem firstSettlement_open {db : Database} {outputs : List DecodedOutput}
    {invoice : InvoiceRow} {valueSats : Nat}
    (found : firstSettlement db outputs = some (invoice, valueSats)) :
    invoice ∈ db.invoices.rows ∧ invoice.status = .open := by
  obtain ⟨output, -, waits, -⟩ := firstSettlement_some found
  obtain ⟨address, -, -, listed⟩ := invoiceAwaiting_some waits
  obtain ⟨stored, -, isOpen⟩ := mem_openAt.mp listed
  exact ⟨stored, isOpen⟩

/-- What the loop over the outputs does, when its lookups do not raise. -/
def settlement (db : Database) (txid : Txid) (outputs : List DecodedOutput) :
    Database × Option InvoicePaid :=
  match (LedgerEntryRepo.entriesFor db txid).head?, firstSettlement db outputs with
  | some entry, some (invoice, valueSats) =>
      (InvoiceRepo.markPaid db invoice.id entry.id (invoice.overpaidBy valueSats),
        some ⟨invoice.id, txid, entry.id, valueSats, invoice.overpaidBy valueSats⟩)
  | _, _ => (db, none)

/-- The lookups of the loop find at most one entry, or it makes none. -/
def SettlementUnique (db : Database) (txid : Txid) (outputs : List DecodedOutput) : Prop :=
  (LedgerEntryRepo.entriesFor db txid).length ≤ 1 ∨
    ∀ output ∈ outputs, invoiceAwaiting db output = none

/-- With several entries nothing can be settled, and nothing is raised as long as nothing awaits. -/
theorem settleFirst_of_many {db : Database} {txid : Txid}
    (many : ¬(LedgerEntryRepo.entriesFor db txid).length ≤ 1) (outputs : List DecodedOutput)
    (out : Database × Option InvoicePaid) :
    settleFirst db txid outputs = .ok out ↔
      (∀ output ∈ outputs, invoiceAwaiting db output = none) ∧ out = (db, none) := by
  have raises : ∀ found, LedgerEntryRepo.getBySource db txid ≠ .ok found := by
    intro found same
    exact many (scalarOneOrNone_ok_iff.mp same).1
  induction outputs with
  | nil => simp [settleFirst, eq_comm]
  | cons output rest inductionHypothesis =>
      rw [settleFirst, settleOutput]
      cases waits : invoiceAwaiting db output with
      | none =>
          simp only [bind, Except.bind, inductionHypothesis, List.forall_mem_cons, waits, true_and]
      | some invoice =>
          cases lookup : LedgerEntryRepo.getBySource db txid with
          | error error => simp [bind, Except.bind, waits]
          | ok found => exact absurd lookup (raises found)

/-- With at most one entry the first settlement goes through. -/
theorem settleFirst_of_few {db : Database} {txid : Txid}
    (few : (LedgerEntryRepo.entriesFor db txid).length ≤ 1) (outputs : List DecodedOutput) :
    settleFirst db txid outputs = .ok (settlement db txid outputs) := by
  have lookup : LedgerEntryRepo.getBySource db txid =
      .ok (LedgerEntryRepo.entriesFor db txid).head? := scalarOneOrNone_of_length_le few
  induction outputs with
  | nil =>
      simp only [settleFirst, settlement, firstSettlement, List.findSome?_nil]
      cases (LedgerEntryRepo.entriesFor db txid).head? <;> rfl
  | cons output rest inductionHypothesis =>
      rw [settleFirst, settleOutput, inductionHypothesis, settlement, settlement, firstSettlement,
        firstSettlement, List.findSome?_cons, lookup]
      cases waits : invoiceAwaiting db output with
      | none => simp [bind, Except.bind]
      | some invoice =>
          cases (LedgerEntryRepo.entriesFor db txid).head? with
          | none => simp [bind, Except.bind, pure, Except.pure]
          | some entry =>
              cases value : output.value with
              | none => simp [bind, Except.bind, pure, Except.pure]
              | some v => simp [bind, Except.bind, pure, Except.pure]

/-- Without an invoice that awaits a payment nothing is settled. -/
theorem settlement_of_nobody {db : Database} {outputs : List DecodedOutput}
    (nobody : ∀ output ∈ outputs, invoiceAwaiting db output = none) (txid : Txid) :
    settlement db txid outputs = (db, none) := by
  have nothing : firstSettlement db outputs = none := by
    rw [firstSettlement, List.findSome?_eq_none_iff]
    intro output member
    rw [nobody output member]
    rfl
  simp only [settlement, nothing]
  cases (LedgerEntryRepo.entriesFor db txid).head? <;> rfl

/-- The first settlement goes through exactly when the entry to settle with is unique. -/
theorem settleFirst_ok_iff {db : Database} {txid : Txid} {outputs : List DecodedOutput}
    {out : Database × Option InvoicePaid} :
    settleFirst db txid outputs = .ok out ↔
      SettlementUnique db txid outputs ∧ out = settlement db txid outputs := by
  by_cases few : (LedgerEntryRepo.entriesFor db txid).length ≤ 1
  · rw [settleFirst_of_few few, SettlementUnique]
    simp [few, eq_comm]
  · rw [settleFirst_of_many few, SettlementUnique]
    simp only [few, false_or]
    refine and_congr_right fun nobody => ?_
    rw [settlement_of_nobody nobody]

/-- What the invoice step does, when its lookups do not raise. -/
def invoiceStep (db : Database) (result : TxProcessingResult) (tx : DecodedTx) :
    Database × Option InvoicePaid :=
  if result.discoveredUtxoIds = [] ∧ result.newLedgerEntryIds = [] then (db, none)
  else settlement db result.txid tx.vout

/-- Invoices are linked unless the entry to settle with is not unique. -/
theorem linkInvoiceIfAny_ok_iff {db : Database} {result : TxProcessingResult} {tx : DecodedTx}
    {out : Database × Option InvoicePaid} :
    linkInvoiceIfAny db result tx = .ok out ↔
      (¬(result.discoveredUtxoIds = [] ∧ result.newLedgerEntryIds = []) →
        SettlementUnique db result.txid tx.vout) ∧ out = invoiceStep db result tx := by
  rw [linkInvoiceIfAny, invoiceStep]
  split
  · rename_i idle
    simp [idle, eq_comm]
  · rename_i active
    rw [settleFirst_ok_iff]
    simp only [active, not_false_eq_true, true_implies]

/-! ### The sweep execution -/

/-- What the sweep step does, when its lookup does not raise. -/
def sweepStep (db : Database) (result : TxProcessingResult) (now : Timestamp) :
    Database × Option SweepCompleted :=
  match result.confirmationHeight, (SweepExecutionRepo.executionsFor db result.txid).head? with
  | some height, some execution =>
      if execution.status ≠ .onchainPending then (db, none)
      else
        (SweepExecutionRepo.complete db execution.id result.txid now,
          some ⟨execution.id, result.txid, height⟩)
  | _, _ => (db, none)

/-- Executions are linked unless several were broadcast as one transaction. -/
theorem linkSweepExecutionIfAny_ok_iff {db : Database} {result : TxProcessingResult}
    {now : Timestamp} {out : Database × Option SweepCompleted} :
    linkSweepExecutionIfAny db result now = .ok out ↔
      (result.confirmationHeight.isSome →
        (SweepExecutionRepo.executionsFor db result.txid).length ≤ 1) ∧
        out = sweepStep db result now := by
  cases height : result.confirmationHeight with
  | none => simp [linkSweepExecutionIfAny, sweepStep, height, eq_comm]
  | some h =>
      simp only [linkSweepExecutionIfAny, sweepStep, height, Option.isSome_some, true_implies,
        SweepExecutionRepo.getByExpectedTxid]
      cases lookup : scalarOneOrNone (SweepExecutionRepo.executionsFor db result.txid) with
      | error error =>
          have many : ¬(SweepExecutionRepo.executionsFor db result.txid).length ≤ 1 := by
            intro few
            rw [scalarOneOrNone_of_length_le few] at lookup
            cases lookup
          simp [bind, Except.bind, many]
      | ok found =>
          obtain ⟨few, rfl⟩ := scalarOneOrNone_ok_iff.mp lookup
          cases (SweepExecutionRepo.executionsFor db result.txid).head? with
          | none => simp [bind, Except.bind, pure, Except.pure, few, eq_comm]
          | some execution =>
              by_cases pending : execution.status = .onchainPending <;>
                simp [bind, Except.bind, pure, Except.pure, few, pending, eq_comm]

/-! ### What the steps leave alone -/

/-- Completing the sweep of a request writes executions only. -/
theorem completeOriginatingSweep_tables (db : Database) (request : PaymentRequestRow) (txid : Txid)
    (now : Timestamp) :
    completeOriginatingSweep db request txid now =
      { db with
        sweepExecutions := (completeOriginatingSweep db request txid now).sweepExecutions } := by
  rw [completeOriginatingSweep]
  split
  · rfl
  · split <;> rfl

/-- A confirmation writes requests and executions only. -/
theorem confirmation_tables (db : Database) (result : TxProcessingResult) (now : Timestamp) :
    (confirmation db result now).1 =
      { db with
        paymentRequests := (confirmation db result now).1.paymentRequests
        sweepExecutions := (confirmation db result now).1.sweepExecutions } := by
  rw [confirmation]
  split
  · rw [confirmRequest]
    split
    · rfl
    · simp only
      rw [completeOriginatingSweep_tables]
      rfl
  · rfl

/-- The step of the invoices writes invoices only. -/
theorem invoiceStep_tables (db : Database) (result : TxProcessingResult) (tx : DecodedTx) :
    (invoiceStep db result tx).1 =
      { db with invoices := (invoiceStep db result tx).1.invoices } := by
  rw [invoiceStep]
  split
  · rfl
  · rw [settlement]
    split <;> rfl

/-- The step of the executions writes executions only. -/
theorem sweepStep_tables (db : Database) (result : TxProcessingResult) (now : Timestamp) :
    (sweepStep db result now).1 =
      { db with sweepExecutions := (sweepStep db result now).1.sweepExecutions } := by
  rw [sweepStep]
  split
  · split <;> rfl
  · rfl

/-- Completing an execution leaves the expected transaction ids alone. -/
theorem length_executionsFor_complete (db : Database) (executionId : Uuid) (confirmed : Txid)
    (now : Timestamp) (txid : Txid) :
    (SweepExecutionRepo.executionsFor
        (SweepExecutionRepo.complete db executionId confirmed now) txid).length =
      (SweepExecutionRepo.executionsFor db txid).length := by
  simp only [SweepExecutionRepo.executionsFor, SweepExecutionRepo.complete,
    SweepExecutionRepo.updateStatus, Table.update]
  rw [Table.select_updateAll, List.length_map]
  intro row
  split <;> rfl

/-- A confirmation leaves as many executions under every transaction. -/
theorem length_executionsFor_confirmation (db : Database) (result : TxProcessingResult)
    (now : Timestamp) (txid : Txid) :
    (SweepExecutionRepo.executionsFor (confirmation db result now).1 txid).length =
      (SweepExecutionRepo.executionsFor db txid).length := by
  rw [confirmation]
  split
  · rw [confirmRequest]
    split
    · rfl
    · simp only [completeOriginatingSweep]
      split
      · rfl
      · split
        · rfl
        · exact length_executionsFor_complete _ _ _ _ _
  · rfl

/-! ### The steps together -/

section Phase

variable {db : Database} {tx : DecodedTx} {ctx : TxContext} {processed : Database}
  {result : TxProcessingResult}

/-- The invoice step after the confirmation. -/
def afterInvoice (processed : Database) (result : TxProcessingResult) (tx : DecodedTx)
    (now : Timestamp) : Database × Option InvoicePaid :=
  invoiceStep (confirmation processed result now).1 result tx

/-- The sweep step after both. -/
def afterSweep (processed : Database) (result : TxProcessingResult) (tx : DecodedTx)
    (now : Timestamp) : Database × Option SweepCompleted :=
  sweepStep (afterInvoice processed result tx now).1 result now

/-- The database phase goes through exactly when its three lookups find at most one row each. -/
theorem handleTxDb_ok_iff_steps
    (run : processDecodedTransaction db tx ctx = .ok (processed, result))
    {out : Database × TxEvents} :
    handleTxDb db tx ctx = .ok out ↔
      (result.confirmationHeight.isSome → ConfirmationUnique processed result) ∧
        (¬(result.discoveredUtxoIds = [] ∧ result.newLedgerEntryIds = []) →
          SettlementUnique (confirmation processed result ctx.now).1 result.txid tx.vout) ∧
        (result.confirmationHeight.isSome →
          (SweepExecutionRepo.executionsFor (afterInvoice processed result tx ctx.now).1
            result.txid).length ≤ 1) ∧
        out = ((afterSweep processed result tx ctx.now).1,
          ⟨result, (confirmation processed result ctx.now).2,
            (afterInvoice processed result tx ctx.now).2,
            (afterSweep processed result tx ctx.now).2⟩) := by
  rw [handleTxDb, run]
  simp only [bind_ok_iff, Except.ok.injEq, exists_eq_left', linkPaymentRequestIfAny_ok_iff,
    linkInvoiceIfAny_ok_iff, linkSweepExecutionIfAny_ok_iff]
  constructor
  · rintro ⟨_, ⟨unique, rfl⟩, _, ⟨settles, rfl⟩, _, ⟨sweeps, rfl⟩, same⟩
    exact ⟨unique, settles, sweeps, (Except.ok.inj same).symm⟩
  · rintro ⟨unique, settles, sweeps, rfl⟩
    exact ⟨_, ⟨unique, rfl⟩, _, ⟨settles, rfl⟩, _, ⟨sweeps, rfl⟩, rfl⟩

/-- The four tables the steps may write, and nothing else. -/
theorem afterSweep_tables (processed : Database) (result : TxProcessingResult) (tx : DecodedTx)
    (now : Timestamp) :
    (afterSweep processed result tx now).1 =
      { processed with
        paymentRequests := (confirmation processed result now).1.paymentRequests
        invoices := (afterInvoice processed result tx now).1.invoices
        sweepExecutions := (afterSweep processed result tx now).1.sweepExecutions } := by
  rw [afterSweep, sweepStep_tables, afterInvoice, invoiceStep_tables, confirmation_tables]

end Phase

/-! ### In terms of the database before the phase -/

/-- The holdings that this delivery gives an entry. -/
def bookedHoldings (db : Database) (tx : DecodedTx) : Finset Uuid :=
  (affectedHoldings db tx).filter fun holdingId =>
    NeedsEntry db tx (watchedOutputs db tx) holdingId

/-- Some output pays a watched address and has no coin yet. -/
def DiscoversCoin (db : Database) (tx : DecodedTx) : Prop :=
  ∃ found ∈ watchedOutputs db tx, db.coinAt ⟨tx.txid, found.vout⟩ = none

instance (db : Database) (tx : DecodedTx) : Decidable (DiscoversCoin db tx) :=
  inferInstanceAs
    (Decidable (∃ found ∈ watchedOutputs db tx, db.coinAt ⟨tx.txid, found.vout⟩ = none))

/-- Every lookup by transaction id that the phase makes finds at most one row. -/
structure LookupsUnique (db : Database) (tx : DecodedTx) (confirmed : Prop) : Prop where
  entry : confirmed → bookedHoldings db tx = ∅ →
    (LedgerEntryRepo.entriesFor db tx.txid).length ≤ 1
  request : confirmed →
    bookedHoldings db tx ≠ ∅ ∨ LedgerEntryRepo.entriesFor db tx.txid ≠ [] →
      (PaymentRequestRepo.requestsFor db tx.txid).length ≤ 1
  settlement : bookedHoldings db tx ≠ ∅ ∨ DiscoversCoin db tx →
    (LedgerEntryRepo.entriesFor db tx.txid).length + (bookedHoldings db tx).card ≤ 1 ∨
      ∀ output ∈ tx.vout, invoiceAwaiting db output = none
  execution : confirmed → (SweepExecutionRepo.executionsFor db tx.txid).length ≤ 1

/-- The entry a confirmation links: the first of this delivery, or the one that was there. -/
def entryToLink (db : Database) (tx : DecodedTx) (postings : List Posting) : Option Uuid :=
  match postings with
  | [] => (LedgerEntryRepo.entriesFor db tx.txid).head?.map LedgerEntryRow.id
  | posting :: _ => some posting.entryId

/-- The entry a settlement links: the first of all. -/
def entryToSettle (db : Database) (tx : DecodedTx) (postings : List Posting) : Option Uuid :=
  ((LedgerEntryRepo.entriesFor db tx.txid).map LedgerEntryRow.id ++
    postings.map Posting.entryId).head?

/-- The requests after the phase. -/
def confirmedRequests (db : Database) (tx : DecodedTx) (ctx : TxContext)
    (entryId : Option Uuid) : Table PaymentRequestRow :=
  match ctx.confirmationHeight, entryId, (PaymentRequestRepo.requestsFor db tx.txid).head? with
  | some _, some entryId, some request =>
      if request.status = .broadcast then
        (PaymentRequestRepo.markConfirmed db request.id entryId ctx.now).paymentRequests
      else db.paymentRequests
  | _, _, _ => db.paymentRequests

/-- The invoices after the phase. -/
def settledInvoices (db : Database) (tx : DecodedTx) (entryId : Option Uuid) : Table InvoiceRow :=
  match entryId, firstSettlement db tx.vout with
  | some entryId, some (invoice, valueSats) =>
      (InvoiceRepo.markPaid db invoice.id entryId (invoice.overpaidBy valueSats)).invoices
  | _, _ => db.invoices

/-- The invoice step has something to look at. -/
def SettlementActive (db : Database) (tx : DecodedTx) : Prop :=
  bookedHoldings db tx ≠ ∅ ∨ DiscoversCoin db tx

instance (db : Database) (tx : DecodedTx) : Decidable (SettlementActive db tx) :=
  inferInstanceAs (Decidable (_ ∨ _))

namespace Processed

variable {db db' : Database} {tx : DecodedTx} {ctx : TxContext} {result : TxProcessingResult}
  {direction : Direction} {postings : List Posting}

/-- The holdings of the postings are the ones that are booked. -/
theorem toFinset_holders (processed : Processed db tx ctx db' result direction postings) :
    (postings.map Posting.holdingId).toFinset = bookedHoldings db tx := by
  ext holdingId
  rw [List.mem_toFinset, processed.holders, List.mem_filter, ctx.setOrder.mem, bookedHoldings,
    Finset.mem_filter, decide_eq_true_iff]

/-- There is one posting for every holding that is booked. -/
theorem length_postings (processed : Processed db tx ctx db' result direction postings) :
    postings.length = (bookedHoldings db tx).card := by
  rw [← processed.toFinset_holders, List.toFinset_card_of_nodup processed.holders_nodup,
    List.length_map]

/-- Nothing is posted exactly when no holding is booked. -/
theorem postings_eq_nil_iff (processed : Processed db tx ctx db' result direction postings) :
    postings = [] ↔ bookedHoldings db tx = ∅ := by
  rw [← List.length_eq_zero_iff, processed.length_postings, Finset.card_eq_zero]

/-- The processing found a coin or wrote an entry exactly when the settlement is active. -/
theorem active_iff (processed : Processed db tx ctx db' result direction postings) :
    ¬(result.discoveredUtxoIds = [] ∧ result.newLedgerEntryIds = []) ↔
      SettlementActive db tx := by
  rw [processed.newLedgerEntryIds, List.map_eq_nil_iff, processed.postings_eq_nil_iff,
    processed.discoveredUtxoIds, not_and_or, SettlementActive, or_comm]
  refine or_congr Iff.rfl ?_
  simp [DiscoversCoin]

/-- The entries of the transaction are the ones of before and the posted ones. -/
theorem ownEntries (processed : Processed db tx ctx db' result direction postings) :
    LedgerEntryRepo.entriesFor db' tx.txid =
      LedgerEntryRepo.entriesFor db tx.txid ++
        postings.map fun posting => posting.entry tx ctx direction := by
  rw [processed.entriesFor, if_pos rfl]

/-- The entry that is chosen after the processing, told from the tables of before. -/
theorem chosenEntry_eq (processed : Processed db tx ctx db' result direction postings) :
    chosenEntry db' result = entryToLink db tx postings := by
  have entries := processed.ownEntries
  rw [chosenEntry, processed.newLedgerEntryIds, processed.txid]
  cases postings with
  | nil =>
      simp only [entries, List.map_nil, List.append_nil]
      rfl
  | cons posting rest => rfl

/-- The processing leaves the requests of a transaction as they were. -/
theorem requestsFor (processed : Processed db tx ctx db' result direction postings) :
    PaymentRequestRepo.requestsFor db' tx.txid = PaymentRequestRepo.requestsFor db tx.txid := by
  rw [processed.tables]
  rfl

/-- The uniqueness of a confirmation, told from the tables of before. -/
theorem confirmationUnique_iff (processed : Processed db tx ctx db' result direction postings) :
    ConfirmationUnique db' result ↔
      (bookedHoldings db tx = ∅ → (LedgerEntryRepo.entriesFor db tx.txid).length ≤ 1) ∧
        (bookedHoldings db tx ≠ ∅ ∨ LedgerEntryRepo.entriesFor db tx.txid ≠ [] →
          (PaymentRequestRepo.requestsFor db tx.txid).length ≤ 1) := by
  have newIff : result.newLedgerEntryIds = [] ↔ bookedHoldings db tx = ∅ := by
    rw [processed.newLedgerEntryIds, List.map_eq_nil_iff, processed.postings_eq_nil_iff]
  have entryIff : (bookedHoldings db tx = ∅ →
        (LedgerEntryRepo.entriesFor db' result.txid).length ≤ 1) ↔
      (bookedHoldings db tx = ∅ → (LedgerEntryRepo.entriesFor db tx.txid).length ≤ 1) := by
    refine imp_congr_right fun none => ?_
    rw [processed.txid, processed.ownEntries, processed.postings_eq_nil_iff.mpr none, List.map_nil,
      List.append_nil]
  have chosenIff : (chosenEntry db' result).isSome ↔
      bookedHoldings db tx ≠ ∅ ∨ LedgerEntryRepo.entriesFor db tx.txid ≠ [] := by
    rw [processed.chosenEntry_eq, Ne, ← processed.postings_eq_nil_iff]
    cases postings with
    | nil =>
        cases existing : LedgerEntryRepo.entriesFor db tx.txid <;> simp [entryToLink, existing]
    | cons posting rest => simp [entryToLink]
  have requests := processed.requestsFor
  constructor
  · rintro ⟨entry, request⟩
    rw [newIff, entryIff] at entry
    rw [chosenIff, processed.txid, requests] at request
    exact ⟨entry, request⟩
  · rintro ⟨entry, request⟩
    refine ⟨?_, ?_⟩
    · rw [newIff, entryIff]
      exact entry
    · rw [chosenIff, processed.txid, requests]
      exact request

/-- The confirmation reads and writes requests that are as they were before the phase. -/
theorem confirmedRequests_eq (processed : Processed db tx ctx db' result direction postings) :
    (confirmation db' result ctx.now).1.paymentRequests =
      confirmedRequests db tx ctx (entryToLink db tx postings) := by
  have sameTable : db'.paymentRequests = db.paymentRequests := by rw [processed.tables]
  unfold confirmation confirmedRequests
  rw [processed.chosenEntry_eq, processed.confirmationHeight, processed.txid,
    processed.requestsFor]
  cases ctx.confirmationHeight with
  | none => exact sameTable
  | some height =>
      cases entryToLink db tx postings with
      | none => exact sameTable
      | some entryId =>
          cases (PaymentRequestRepo.requestsFor db tx.txid).head? with
          | none => exact sameTable
          | some request =>
              simp only [confirmRequest]
              by_cases waits : request.status = .broadcast
              · rw [if_neg (not_not_intro waits), if_pos waits]
                rw [completeOriginatingSweep_tables]
                simp only [PaymentRequestRepo.markConfirmed, PaymentRequestRepo.modify, sameTable]
              · rw [if_pos waits, if_neg waits]
                exact sameTable

/-- The invoices the settlement reads are those before the phase. -/
theorem sameInvoices (processed : Processed db tx ctx db' result direction postings) :
    (confirmation db' result ctx.now).1.invoices = db.invoices := by
  rw [confirmation_tables, processed.tables]

/-- The entries the settlement reads are those after the booking. -/
theorem entriesAtSettlement (processed : Processed db tx ctx db' result direction postings) :
    LedgerEntryRepo.entriesFor (confirmation db' result ctx.now).1 tx.txid =
      LedgerEntryRepo.entriesFor db tx.txid ++
        postings.map fun posting => posting.entry tx ctx direction := by
  rw [← processed.ownEntries, confirmation_tables]
  rfl

end Processed

/-- Which invoice awaits an output depends on the invoices only. -/
theorem invoiceAwaiting_congr {db db' : Database} (same : db'.invoices = db.invoices)
    (output : DecodedOutput) : invoiceAwaiting db' output = invoiceAwaiting db output := by
  simp only [invoiceAwaiting, InvoiceRepo.getOpenByAddress, InvoiceRepo.openAt, same]

/-- Which invoice is settled first depends on the invoices only. -/
theorem firstSettlement_congr {db db' : Database} (same : db'.invoices = db.invoices)
    (outputs : List DecodedOutput) : firstSettlement db' outputs = firstSettlement db outputs := by
  simp only [firstSettlement, invoiceAwaiting_congr same]

namespace Processed

variable {db db' : Database} {tx : DecodedTx} {ctx : TxContext} {result : TxProcessingResult}
  {direction : Direction} {postings : List Posting}

/-- The uniqueness of a settlement, told from the tables of before. -/
theorem settlementUnique_iff (processed : Processed db tx ctx db' result direction postings) :
    SettlementUnique (confirmation db' result ctx.now).1 result.txid tx.vout ↔
      (LedgerEntryRepo.entriesFor db tx.txid).length + (bookedHoldings db tx).card ≤ 1 ∨
        ∀ output ∈ tx.vout, invoiceAwaiting db output = none := by
  rw [SettlementUnique, processed.txid, processed.entriesAtSettlement, List.length_append,
    List.length_map, processed.length_postings]
  simp only [invoiceAwaiting_congr processed.sameInvoices]

/-- The invoices after the settlement, told from the tables of before. -/
theorem settledInvoices_eq (processed : Processed db tx ctx db' result direction postings) :
    (afterInvoice db' result tx ctx.now).1.invoices =
      if SettlementActive db tx then settledInvoices db tx (entryToSettle db tx postings)
      else db.invoices := by
  rw [afterInvoice, invoiceStep]
  by_cases active : SettlementActive db tx
  · rw [if_neg (processed.active_iff.mpr active), if_pos active, settlement, processed.txid,
      processed.entriesAtSettlement, firstSettlement_congr processed.sameInvoices]
    unfold settledInvoices
    have sameHead : entryToSettle db tx postings =
        (LedgerEntryRepo.entriesFor db tx.txid ++
          postings.map fun posting => posting.entry tx ctx direction).head?.map
            LedgerEntryRow.id := by
      rw [← List.head?_map, List.map_append, List.map_map]
      rfl
    rw [sameHead]
    cases (LedgerEntryRepo.entriesFor db tx.txid ++
        postings.map fun posting => posting.entry tx ctx direction).head? with
    | none => exact processed.sameInvoices
    | some entry =>
        cases firstSettlement db tx.vout with
        | none => exact processed.sameInvoices
        | some settled =>
            simp only [InvoiceRepo.markPaid, Option.map_some, processed.sameInvoices]
  · rw [if_pos (not_not.mp (mt processed.active_iff.mp active)), if_neg active]
    exact processed.sameInvoices

/-- The executions of a transaction are as many as before. -/
theorem length_executionsFor (processed : Processed db tx ctx db' result direction postings) :
    (SweepExecutionRepo.executionsFor (afterInvoice db' result tx ctx.now).1 result.txid).length =
      (SweepExecutionRepo.executionsFor db tx.txid).length := by
  rw [afterInvoice, invoiceStep_tables, processed.txid]
  refine (length_executionsFor_confirmation db' result ctx.now tx.txid).trans ?_
  rw [processed.tables]
  rfl

end Processed

/-- What the phase has done, in terms of the database before it. -/
structure Handled (db : Database) (tx : DecodedTx) (ctx : TxContext) (db' : Database)
    (direction : Direction) (postings : List Posting) : Prop where
  processed : ∃ chainDb result, Processed db tx ctx chainDb result direction postings ∧
    db' = { chainDb with
      paymentRequests := db'.paymentRequests
      invoices := db'.invoices
      sweepExecutions := db'.sweepExecutions }
  requests : db'.paymentRequests = confirmedRequests db tx ctx (entryToLink db tx postings)
  invoices : db'.invoices =
    if SettlementActive db tx then settledInvoices db tx (entryToSettle db tx postings)
    else db.invoices

section Rows

variable {db db' : Database} {tx : DecodedTx} {ctx : TxContext} {direction : Direction}
  {postings : List Posting}

/-- The requests that were broadcast as a transaction. -/
theorem mem_requestsFor {txid : Txid} {request : PaymentRequestRow} :
    request ∈ PaymentRequestRepo.requestsFor db txid ↔
      request ∈ db.paymentRequests.rows ∧ request.broadcastTxid = some txid.text := by
  rw [PaymentRequestRepo.requestsFor, Table.mem_select, decide_eq_true_iff]

/-- The requests after the phase: at most the one under the transaction is confirmed. -/
theorem Handled.get?_request (handled : Handled db tx ctx db' direction postings)
    (requestId : Uuid) :
    db'.paymentRequests.get? requestId = db.paymentRequests.get? requestId ∨
      ∃ request entryId, (PaymentRequestRepo.requestsFor db tx.txid).head? = some request ∧
        request.status = .broadcast ∧ entryToLink db tx postings = some entryId ∧
        ctx.confirmationHeight.isSome ∧ requestId = request.id ∧
        db'.paymentRequests.get? requestId = some (request.confirmed entryId ctx.now) := by
  rw [handled.requests]
  unfold confirmedRequests
  split
  · rename_i height entryId request confirmed linked head
    split
    · rename_i waits
      simp only [PaymentRequestRepo.markConfirmed, PaymentRequestRepo.modify, Table.get?_update]
      split
      · rename_i same
        have stored : request ∈ db.paymentRequests.rows :=
          (mem_requestsFor.mp (List.mem_of_head? head)).1
        have found : db.paymentRequests.get? request.id = some request := Table.get?_of_mem stored
        refine Or.inr ⟨request, entryId, head, waits, linked, ?_, same, ?_⟩
        · rw [confirmed]
          rfl
        · rw [found, Option.map_some]
      · exact Or.inl rfl
    · exact Or.inl rfl
  · exact Or.inl rfl

/-- With an entry to link, the request under the transaction is confirmed. -/
theorem Handled.get?_confirmed (handled : Handled db tx ctx db' direction postings)
    (confirmed : ctx.confirmationHeight.isSome) {entryId : Uuid}
    (linked : entryToLink db tx postings = some entryId) {request : PaymentRequestRow}
    (head : (PaymentRequestRepo.requestsFor db tx.txid).head? = some request)
    (waits : request.status = .broadcast) :
    db'.paymentRequests.get? request.id = some (request.confirmed entryId ctx.now) := by
  obtain ⟨height, same⟩ := Option.isSome_iff_exists.mp confirmed
  have stored : request ∈ db.paymentRequests.rows :=
    (mem_requestsFor.mp (List.mem_of_head? head)).1
  have found : db.paymentRequests.get? request.id = some request := Table.get?_of_mem stored
  rw [handled.requests]
  unfold confirmedRequests
  simp only [same, linked, head, if_pos waits, PaymentRequestRepo.markConfirmed,
    PaymentRequestRepo.modify, Table.get?_update, if_true, found, Option.map_some]

/-- The invoice the phase settles, with the entry and the value it is settled with. -/
def settledInvoice (db : Database) (tx : DecodedTx) (entryId : Option Uuid) :
    Option (InvoiceRow × Nat × Uuid) :=
  if SettlementActive db tx then
    entryId.bind fun entryId =>
      (firstSettlement db tx.vout).map fun (invoice, valueSats) => (invoice, valueSats, entryId)
  else none

/-- What a settlement takes: an active one, an entry, and an invoice that awaits the payment. -/
theorem settledInvoice_some {entryId : Option Uuid} {invoice : InvoiceRow} {valueSats : Nat}
    {settledWith : Uuid}
    (settled : settledInvoice db tx entryId = some (invoice, valueSats, settledWith)) :
    SettlementActive db tx ∧ entryId = some settledWith ∧
      firstSettlement db tx.vout = some (invoice, valueSats) := by
  rw [settledInvoice] at settled
  split at settled
  · rename_i active
    obtain ⟨entry, chosen, mapped⟩ := Option.bind_eq_some_iff.mp settled
    obtain ⟨pair, first, same⟩ := Option.map_eq_some_iff.mp mapped
    cases same
    exact ⟨active, chosen, first⟩
  · cases settled

/-- There is an entry to link exactly when the transaction has or gets one. -/
theorem Handled.entryToLink_isSome (handled : Handled db tx ctx db' direction postings) :
    (entryToLink db tx postings).isSome ↔
      bookedHoldings db tx ≠ ∅ ∨ LedgerEntryRepo.entriesFor db tx.txid ≠ [] := by
  obtain ⟨chainDb, result, processed, -⟩ := handled.processed
  rw [Ne, ← processed.postings_eq_nil_iff]
  cases postings with
  | nil => cases existing : LedgerEntryRepo.entriesFor db tx.txid <;> simp [entryToLink, existing]
  | cons posting rest => simp [entryToLink]

/-- There is an entry to settle with exactly when there is one to link. -/
theorem Handled.entryToSettle_isSome (handled : Handled db tx ctx db' direction postings) :
    (entryToSettle db tx postings).isSome ↔
      bookedHoldings db tx ≠ ∅ ∨ LedgerEntryRepo.entriesFor db tx.txid ≠ [] := by
  rw [← handled.entryToLink_isSome]
  cases postings with
  | nil => cases existing : LedgerEntryRepo.entriesFor db tx.txid <;>
      simp [entryToSettle, entryToLink, existing]
  | cons posting rest => simp [entryToSettle, entryToLink]

/-- The invoices after the phase: the settled one is rewritten. -/
theorem Handled.get?_invoice (handled : Handled db tx ctx db' direction postings)
    (invoiceId : Uuid) :
    db'.invoices.get? invoiceId =
      match settledInvoice db tx (entryToSettle db tx postings) with
      | some (invoice, valueSats, entryId) =>
          if invoiceId = invoice.id then
            some (invoice.settled entryId (invoice.overpaidBy valueSats))
          else db.invoices.get? invoiceId
      | none => db.invoices.get? invoiceId := by
  rw [handled.invoices, settledInvoice]
  by_cases active : SettlementActive db tx
  · rw [if_pos active, if_pos active]
    unfold settledInvoices
    cases entryToSettle db tx postings with
    | none => rfl
    | some entryId =>
        cases found : firstSettlement db tx.vout with
        | none => rfl
        | some settled =>
            obtain ⟨invoice, valueSats⟩ := settled
            have stored : db.invoices.get? invoice.id = some invoice :=
              Table.get?_of_mem (firstSettlement_open found).1
            simp only [InvoiceRepo.markPaid, Table.get?_update, Option.bind_some, Option.map_some,
              stored]
  · rw [if_neg active, if_neg active]

end Rows

/-- On a well-formed database the phase completes exactly when its lookups are unique, and then this
    is what it has done. -/
theorem handleTxDb_spec {db : Database} (wellFormed : ChainWellFormed db) (tx : DecodedTx)
    (ctx : TxContext) :
    ∃ db' events direction postings, Handled db tx ctx db' direction postings ∧
      ∀ out, handleTxDb db tx ctx = .ok out ↔
        LookupsUnique db tx ctx.confirmationHeight.isSome ∧ out = (db', events) := by
  obtain ⟨chainDb, result, direction, postings, run, processed⟩ :=
    processDecodedTransaction_spec wellFormed tx ctx
  refine ⟨(afterSweep chainDb result tx ctx.now).1,
    ⟨result, (confirmation chainDb result ctx.now).2,
      (afterInvoice chainDb result tx ctx.now).2, (afterSweep chainDb result tx ctx.now).2⟩,
    direction, postings, ⟨⟨chainDb, result, processed, ?_⟩, ?_, ?_⟩, fun out => ?_⟩
  · rw [afterSweep_tables]
  · rw [afterSweep_tables, processed.confirmedRequests_eq]
  · rw [afterSweep_tables]
    exact processed.settledInvoices_eq
  · rw [handleTxDb_ok_iff_steps run, processed.confirmationUnique_iff, processed.active_iff,
      processed.settlementUnique_iff, processed.length_executionsFor, processed.confirmationHeight]
    constructor
    · rintro ⟨unique, settles, sweeps, same⟩
      exact ⟨⟨fun confirmed => (unique confirmed).1, fun confirmed => (unique confirmed).2, settles,
        sweeps⟩, same⟩
    · rintro ⟨unique, same⟩
      exact ⟨fun confirmed => ⟨unique.entry confirmed, unique.request confirmed⟩,
        unique.settlement, unique.execution, same⟩

/-- The phase completes exactly when its lookups are unique. -/
theorem handleTxDb_completes_iff {db : Database} (wellFormed : ChainWellFormed db)
    (tx : DecodedTx) (ctx : TxContext) :
    (∃ out, handleTxDb db tx ctx = .ok out) ↔
      LookupsUnique db tx ctx.confirmationHeight.isSome := by
  obtain ⟨db', events, direction, postings, -, ends⟩ := handleTxDb_spec wellFormed tx ctx
  constructor
  · rintro ⟨out, run⟩
    exact ((ends out).mp run).1
  · intro unique
    exact ⟨(db', events), (ends _).mpr ⟨unique, rfl⟩⟩

/-- What a completed phase has done. -/
theorem handled_of_ok {db db' : Database} {events : TxEvents} (wellFormed : ChainWellFormed db)
    {tx : DecodedTx} {ctx : TxContext} (run : handleTxDb db tx ctx = .ok (db', events)) :
    LookupsUnique db tx ctx.confirmationHeight.isSome ∧
      ∃ direction postings, Handled db tx ctx db' direction postings := by
  obtain ⟨final, finalEvents, direction, postings, handled, ends⟩ :=
    handleTxDb_spec wellFormed tx ctx
  obtain ⟨unique, same⟩ := (ends _).mp run
  cases same
  exact ⟨unique, direction, postings, handled⟩

end TallyKeep
