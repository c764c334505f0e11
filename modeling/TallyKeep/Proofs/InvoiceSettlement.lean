/-
Module: TallyKeep.Proofs.InvoiceSettlement
Layer: Proofs
Purpose: What the listener makes of the invoices a transaction pays, compared with the law that the
  sum of its outputs decides, and exactly when the two agree.
Trusted boundary: none
Main exports: InvoiceRow.totalPaid, SettlementLaw, SettledBy, SettlementExact, settlementLaw_iff
-/
import TallyKeep.Proofs.Confirmation
import Mathlib.Algebra.Order.BigOperators.Group.List
import Mathlib.Algebra.Order.Ring.Nat

namespace TallyKeep

open Relational Transition

/-! ### The law -/

/-- The output pays the address that the invoice waits on. -/
def InvoiceRow.PaidBy (invoice : InvoiceRow) (output : DecodedOutput) : Prop :=
  invoice.receivingAddress.isSome ∧ output.address = invoice.receivingAddress

instance (invoice : InvoiceRow) (output : DecodedOutput) : Decidable (invoice.PaidBy output) :=
  inferInstanceAs (Decidable (_ ∧ _))

/-- The value of an output in satoshis. -/
def DecodedOutput.sats (output : DecodedOutput) : Nat := (output.value.map btcToSats).getD 0

/-- The sum of the outputs that pay the address of the invoice. -/
def InvoiceRow.totalPaid (invoice : InvoiceRow) (tx : DecodedTx) : Nat :=
  ((tx.vout.filter fun output => decide (invoice.PaidBy output)).map DecodedOutput.sats).sum

/-- The invoice is OPEN and the transaction pays it. -/
def InvoiceRow.OpenAndPaid (invoice : InvoiceRow) (tx : DecodedTx) : Prop :=
  invoice.status = .open ∧ 0 < invoice.totalPaid tx

instance (invoice : InvoiceRow) (tx : DecodedTx) : Decidable (invoice.OpenAndPaid tx) :=
  inferInstanceAs (Decidable (_ ∧ _))

/-- What has to become of an OPEN invoice that a total is paid to. -/
structure StatusLaw (amountSats : Option Int) (total : Nat) (status : InvoiceStatus) : Prop where
  overpaid : status = .overpaid ↔ ∃ amount, amountSats = some amount ∧ amount < total
  paid : status = .paid ↔ amountSats = none ∨ amountSats = some (total : Int)
  stays : status = .open ↔ ∃ amount, amountSats = some amount ∧ (total : Int) < amount

/-- Every OPEN invoice that the transaction pays is settled by its total, and no other one
    changes. -/
structure SettlementLaw (db db' : Database) (tx : DecodedTx) : Prop where
  settled : ∀ invoice ∈ db.invoices.rows, invoice.OpenAndPaid tx →
    ∃ invoice', db'.invoices.get? invoice.id = some invoice' ∧
      StatusLaw invoice.amountSats (invoice.totalPaid tx) invoice'.status
  others : ∀ invoiceId,
    (∀ invoice, db.invoices.get? invoiceId = some invoice → ¬invoice.OpenAndPaid tx) →
      db'.invoices.get? invoiceId = db.invoices.get? invoiceId

namespace StatusLaw

variable {amountSats : Option Int} {total : Nat}

theorem of_more {amount : Int} (more : amount < total) : StatusLaw (some amount) total .overpaid := by
  refine ⟨?_, ?_, ?_⟩
  · simpa using more
  · simpa using more.ne
  · simpa using more.le

theorem of_match (settles : amountSats = none ∨ amountSats = some (total : Int)) :
    StatusLaw amountSats total .paid := by
  rcases settles with rfl | rfl
  · exact ⟨by simp, by simp, by simp⟩
  · exact ⟨by simp, by simp, by simp⟩

theorem of_less {amount : Int} (less : (total : Int) < amount) :
    StatusLaw (some amount) total .open := by
  refine ⟨?_, ?_, ?_⟩
  · simpa using less.le
  · simpa using less.ne'
  · simpa using less

end StatusLaw

/-! ### What the listener does -/

/-- The delivery settles the invoice by an output of the value: the phase completes, it has
    something new and an entry, and this is the first output with a value that pays an address with
    an OPEN invoice, the invoice being the youngest such. -/
structure SettledBy (db : Database) (tx : DecodedTx) (confirmed : Prop) (invoice : InvoiceRow)
    (valueSats : Nat) : Prop where
  completes : LookupsUnique db tx confirmed
  active : SettlementActive db tx
  entry : bookedHoldings db tx ≠ ∅ ∨ LedgerEntryRepo.entriesFor db tx.txid ≠ []
  first : firstSettlement db tx.vout = some (invoice, valueSats)

/-- The invoice is paid less than it asks for. -/
def InvoiceRow.Underpaid (invoice : InvoiceRow) (tx : DecodedTx) : Prop :=
  ∃ amount, invoice.amountSats = some amount ∧ (invoice.totalPaid tx : Int) < amount

/-- The settlement is as the law has it: the settled invoice is paid something, by one output more
    than its amount or in total just its amount, and every other one that is paid is underpaid. -/
structure SettlementExact (db : Database) (tx : DecodedTx) (confirmed : Prop) : Prop where
  matched : ∀ invoice valueSats, SettledBy db tx confirmed invoice valueSats →
    0 < invoice.totalPaid tx ∧ ∀ amount, invoice.amountSats = some amount →
      amount < valueSats ∨ amount = invoice.totalPaid tx
  unmatched : ∀ invoice ∈ db.invoices.rows, invoice.OpenAndPaid tx →
    (∀ valueSats, ¬SettledBy db tx confirmed invoice valueSats) → invoice.Underpaid tx

/-- The settled invoice is a stored OPEN one, and what settles it counts in its total. -/
theorem SettledBy.invoice_open {db : Database} {tx : DecodedTx} {confirmed : Prop}
    {invoice : InvoiceRow} {valueSats : Nat}
    (settled : SettledBy db tx confirmed invoice valueSats) :
    db.invoices.get? invoice.id = some invoice ∧ invoice.status = .open ∧
      valueSats ≤ invoice.totalPaid tx := by
  obtain ⟨stored, isOpen⟩ := firstSettlement_open settled.first
  refine ⟨Table.get?_of_mem stored, isOpen, ?_⟩
  obtain ⟨output, member, waits, value⟩ := firstSettlement_some settled.first
  obtain ⟨address, named, -, listed⟩ := invoiceAwaiting_some waits
  have waitsAt : invoice.receivingAddress = some address := (mem_openAt.mp listed).2.1
  have paid : invoice.PaidBy output := by
    rw [InvoiceRow.PaidBy, waitsAt, named]
    exact ⟨rfl, rfl⟩
  have counted : output.sats ∈
      (tx.vout.filter fun output => decide (invoice.PaidBy output)).map DecodedOutput.sats :=
    List.mem_map_of_mem (List.mem_filter.mpr ⟨member, decide_eq_true paid⟩)
  have same : output.sats = valueSats := by simp [DecodedOutput.sats, value]
  rw [← same]
  exact List.single_le_sum (fun _ _ => Nat.zero_le _) _ counted

/-! ### The invoices after a delivery -/

/-- The committed invoices after a delivery: the settled one is rewritten, or nothing is. -/
theorem committed_invoices {db : Database} (wellFormed : ChainWellFormed db) (tx : DecodedTx)
    (ctx : TxContext) :
    (∃ invoice valueSats entryId,
        SettledBy db tx ctx.confirmationHeight.isSome invoice valueSats ∧
          ∀ invoiceId, (committed db (handleTxDb db tx ctx)).invoices.get? invoiceId =
            if invoiceId = invoice.id then
              some (invoice.settled entryId (invoice.overpaidBy valueSats))
            else db.invoices.get? invoiceId) ∨
      (∀ invoice valueSats, ¬SettledBy db tx ctx.confirmationHeight.isSome invoice valueSats) ∧
        ∀ invoiceId, (committed db (handleTxDb db tx ctx)).invoices.get? invoiceId =
          db.invoices.get? invoiceId := by
  obtain ⟨db', events, direction, postings, handled, ends⟩ := handleTxDb_spec wellFormed tx ctx
  by_cases unique : LookupsUnique db tx ctx.confirmationHeight.isSome
  · have run := (ends (db', events)).mpr ⟨unique, rfl⟩
    rw [run]
    have after := handled.get?_invoice
    cases settled : settledInvoice db tx (entryToSettle db tx postings) with
    | some settlement =>
        obtain ⟨invoice, valueSats, entryId⟩ := settlement
        simp only [settled] at after
        obtain ⟨active, chosen, first⟩ := settledInvoice_some settled
        have entry := handled.entryToSettle_isSome.mp (Option.isSome_iff_exists.mpr ⟨_, chosen⟩)
        exact Or.inl ⟨invoice, valueSats, entryId, ⟨unique, active, entry, first⟩, after⟩
    | none =>
        simp only [settled] at after
        refine Or.inr ⟨?_, after⟩
        intro invoice valueSats isSettled
        obtain ⟨entryId, chosen⟩ :=
          Option.isSome_iff_exists.mp (handled.entryToSettle_isSome.mpr isSettled.entry)
        rw [settledInvoice, if_pos isSettled.active, chosen, isSettled.first] at settled
        cases settled
  · refine Or.inr ⟨fun _ _ settled => unique settled.completes, ?_⟩
    cases run : handleTxDb db tx ctx with
    | error error => exact fun _ => rfl
    | ok out => exact absurd ((ends out).mp run).1 unique

/-- A settled invoice has the status of the law exactly when one output exceeds its amount or the
    total is just its amount. -/
theorem statusLaw_settled_iff {amountSats : Option Int} {total valueSats : Nat}
    (counted : valueSats ≤ total) :
    StatusLaw amountSats total
        (if amountSats.any fun amount => decide (amount < (valueSats : Int)) then .overpaid
          else .paid) ↔
      ∀ amount, amountSats = some amount → amount < valueSats ∨ amount = total := by
  cases amountSats with
  | none => simpa using StatusLaw.of_match (Or.inl rfl)
  | some amount =>
      simp only [Option.any_some, decide_eq_true_eq, Option.some.injEq, forall_eq']
      by_cases more : amount < (valueSats : Int)
      · rw [if_pos more]
        exact iff_of_true (.of_more (by omega)) (Or.inl more)
      · rw [if_neg more]
        constructor
        · intro law
          rcases law.paid.mp rfl with none | same
          · cases none
          · exact Or.inr (Option.some.inj same)
        · rintro (less | rfl)
          · exact absurd less more
          · exact .of_match (Or.inr rfl)

section Law

variable {db db' : Database} {tx : DecodedTx} {confirmed : Prop}

/-- Where one invoice is settled. -/
theorem settlementLaw_of_settled {invoice : InvoiceRow} {valueSats : Nat} {entryId : Uuid}
    (settled : SettledBy db tx confirmed invoice valueSats)
    (after : ∀ invoiceId, db'.invoices.get? invoiceId =
      if invoiceId = invoice.id then some (invoice.settled entryId (invoice.overpaidBy valueSats))
      else db.invoices.get? invoiceId) :
    SettlementLaw db db' tx ↔ SettlementExact db tx confirmed := by
  obtain ⟨stored, isOpen, counted⟩ := settled.invoice_open
  have only : ∀ other value, SettledBy db tx confirmed other value → other = invoice ∧
      value = valueSats := by
    intro other value otherSettled
    have same := otherSettled.first.symm.trans settled.first
    rw [Option.some.injEq, Prod.mk.injEq] at same
    exact same
  have here : db'.invoices.get? invoice.id =
      some (invoice.settled entryId (invoice.overpaidBy valueSats)) := by
    rw [after, if_pos rfl]
  have elsewhere : ∀ other ∈ db.invoices.rows,
      (∀ value, ¬SettledBy db tx confirmed other value) →
        db'.invoices.get? other.id = some other := by
    intro other member unsettled
    have apart : other.id ≠ invoice.id := by
      intro sameId
      have same := Table.eq_of_key_eq member (Table.mem_of_get? stored) sameId
      rw [same] at unsettled
      exact unsettled valueSats settled
    rw [after, if_neg apart]
    exact Table.get?_of_mem member
  constructor
  · intro law
    refine ⟨?_, ?_⟩
    · intro other value otherSettled
      obtain ⟨rfl, rfl⟩ := only other value otherSettled
      have paid : 0 < other.totalPaid tx := by
        by_contra nothing
        have unchanged := law.others other.id (by
          intro found same
          rw [stored, Option.some.injEq] at same
          rw [← same]
          exact fun openAndPaid => nothing openAndPaid.2)
        rw [here, stored, Option.some.injEq] at unchanged
        have stays := congrArg InvoiceRow.status unchanged
        rw [isOpen] at stays
        simp only [InvoiceRow.settled] at stays
        split at stays <;> cases stays
      obtain ⟨invoice', found, status⟩ :=
        law.settled other (Table.mem_of_get? stored) ⟨isOpen, paid⟩
      rw [here, Option.some.injEq] at found
      rw [← found] at status
      exact ⟨paid, (statusLaw_settled_iff counted).mp status⟩
    · intro other member openAndPaid unsettled
      obtain ⟨invoice', found, status⟩ := law.settled other member openAndPaid
      rw [elsewhere other member unsettled, Option.some.injEq] at found
      rw [← found] at status
      exact status.stays.mp openAndPaid.1
  · intro exact
    obtain ⟨paid, amounts⟩ := exact.matched invoice valueSats settled
    refine ⟨?_, ?_⟩
    · intro other member openAndPaid
      by_cases same : other.id = invoice.id
      · have sameRow := Table.eq_of_key_eq member (Table.mem_of_get? stored) same
        rw [sameRow]
        exact ⟨_, here, (statusLaw_settled_iff counted).mpr amounts⟩
      · have unsettled : ∀ value, ¬SettledBy db tx confirmed other value := by
          intro value otherSettled
          exact same (congrArg InvoiceRow.id (only other value otherSettled).1)
        obtain ⟨amount, asked, less⟩ := exact.unmatched other member openAndPaid unsettled
        refine ⟨other, elsewhere other member unsettled, ?_⟩
        rw [asked, openAndPaid.1]
        exact .of_less less
    · intro invoiceId notPaid
      rw [after, if_neg]
      rintro rfl
      exact notPaid invoice stored ⟨isOpen, paid⟩

/-- Where nothing is settled. -/
theorem settlementLaw_of_unsettled
    (unsettled : ∀ invoice valueSats, ¬SettledBy db tx confirmed invoice valueSats)
    (after : ∀ invoiceId, db'.invoices.get? invoiceId = db.invoices.get? invoiceId) :
    SettlementLaw db db' tx ↔ SettlementExact db tx confirmed := by
  constructor
  · intro law
    refine ⟨fun invoice valueSats settled => absurd settled (unsettled invoice valueSats), ?_⟩
    intro invoice member openAndPaid _
    obtain ⟨invoice', found, status⟩ := law.settled invoice member openAndPaid
    have stored : db.invoices.get? invoice.id = some invoice := Table.get?_of_mem member
    rw [after, stored, Option.some.injEq] at found
    rw [← found] at status
    exact status.stays.mp openAndPaid.1
  · intro exact
    refine ⟨?_, fun invoiceId _ => after invoiceId⟩
    intro invoice member openAndPaid
    obtain ⟨amount, asked, less⟩ :=
      exact.unmatched invoice member openAndPaid (unsettled invoice)
    refine ⟨invoice, ?_, ?_⟩
    · rw [after]
      exact Table.get?_of_mem member
    · rw [asked, openAndPaid.1]
      exact .of_less less

end Law

variable {Psbt Tx : Type}

/-- In every reachable state a delivery treats the invoices by the law exactly when the one it
    settles, if any, is exceeded by a single output or matched in total, and every other one is
    underpaid. -/
theorem settlementLaw_iff {bdk : Bdk Psbt Tx} {chain : Chain} {db : Database}
    (reached : Reached bdk chain db) (tx : DecodedTx) (ctx : TxContext) :
    SettlementLaw db (committed db (handleTxDb db tx ctx)) tx ↔
      SettlementExact db tx ctx.confirmationHeight.isSome := by
  have wellFormed := (sound_of_reached reached).wellFormed
  rcases committed_invoices wellFormed tx ctx with
    ⟨invoice, valueSats, entryId, settled, after⟩ | ⟨unsettled, after⟩
  · exact settlementLaw_of_settled settled after
  · exact settlementLaw_of_unsettled unsettled after

/-! ### One invoice -/

/-- The first holding asks for an amount. -/
def invoiceOperations (amountSats : Int) : List Operation :=
  setupOperations 10 20 ++ [.createInvoice ⟨10, some amountSats, none, "2026-01-01"⟩]

/-- Where the invoice waits. -/
def invoiceWaiting (amountSats : Int) : Database :=
  (invoiceOperations amountSats).foldl (step sampleBdk) Database.empty

theorem invoiceWaiting_reached (amountSats : Int) :
    Reached sampleBdk sampleChain (invoiceWaiting amountSats) := by
  apply reached_of_legal
  simp only [invoiceOperations, setupOperations, List.cons_append, List.nil_append,
    List.forall_mem_cons, List.not_mem_nil, false_implies, implies_true, Legal, and_true]

/-- An invoice over what the payment pays is settled as the law has it. -/
theorem settlementLaw_iff_payment :
    SettlementLaw (invoiceWaiting 100000)
      (committed (invoiceWaiting 100000)
        (handleTxDb (invoiceWaiting 100000) samplePayment (sampleCall none))) samplePayment := by
  apply (settlementLaw_iff (invoiceWaiting_reached 100000) samplePayment (sampleCall none)).mpr
  have first : ∀ invoice ∈ (invoiceWaiting 100000).invoices.rows,
      firstSettlement (invoiceWaiting 100000) samplePayment.vout = some (invoice, 100000) ∧
        invoice.amountSats = some 100000 ∧ invoice.totalPaid samplePayment = 100000 := by
    decide +kernel
  refine ⟨?_, ?_⟩
  · intro invoice valueSats settled
    have stored := Table.mem_of_get? settled.invoice_open.1
    obtain ⟨-, asked, total⟩ := first invoice stored
    rw [asked, total]
    refine ⟨by omega, fun amount same => Or.inr ?_⟩
    cases same
    rfl
  · intro invoice stored _ unsettled
    refine absurd ⟨?_, ?_, ?_, (first invoice stored).1⟩ (unsettled 100000)
    · refine ⟨nofun, nofun, fun _ => Or.inl ?_, nofun⟩
      decide
    · decide
    · decide

/-- An invoice over more than the payment pays is settled all the same. -/
theorem not_settlementLaw_of_underpayment :
    Reached sampleBdk sampleChain (invoiceWaiting 150000) ∧
      (invoiceWaiting 150000).onchainTransactions.get? samplePayment.txid = none ∧
      ¬SettlementLaw (invoiceWaiting 150000)
        (committed (invoiceWaiting 150000)
          (handleTxDb (invoiceWaiting 150000) samplePayment (sampleCall none))) samplePayment := by
  refine ⟨invoiceWaiting_reached 150000, by decide, ?_⟩
  intro law
  have marked : ∃ invoice ∈ (invoiceWaiting 150000).invoices.rows,
      invoice.OpenAndPaid samplePayment ∧ invoice.amountSats = some 150000 ∧
        invoice.totalPaid samplePayment = 100000 ∧
        ((committed (invoiceWaiting 150000) (handleTxDb (invoiceWaiting 150000) samplePayment
          (sampleCall none))).invoices.get? invoice.id).map InvoiceRow.status = some .paid := by
    decide +kernel
  obtain ⟨invoice, stored, openAndPaid, asked, total, after⟩ := marked
  obtain ⟨invoice', found, status⟩ := law.settled invoice stored openAndPaid
  rw [found, Option.map_some, Option.some.injEq] at after
  rw [asked, total] at status
  rcases status.paid.mp after with none | same
  · cases none
  · cases same

end TallyKeep
