/-
Module: TallyKeep.Proofs.DeletionRefinement
Layer: Proofs
Purpose: The deletion of a holding as one step of the system is what the statements of
  `delete_cascade` come to on a database with all tables and their foreign keys.
Trusted boundary: none
Main exports: StoreOf, TreasuryReleases, deleteHolding_ok_iff, deleteRows_returns_iff,
  deleteCascade_refines, exists_store
-/
import TallyKeep.Proofs.CleanDeletion
import TallyKeep.Proofs.References

namespace TallyKeep

open ForeignKeys Relational

variable {Psbt Tx : Type} {bdk : Bdk Psbt Tx} {chain : Chain}

/-! ### The two databases -/

/-- The tables of the chain and banking side. -/
def TableName.ofChain : TableName → Bool
  | holding | descriptor | address | utxo | ledgerEntry | ledgerEntryHoldingLink | paymentRequest
  | broadcastAttempt | invoice | sweepExecution => true
  | _ => false

/-- In the tables of the chain and banking side the store has the rows of the database. -/
def StoreOf (db : Database) (store : LinkedStore) : Prop :=
  ∀ table : TableName, table.ofChain = true →
    store.rows.filter (fun row => decide (row.table = table)) = db.recordsIn table

/-- What the other tables must allow: no provider withdraws to a descriptor of the holding, and its
    custodial entries are those of its own provider. -/
structure TreasuryReleases (store : LinkedStore) (holdingId : Uuid) : Prop where
  whitelists : ∀ provider, .custodialProvider provider ∈ store.rows →
    ∀ descriptorId, provider.whitelistAddressDescriptorId = some descriptorId →
      descriptorId ∉ descSubq store holdingId
  mirrors : ∀ entry, .custodialLedgerEntry entry ∈ store.rows → entry.holdingId = holdingId →
    entry.custodialProviderId ∈ providerIds store holdingId

namespace StoreOf

variable {db : Database} {store : LinkedStore} {holdingId : Uuid}

/-- A row of the store is a record of its table. -/
theorem mem_iff (same : StoreOf db store) {row : Record} (here : row.table.ofChain = true) :
    row ∈ store.rows ↔ row ∈ db.recordsIn row.table := by
  rw [← same row.table here, List.mem_filter, decide_eq_true_eq]
  exact (and_iff_left rfl).symm

/-- Rows of one kind are the same on both sides. -/
theorem record_mem_iff (same : StoreOf db store) {α : Type} {record : α → Record}
    (injective : Function.Injective record) {rows : List α} {row : α}
    (here : (record row).table.ofChain = true)
    (listed : db.recordsIn (record row).table = rows.map record) :
    record row ∈ store.rows ↔ row ∈ rows := by
  rw [same.mem_iff here, listed, List.mem_map_of_injective injective]

/-- The links of the store are the ones of the ledger. -/
theorem link_mem_iff (same : StoreOf db store) {link : LedgerEntryHoldingLinkRow} :
    .ledgerEntryHoldingLink link ∈ store.rows ↔ link ∈ db.ledgerLinks.rows :=
  same.record_mem_iff (fun _ _ => Record.ledgerEntryHoldingLink.inj) rfl rfl

/-- The coins of the store are the ones of the treasury. -/
theorem coin_mem_iff (same : StoreOf db store) {coin : UtxoRow} :
    .utxo coin ∈ store.rows ↔ coin ∈ db.utxos.rows :=
  same.record_mem_iff (fun _ _ => Record.utxo.inj) rfl rfl

/-- The invoices of the store are the ones of the treasury. -/
theorem invoice_mem_iff (same : StoreOf db store) {invoice : InvoiceRow} :
    .invoice invoice ∈ store.rows ↔ invoice ∈ db.invoices.rows :=
  same.record_mem_iff (fun _ _ => Record.invoice.inj) rfl rfl

/-- The ids that satisfy a condition, told from the records. -/
theorem idsWhere (same : StoreOf db store) {table : TableName} (here : table.ofChain = true)
    (condition : Record → Bool) :
    store.idsWhere table condition = ((db.recordsIn table).filter condition).map Record.id := by
  rw [Store.idsWhere, ← same table here, List.filter_filter]
  congr 1
  apply List.filter_congr
  intro row _
  exact Bool.and_comm _ _

/-- The descriptors of the deleted holding. -/
theorem mem_descSubq (same : StoreOf db store) {descriptorId : Uuid} :
    descriptorId ∈ descSubq store holdingId ↔ db.heldBy holdingId descriptorId = true := by
  rw [descSubq, same.idsWhere rfl, Database.heldBy, decide_eq_true_eq, Database.holdingOf,
    Option.map_eq_some_iff]
  simp only [List.mem_map, List.mem_filter, columnIs_iff, Database.recordsIn]
  constructor
  · rintro ⟨_, ⟨⟨row, stored, rfl⟩, owned⟩, rfl⟩
    refine ⟨row, Table.get?_of_mem stored, ?_⟩
    exact (congrArg Prod.snd (List.mem_singleton.mp owned)).symm
  · rintro ⟨row, found, rfl⟩
    exact ⟨.descriptor row, ⟨⟨row, Table.mem_of_get? found, rfl⟩, List.mem_singleton_self _⟩,
      Table.key_of_get? found⟩

/-- The addresses of the deleted holding. -/
theorem mem_addressIds (same : StoreOf db store) {addressId : Uuid} :
    addressId ∈ addressIds store holdingId ↔
      ∃ address, db.addresses.get? addressId = some address ∧
        db.heldBy holdingId address.descriptorId = true := by
  rw [addressIds, same.idsWhere rfl]
  simp only [List.mem_map, List.mem_filter, Database.recordsIn]
  constructor
  · rintro ⟨_, ⟨⟨row, stored, rfl⟩, owned⟩, rfl⟩
    obtain ⟨descriptorId, held, refers⟩ := columnIn_iff.mp owned
    refine ⟨row, Table.get?_of_mem stored, ?_⟩
    cases List.mem_singleton.mp refers
    exact same.mem_descSubq.mp held
  · rintro ⟨row, found, held⟩
    refine ⟨.address row, ⟨⟨row, Table.mem_of_get? found, rfl⟩, ?_⟩, Table.key_of_get? found⟩
    exact columnIn_iff.mpr ⟨_, same.mem_descSubq.mpr held, List.mem_singleton_self _⟩

/-- The requests of the deleted holding. -/
theorem mem_prSubq (same : StoreOf db store) {requestId : Uuid} :
    requestId ∈ prSubq store holdingId ↔ requestId ∈ (db.paymentRequests.select fun row =>
      decide (row.holdingId = holdingId)).map PaymentRequestRow.id := by
  rw [prSubq, same.idsWhere rfl]
  simp only [List.mem_map, List.mem_filter, Database.recordsIn, Table.mem_select, columnIs_iff,
    decide_eq_true_eq]
  constructor
  · rintro ⟨_, ⟨⟨row, stored, rfl⟩, owned⟩, rfl⟩
    have own := references_functional owned (List.mem_cons_self : (Column.requestHolding, _) ∈ _)
    exact ⟨row, ⟨stored, own.symm⟩, rfl⟩
  · rintro ⟨row, ⟨stored, rfl⟩, rfl⟩
    exact ⟨.paymentRequest row, ⟨⟨row, stored, rfl⟩, List.mem_cons_self⟩, rfl⟩

/-- The executions of the deleted policies. -/
theorem mem_executionSubq (same : StoreOf db store) {executionId : Uuid} :
    executionId ∈ executionSubq store holdingId ↔ executionId ∈ (db.sweepExecutions.select fun row =>
      decide (row.sweepPolicyId ∈ policySubq store holdingId)).map SweepExecutionRow.id := by
  rw [executionSubq, same.idsWhere rfl]
  simp only [List.mem_map, List.mem_filter, Database.recordsIn, Table.mem_select, columnIn_iff,
    decide_eq_true_eq]
  constructor
  · rintro ⟨_, ⟨⟨row, stored, rfl⟩, policyId, listed, refers⟩, rfl⟩
    cases List.mem_singleton.mp refers
    exact ⟨row, ⟨stored, listed⟩, rfl⟩
  · rintro ⟨row, ⟨stored, listed⟩, rfl⟩
    exact ⟨.sweepExecution row, ⟨⟨row, stored, rfl⟩, _, listed, List.mem_singleton_self _⟩, rfl⟩

/-- The entries that are linked to the deleted holding. -/
theorem mem_linkedEntryIds (same : StoreOf db store) {entryId : Uuid} :
    entryId ∈ linkedEntryIds store holdingId ↔ entryId ∈ candidateIds db holdingId := by
  rw [linkedEntryIds, Store.mem_valuesWhere, candidateIds]
  simp only [List.mem_map, Table.mem_select, decide_eq_true_eq]
  constructor
  · rintro ⟨row, stored, owned, refers⟩
    have inSource := row.table_of_reference _ refers
    cases row <;> cases inSource
    rename_i link
    have present := same.link_mem_iff.mp stored
    have own := references_functional (columnIs_iff.mp owned)
      (List.mem_cons_of_mem _ (List.mem_singleton_self (Column.linkHolding, link.holdingId)))
    have listed : (.linkLedgerEntry, link.ledgerEntryId) ∈
        (Record.ledgerEntryHoldingLink link).references := List.mem_cons_self
    have named := references_functional refers listed
    exact ⟨link, ⟨present, own.symm⟩, named.symm⟩
  · rintro ⟨link, ⟨present, rfl⟩, rfl⟩
    refine ⟨.ledgerEntryHoldingLink link, same.link_mem_iff.mpr present, columnIs_iff.mpr ?_,
      List.mem_cons_self⟩
    exact List.mem_cons_of_mem _ (List.mem_singleton_self _)

/-- The entries that go with the holding are the same. -/
theorem linkedOnlyTo_eq (same : StoreOf db store) (entryId : Uuid) :
    linkedOnlyTo store holdingId entryId = orphaned db holdingId entryId := by
  have candidates : decide (entryId ∈ linkedEntryIds store holdingId) =
      decide (entryId ∈ candidateIds db holdingId) := decide_eq_decide.mpr same.mem_linkedEntryIds
  have elsewhere : linkedElsewhere store holdingId entryId = db.ledgerLinks.rows.any fun link =>
      decide (link.ledgerEntryId = entryId ∧ link.holdingId ≠ holdingId) := by
    rw [Bool.eq_iff_iff, linkedElsewhere, List.any_eq_true, List.any_eq_true]
    constructor
    · rintro ⟨row, stored, hit⟩
      cases row with
      | ledgerEntryHoldingLink link => exact ⟨link, same.link_mem_iff.mp stored, hit⟩
      | _ => cases hit
    · rintro ⟨link, present, hit⟩
      exact ⟨.ledgerEntryHoldingLink link, same.link_mem_iff.mpr present, hit⟩
  rw [linkedOnlyTo, orphaned, candidates, elsewhere]

/-! ### What stands in the way -/

/-- No coin of another descriptor lies at an address of the holding, and no invoice holds one. -/
theorem unrestricted_address_iff (same : StoreOf db store) (referential : Referential db) :
    Unrestricted store holdingId 5 .address ↔ invoiceBlocksDeletion db holdingId = false := by
  rw [unrestricted_address]
  have coins : ∀ coin, .utxo coin ∈ store.rows → coin.addressId ∈ addressIds store holdingId →
      coin.descriptorId ∈ descSubq store holdingId := by
    intro coin stored listed
    obtain ⟨address, there, sameId, sameDescriptor⟩ :=
      referential.coins coin (same.coin_mem_iff.mp stored)
    obtain ⟨found, held, own⟩ := same.mem_addressIds.mp listed
    rw [← sameId, show db.addresses.get? address.id = some address from Table.get?_of_mem there]
      at held
    cases held
    rw [sameDescriptor] at own
    exact same.mem_descSubq.mpr own
  rw [and_iff_right coins, invoiceBlocksDeletion, List.any_eq_false]
  constructor
  · intro reservations invoice stored
    have free := reservations invoice (same.invoice_mem_iff.mpr stored)
    cases reserves : invoice.receivingAddressId with
    | none => exact Bool.false_ne_true
    | some addressId =>
        rw [Option.bind_some]
        cases found : db.addresses.get? addressId with
        | none => exact Bool.false_ne_true
        | some address =>
            exact fun own => free addressId reserves (same.mem_addressIds.mpr ⟨address, found, own⟩)
  · intro free invoice stored addressId reserves listed
    obtain ⟨address, found, own⟩ := same.mem_addressIds.mp listed
    apply free invoice (same.invoice_mem_iff.mp stored)
    rw [reserves, Option.bind_some, found]
    exact own

/-- The entries are free to go exactly when nothing else refers to them. -/
theorem unrestricted_ledgerEntry_iff (same : StoreOf db store) :
    Unrestricted store holdingId 13 .ledgerEntry ↔ entryStillReferenced db holdingId = false := by
  rw [unrestricted_ledgerEntry, entryStillReferenced, List.any_eq_false]
  constructor
  · intro results invoice stored
    rw [Bool.and_eq_true, decide_eq_true_eq, not_and]
    intro other
    have kept := results invoice (same.invoice_mem_iff.mpr stored) other
    cases names : invoice.resultingLedgerEntryId with
    | none => exact Bool.false_ne_true
    | some entryId =>
        have stays := kept entryId names
        rw [same.linkedOnlyTo_eq] at stays
        rw [Option.any_some, stays]
        exact Bool.false_ne_true
  · intro free invoice stored other entryId names
    have kept := free invoice (same.invoice_mem_iff.mp stored)
    rw [names, Option.any_some, decide_eq_true other, Bool.true_and, Bool.not_eq_true] at kept
    rw [same.linkedOnlyTo_eq, kept]

/-- The holding is there in both. -/
theorem holding_iff (same : StoreOf db store) :
    store.idsWhere .holding (fun row => decide (row.id = holdingId)) = [] ↔
      db.holdings.get? holdingId = none := by
  rw [same.idsWhere rfl, List.map_eq_nil_iff, List.filter_eq_nil_iff, Table.get?_eq_none_iff,
    List.mem_map]
  simp only [Database.recordsIn, List.mem_map]
  constructor
  · rintro none ⟨row, stored, rfl⟩
    exact none (.holding row) ⟨row, stored, rfl⟩ (decide_eq_true rfl)
  · rintro none _ ⟨row, stored, rfl⟩ found
    exact none ⟨row, stored, of_decide_eq_true found⟩

/-! ### What is left -/

/-- The rows of a table, from which of them go and what becomes of the others. -/
theorem left_eq {α : Type} {record : α → Record} {rows : List α} {gone : α → Bool} (f : α → α)
    (goes : ∀ row ∈ rows, taken store holdingId (record row) = gone row)
    (stays : ∀ row, (deletionPlan store holdingId).rowAt 16 (record row) = record (f row)) :
    ((rows.map record).filter fun row => !taken store holdingId row).map
        ((deletionPlan store holdingId).rowAt 16) =
      ((rows.filter fun row => !gone row).map f).map record := by
  rw [List.filter_map, List.map_map, List.map_map]
  have same : rows.filter ((fun row => !taken store holdingId row) ∘ record) =
      rows.filter fun row => !gone row := by
    apply List.filter_congr
    intro row stored
    rw [Function.comp_apply, goes row stored]
  rw [same]
  exact List.map_congr_left fun row _ => stays row

/-- Of a request that stays, the entry and the execution are forgotten where they go. -/
theorem rowAt_request (same : StoreOf db store) (request : PaymentRequestRow) :
    (deletionPlan store holdingId).rowAt 16 (.paymentRequest request) =
      .paymentRequest (request.forget
        ((db.sweepExecutions.select fun row =>
          decide (row.sweepPolicyId ∈ policySubq store holdingId)).map SweepExecutionRow.id)
        (candidateIds db holdingId)) := by
  have clearedBy : ∀ (column : Column) (value : Option Uuid) (lost : List Uuid),
      (∀ i, value = some i → ((deletionPlan store holdingId).clearsAt 16 (.paymentRequest request)
        column = true ↔ i ∈ lost)) →
      column.cleared ((deletionPlan store holdingId).clearsAt 16 (.paymentRequest request)) value =
        value.filter fun i => decide (i ∉ lost) := by
    intro column value lost clears
    cases value with
    | none =>
        rw [Column.cleared, ite_self]
        rfl
    | some i =>
        rw [Column.cleared, Option.filter_some]
        by_cases goes : i ∈ lost
        · rw [if_pos ((clears i rfl).mpr goes), if_neg]
          simpa using goes
        · rw [if_neg (mt (clears i rfl).mp goes), if_pos]
          simpa using goes
  have entries := clearedBy .requestLedgerEntry request.resultingLedgerEntryId
    (candidateIds db holdingId) (by
      intro i names
      rw [clearsAt_last, columnIn_iff_mem (i := i)]
      · exact same.mem_linkedEntryIds
      · rw [Record.mem_requestLedgerEntry]
        exact ⟨request, rfl, names⟩)
  have executions := clearedBy .requestSweepExecution request.sweepExecutionId
    ((db.sweepExecutions.select fun row =>
      decide (row.sweepPolicyId ∈ policySubq store holdingId)).map SweepExecutionRow.id) (by
      intro i names
      rw [clearsAt_last, columnIn_iff_mem (i := i)]
      · exact same.mem_executionSubq
      · refine List.mem_cons_of_mem _ (List.mem_append_right _ ?_)
        exact Column.mem_ref?.mpr ⟨i, names, rfl⟩)
  change Record.paymentRequest _ = _
  rw [entries, executions]
  rfl

/-- An invoice that stays is as it was. -/
theorem rowAt_invoice (invoice : InvoiceRow) :
    (deletionPlan store holdingId).rowAt 16 (.invoice invoice) = .invoice invoice := by
  have keeps : ∀ column value, lostValues store holdingId column = [] →
      column.cleared ((deletionPlan store holdingId).clearsAt 16 (.invoice invoice)) value =
        value := by
    intro column value keeps
    rw [Column.cleared, clearsAt_of_keeps keeps]
    rfl
  change Record.invoice _ = _
  rw [keeps .invoiceAddress _ rfl, keeps .invoiceLedgerEntry _ rfl]

/-- Table by table, the plan leaves what the one step leaves. -/
theorem recordsIn_deletionResult (same : StoreOf db store) {table : TableName}
    (here : table.ofChain = true) :
    ((db.recordsIn table).filter fun row => !taken store holdingId row).map
        ((deletionPlan store holdingId).rowAt 16) =
      (deletionResult db holdingId (policySubq store holdingId)).recordsIn table := by
  have held : ∀ descriptorId, decide (descriptorId ∈ descSubq store holdingId) =
      db.heldBy holdingId descriptorId := by
    intro descriptorId
    rw [Bool.eq_iff_iff, decide_eq_true_eq]
    exact same.mem_descSubq
  have unchanged : ∀ {α : Type} {record : α → Record} {rows : List α} (gone : α → Bool),
      (∀ row, (deletionPlan store holdingId).rowAt 16 (record row) = record row) →
      (∀ row, taken store holdingId (record row) = gone row) →
      ((rows.map record).filter fun row => !taken store holdingId row).map
          ((deletionPlan store holdingId).rowAt 16) =
        (rows.filter fun row => !gone row).map record := by
    intro α record rows gone stays goes
    have left := left_eq id (fun row (_ : row ∈ rows) => goes row) stays
    rwa [List.map_id] at left
  cases table with
  | holding => exact unchanged _ (fun _ => rfl) fun _ => rfl
  | descriptor => exact unchanged _ (fun _ => rfl) fun _ => rfl
  | address => exact unchanged _ (fun _ => rfl) fun row => held row.descriptorId
  | utxo => exact unchanged _ (fun _ => rfl) fun row => held row.descriptorId
  | ledgerEntry => exact unchanged _ (fun _ => rfl) fun row => same.linkedOnlyTo_eq row.id
  | ledgerEntryHoldingLink => exact unchanged _ (fun _ => rfl) fun _ => rfl
  | paymentRequest => exact left_eq _ (fun _ _ => rfl) same.rowAt_request
  | broadcastAttempt =>
      apply unchanged _ (fun _ => rfl)
      exact fun row => decide_eq_decide.mpr same.mem_prSubq
  | invoice => exact unchanged _ rowAt_invoice fun _ => rfl
  | sweepExecution => exact unchanged _ (fun _ => rfl) fun _ => rfl
  | _ => cases here

/-- After the last statement the store has the rows of the one step. -/
theorem of_deletionPlan (same : StoreOf db store) {final : LinkedStore}
    (reached : (deletionPlan store holdingId).At store 16 final) :
    StoreOf (deletionResult db holdingId (policySubq store holdingId)) final := by
  intro table here
  rw [← same.recordsIn_deletionResult here, ← same table here, reached, List.filter_map,
    List.filter_filter, List.filter_filter]
  congr 1
  apply List.filter_congr
  intro row _
  rw [Function.comp_apply, keepsAt_last]
  have sameTable : ((deletionPlan store holdingId).rowAt 16 row).table = row.table :=
    row.table_without _
  rw [sameTable]
  exact Bool.and_comm _ _

end StoreOf

/-! ### The refinement -/

/-- Before its first statement the plan has done nothing. -/
theorem deletionPlan_started {store : LinkedStore} {holdingId : Uuid} :
    (deletionPlan store holdingId).At store 0 store := by
  apply Plan.at_zero
  · intro table
    cases table <;> exact Nat.zero_lt_succ _
  · intro column
    cases column <;> exact Nat.zero_lt_succ _

/-- The deletion goes through exactly when the holding is there and nothing blocks it. -/
theorem deleteHolding_ok_iff {db : Database} {holdingId : Uuid} {policyIds : List Uuid} :
    (∃ db', deleteHolding db holdingId policyIds = .ok db') ↔
      db.holdings.get? holdingId ≠ none ∧ invoiceBlocksDeletion db holdingId = false ∧
        entryStillReferenced db holdingId = false := by
  rw [deleteHolding]
  split
  · rename_i absent
    exact iff_of_false (by rintro ⟨db', run⟩; cases run) fun all => all.1 absent
  · rename_i there
    split
    · rename_i blocked
      refine iff_of_false (by rintro ⟨db', run⟩; cases run) fun all => ?_
      rw [all.2.1] at blocked
      cases blocked
    · rename_i free
      split
      · rename_i referenced
        refine iff_of_false (by rintro ⟨db', run⟩; cases run) fun all => ?_
        rw [all.2.2] at referenced
        cases referenced
      · rename_i unreferenced
        exact iff_of_true ⟨_, rfl⟩ ⟨there, by simpa using free, by simpa using unreferenced⟩

/-- The statements go through exactly when no restricting column stops one of them. -/
theorem deleteRows_returns_iff {store : LinkedStore} {holdingId : Uuid} :
    (∃ final, deleteRows holdingId store = .ok final) ↔
      (Unrestricted store holdingId 5 .address ∧ Unrestricted store holdingId 6 .descriptor) ∧
        Unrestricted store holdingId 13 .ledgerEntry ∧ Unrestricted store holdingId 15 .holding :=
  runs_deleteRows.returns_iff store deletionPlan_started

/-- One step of the system stands for the sixteen statements of `delete_cascade`: on a store with
    the rows of a reachable state the cascade returns exactly when the step does and the treasury
    lets the holding go, and the rows they leave are the same, table by table. -/
theorem deleteCascade_refines {db : Database} (reached : Reached bdk chain db) {store : LinkedStore}
    (same : StoreOf db store) (holdingId : Uuid) :
    ((∃ final, deleteCascade store holdingId = .ok (final, true)) ↔
        (∃ db', deleteHolding db holdingId (policySubq store holdingId) = .ok db') ∧
          TreasuryReleases store holdingId) ∧
      ∀ final db', deleteCascade store holdingId = .ok (final, true) →
        deleteHolding db holdingId (policySubq store holdingId) = .ok db' → StoreOf db' final := by
  have referential := (closed_of_reached reached).referential
  rw [deleteHolding_ok_iff]
  by_cases absent : db.holdings.get? holdingId = none
  · -- the cascade finds no holding and reports so
    have unseen : deleteCascade store holdingId = .ok (store, false) :=
      if_pos (same.holding_iff.mpr absent)
    refine ⟨iff_of_false ?_ fun both => both.1.1 absent, ?_⟩
    · rintro ⟨final, run⟩
      cases unseen.symm.trans run
    · intro final db' run
      cases unseen.symm.trans run
  · have seen : deleteCascade store holdingId =
        (deleteRows holdingId store).map fun left => (left, true) :=
      if_neg (mt same.holding_iff.mp absent)
    have returned : ∀ final, deleteCascade store holdingId = .ok (final, true) ↔
        deleteRows holdingId store = .ok final := by
      intro final
      rw [seen]
      cases deleteRows holdingId store with
      | error raised => exact iff_of_false (fun run => by cases run) fun run => by cases run
      | ok left =>
          constructor
          · intro run
            cases run
            rfl
          · intro run
            cases run
            rfl
    refine ⟨?_, ?_⟩
    · rw [exists_congr returned, deleteRows_returns_iff, same.unrestricted_address_iff referential,
        same.unrestricted_ledgerEntry_iff, unrestricted_descriptor, unrestricted_holding]
      constructor
      · rintro ⟨⟨free, whitelists⟩, unreferenced, mirrors⟩
        exact ⟨⟨absent, free, unreferenced⟩, whitelists, mirrors⟩
      · rintro ⟨⟨-, free, unreferenced⟩, releases⟩
        exact ⟨⟨free, releases.whitelists⟩, unreferenced, releases.mirrors⟩
    · intro final db' run step
      rw [deleteHolding_ok step]
      exact same.of_deletionPlan (runs_deleteRows.reaches store deletionPlan_started final
        ((returned final).mp run))

/-! ### Reachable states as stores -/

/-- The rows of the chain and banking side. -/
def Database.records (db : Database) : List Record :=
  [TableName.holding, .descriptor, .address, .utxo, .ledgerEntry, .ledgerEntryHoldingLink,
    .paymentRequest, .broadcastAttempt, .invoice, .sweepExecution].flatMap db.recordsIn

/-- Rows of the treasury and of the custodial side that fit the rows of the database. -/
structure TreasuryRows (db : Database) (rest : List Record) : Prop where
  outside : ∀ row ∈ rest, row.table.ofChain = false
  distinct : (rest.map fun row => (row.table, row.id)).Nodup
  references : ∀ row ∈ rest, ∀ ref ∈ row.references,
    ∃ target ∈ db.records ++ rest, target.table = ref.1.target ∧ target.id = ref.2
  chosen : ∀ row ∈ db.records, ∀ ref ∈ row.references, ref.1.ofTreasury = true →
    ∃ target ∈ db.records ++ rest, target.table = ref.1.target ∧ target.id = ref.2

section Stores

variable {db : Database} {rest : List Record} {table : TableName} {row : Record}

/-- A record is of its table. -/
theorem table_of_mem_recordsIn (member : row ∈ db.recordsIn table) : row.table = table := by
  cases table <;> first
    | cases member
    | (obtain ⟨_, -, rfl⟩ := List.mem_map.mp member
       rfl)

theorem ofChain_of_mem_recordsIn (member : row ∈ db.recordsIn table) : table.ofChain = true := by
  cases table <;> first | rfl | cases member

/-- A record is one of its own table. -/
theorem mem_records_iff : row ∈ db.records ↔ row ∈ db.recordsIn row.table := by
  rw [Database.records, List.mem_flatMap]
  constructor
  · rintro ⟨table, -, member⟩
    rwa [table_of_mem_recordsIn member]
  · intro member
    refine ⟨row.table, ?_, member⟩
    have here := ofChain_of_mem_recordsIn member
    cases ofTable : row.table <;> rw [ofTable] at here <;> first | (simp; done) | cases here

/-- Of the records of a table none is of another. -/
theorem filter_recordsIn (other : TableName) :
    (db.recordsIn other).filter (fun row => decide (row.table = table)) =
      if other = table then db.recordsIn other else [] := by
  split
  · rename_i same
    subst same
    exact List.filter_eq_self.mpr fun row member => decide_eq_true (table_of_mem_recordsIn member)
  · rename_i different
    refine List.filter_eq_nil_iff.mpr fun row member => ?_
    rw [decide_eq_true_eq, table_of_mem_recordsIn member]
    exact different

/-- The records of one table among all. -/
theorem filter_records (here : table.ofChain = true) :
    db.records.filter (fun row => decide (row.table = table)) = db.recordsIn table := by
  rw [Database.records, List.filter_flatMap]
  simp only [filter_recordsIn]
  cases table <;> first | (simp; done) | cases here

/-- Two records of a target with one id are one record. -/
theorem records_distinct {column : Column} {row row' : Record} (member : row ∈ db.records)
    (member' : row' ∈ db.records) (ofTable : row.table = column.target)
    (ofTable' : row'.table = column.target) (same : row.id = row'.id) : row = row' := by
  rw [mem_records_iff, ofTable] at member
  rw [mem_records_iff, ofTable'] at member'
  have unique : ∀ {α : Type} [Keyed α Uuid] {rows : Table α} {record : α → Record},
      (∀ row, (record row).id = key row) → row ∈ rows.rows.map record →
        row' ∈ rows.rows.map record → row = row' := by
    intro α _ rows record ids member member'
    obtain ⟨first, stored, rfl⟩ := List.mem_map.mp member
    obtain ⟨second, stored', rfl⟩ := List.mem_map.mp member'
    rw [ids, ids] at same
    rw [Table.eq_of_key_eq stored stored' same]
  cases target : column.target <;> rw [target] at member member' <;> first
    | exact unique (fun _ => rfl) member member'
    | cases member
    | (cases column <;> cases target)

/-- A reachable state is the chain and banking side of a database with foreign keys. -/
theorem exists_store (referential : Referential db) (fits : TreasuryRows db rest) :
    ∃ store : LinkedStore, store.rows = db.records ++ rest ∧ StoreOf db store := by
  have side : ∀ row ∈ db.records, row.table.ofChain = true := by
    intro row member
    exact ofChain_of_mem_recordsIn (mem_records_iff.mp member)
  refine ⟨⟨db.records ++ rest, ?_, ?_⟩, rfl, ?_⟩
  · intro column row member row' member' ofTable ofTable' same
    have ofTables : row.table = row'.table := Eq.trans ofTable (Eq.symm ofTable')
    rcases List.mem_append.mp member with inChain | inRest <;>
      rcases List.mem_append.mp member' with inChain' | inRest'
    · exact records_distinct inChain inChain' ofTable ofTable' same
    · cases (side row inChain).symm.trans (ofTables ▸ fits.outside row' inRest')
    · cases (side row' inChain').symm.trans (ofTables ▸ fits.outside row inRest)
    · exact List.inj_on_of_nodup_map fits.distinct inRest inRest' (Prod.ext ofTables same)
  · intro row member ref refers
    rcases List.mem_append.mp member with inChain | inRest
    · by_cases chosen : ref.1.ofTreasury = true
      · exact fits.chosen row inChain ref refers chosen
      · obtain ⟨target, there, same⟩ := referential.references row.table row
          (mem_records_iff.mp inChain) ref refers (by simpa using chosen)
        have ofTable := table_of_mem_recordsIn there
        exact ⟨target, List.mem_append_left _ (mem_records_iff.mpr (ofTable.symm ▸ there)), ofTable,
          same⟩
    · exact fits.references row inRest ref refers
  · intro table here
    change (db.records ++ rest).filter _ = _
    have none : rest.filter (fun row => decide (row.table = table)) = [] := by
      refine List.filter_eq_nil_iff.mpr fun row member => ?_
      rw [decide_eq_true_eq]
      rintro rfl
      rw [fits.outside row member] at here
      cases here
    rw [List.filter_append, none, List.append_nil, filter_records here]

end Stores

/-- The payer of a confirmed transfer is deleted, on the state without treasury rows. -/
theorem deleteCascade_refines_transfer :
    ∃ store final db', store.rows = transferSettled.records ∧
      deleteCascade store 10 = .ok (final, true) ∧
      deleteHolding transferSettled 10 (policySubq store 10) = .ok db' ∧ StoreOf db' final := by
  have fits : TreasuryRows transferSettled [] := by
    refine ⟨?_, List.nodup_nil, ?_, ?_⟩
    · intro row member
      cases member
    · intro row member
      cases member
    · have none : ∀ row ∈ transferSettled.records, ∀ ref ∈ row.references,
          ref.1.ofTreasury = false := by
        decide +kernel
      intro row member ref refers chosen
      rw [none row member ref refers] at chosen
      cases chosen
  obtain ⟨store, rows, same⟩ :=
    exists_store (closed_of_reached transferSettled_reached).referential fits
  rw [List.append_nil] at rows
  have refines := deleteCascade_refines transferSettled_reached same 10
  have step : ∃ db', deleteHolding transferSettled 10 (policySubq store 10) = .ok db' :=
    deleteHolding_ok_iff.mpr (by decide +kernel)
  have absent : ∀ row ∈ store.rows, row.table ≠ .custodialProvider ∧
      row.table ≠ .custodialLedgerEntry := by
    rw [rows]
    decide +kernel
  have releases : TreasuryReleases store 10 := by
    refine ⟨?_, ?_⟩
    · intro provider stored
      exact absurd rfl (absent _ stored).1
    · intro entry stored
      exact absurd rfl (absent _ stored).2
  obtain ⟨final, run⟩ := refines.1.mpr ⟨step, releases⟩
  obtain ⟨db', stepped⟩ := step
  exact ⟨store, final, db', rows, run, stepped, refines.2 final db' run stepped⟩

end TallyKeep
