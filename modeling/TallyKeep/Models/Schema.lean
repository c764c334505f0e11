/-
Module: TallyKeep.Models.Schema
Layer: Models
Purpose: The tables with their foreign keys, as the columns of `models/` declare them.
Trusted boundary: translation of the `ForeignKey`s; tables that none of them leads to
  or from are left out
Main exports: Record, TableName, Column, Record.references, Record.without, schema, LinkedStore
-/
import TallyKeep.Library.ForeignKeys
import TallyKeep.Models.Custodial
import TallyKeep.Models.Holding
import TallyKeep.Services.SecurityHealth

namespace TallyKeep

open ForeignKeys

/-- A custodial provider with the descriptor its withdrawals go to. -/
structure WithdrawingProviderRow extends ConnectedProviderRow where
  whitelistAddressDescriptorId : Option Uuid
deriving DecidableEq

/-- The tables, under their `__tablename__`. -/
inductive TableName where
  | holding
  | holdingTypeChangeLog
  | descriptor
  | address
  | utxo
  | ledgerEntry
  | ledgerEntryHoldingLink
  | paymentRequest
  | broadcastAttempt
  | invoice
  | sweepPolicy
  | sweepExecution
  | custodialProvider
  | custodialLedgerEntry
  | securityHealthItem
deriving Repr, DecidableEq

/-- A row of one of the tables. -/
inductive Record where
  | holding (row : HoldingRow)
  | holdingTypeChangeLog (row : HoldingTypeChangeLogRow)
  | descriptor (row : DescriptorRow)
  | address (row : AddressRow)
  | utxo (row : UtxoRow)
  | ledgerEntry (row : LedgerEntryRow)
  | ledgerEntryHoldingLink (row : LedgerEntryHoldingLinkRow)
  | paymentRequest (row : PaymentRequestRow)
  | broadcastAttempt (row : BroadcastAttemptRow)
  | invoice (row : InvoiceRow)
  | sweepPolicy (row : SweepPolicyRow)
  | sweepExecution (row : SweepExecutionRow)
  | custodialProvider (row : WithdrawingProviderRow)
  | custodialLedgerEntry (row : CustodialLedgerEntryRow)
  | securityHealthItem (row : SecurityHealthItem)
deriving DecidableEq

def Record.table : Record → TableName
  | .holding _ => .holding
  | .holdingTypeChangeLog _ => .holdingTypeChangeLog
  | .descriptor _ => .descriptor
  | .address _ => .address
  | .utxo _ => .utxo
  | .ledgerEntry _ => .ledgerEntry
  | .ledgerEntryHoldingLink _ => .ledgerEntryHoldingLink
  | .paymentRequest _ => .paymentRequest
  | .broadcastAttempt _ => .broadcastAttempt
  | .invoice _ => .invoice
  | .sweepPolicy _ => .sweepPolicy
  | .sweepExecution _ => .sweepExecution
  | .custodialProvider _ => .custodialProvider
  | .custodialLedgerEntry _ => .custodialLedgerEntry
  | .securityHealthItem _ => .securityHealthItem

/-- The primary key; of a link, which nothing refers to, its first column. -/
def Record.id : Record → Uuid
  | .holding row => row.id
  | .holdingTypeChangeLog row => row.id
  | .descriptor row => row.id
  | .address row => row.id
  | .utxo row => row.id
  | .ledgerEntry row => row.id
  | .ledgerEntryHoldingLink row => row.ledgerEntryId
  | .paymentRequest row => row.id
  | .broadcastAttempt row => row.id
  | .invoice row => row.id
  | .sweepPolicy row => row.id
  | .sweepExecution row => row.id
  | .custodialProvider row => row.id
  | .custodialLedgerEntry row => row.id
  | .securityHealthItem row => row.id

/-- The columns that are a `ForeignKey`, under table and column. -/
inductive Column where
  | typeChangeHolding
  | descriptorHolding
  | addressDescriptor
  | utxoDescriptor
  | utxoAddress
  | linkLedgerEntry
  | linkHolding
  | requestHolding
  | requestLedgerEntry
  | requestSweepExecution
  | attemptRequest
  | invoiceHolding
  | invoiceAddress
  | invoiceLedgerEntry
  | policySource
  | policyDestination
  | executionPolicy
  | providerHolding
  | providerWhitelistDescriptor
  | entryHolding
  | entryProvider
  | entrySweepExecution
  | entryCounterparty
  | entryChainEntry
  | healthItemHolding
deriving Repr, DecidableEq

namespace Column

/-- The table that has the column. -/
def source : Column → TableName
  | typeChangeHolding => .holdingTypeChangeLog
  | descriptorHolding => .descriptor
  | addressDescriptor => .address
  | utxoDescriptor | utxoAddress => .utxo
  | linkLedgerEntry | linkHolding => .ledgerEntryHoldingLink
  | requestHolding | requestLedgerEntry | requestSweepExecution => .paymentRequest
  | attemptRequest => .broadcastAttempt
  | invoiceHolding | invoiceAddress | invoiceLedgerEntry => .invoice
  | policySource | policyDestination => .sweepPolicy
  | executionPolicy => .sweepExecution
  | providerHolding | providerWhitelistDescriptor => .custodialProvider
  | entryHolding | entryProvider | entrySweepExecution | entryCounterparty | entryChainEntry =>
      .custodialLedgerEntry
  | healthItemHolding => .securityHealthItem

/-- The table it refers to. -/
def target : Column → TableName
  | typeChangeHolding | descriptorHolding | linkHolding | requestHolding | invoiceHolding
  | policySource | policyDestination | providerHolding | entryHolding | entryCounterparty
  | healthItemHolding => .holding
  | addressDescriptor | utxoDescriptor | providerWhitelistDescriptor => .descriptor
  | utxoAddress | invoiceAddress => .address
  | linkLedgerEntry | requestLedgerEntry | invoiceLedgerEntry | entryChainEntry => .ledgerEntry
  | requestSweepExecution | entrySweepExecution => .sweepExecution
  | attemptRequest => .paymentRequest
  | executionPolicy => .sweepPolicy
  | entryProvider => .custodialProvider

/-- Its `ondelete`. -/
def onDelete : Column → OnDelete
  | entryProvider | healthItemHolding => .cascade
  | requestSweepExecution | entryCounterparty => .setNull
  | _ => .restrict

/-- Its `nullable`. -/
def nullable : Column → Bool
  | requestLedgerEntry | requestSweepExecution | invoiceAddress | invoiceLedgerEntry
  | providerWhitelistDescriptor | entrySweepExecution | entryCounterparty | entryChainEntry
  | healthItemHolding => true
  | _ => false

/-- The reference of a nullable column. -/
def ref? (column : Column) (value : Option Uuid) : List (Column × Uuid) :=
  value.toList.map fun i => (column, i)

/-- A nullable column where some columns are set to null. -/
def cleared (column : Column) (columns : Column → Bool) (value : Option Uuid) : Option Uuid :=
  if columns column then none else value

theorem mem_ref? {column : Column} {value : Option Uuid} {ref : Column × Uuid} :
    ref ∈ column.ref? value ↔ ∃ i, value = some i ∧ (column, i) = ref := by
  simp only [ref?, List.mem_map, Option.mem_toList]

@[simp] theorem cleared_none (column : Column) (value : Option Uuid) :
    column.cleared (fun _ => false) value = value := rfl

theorem ref?_cleared (column : Column) (columns : Column → Bool) (value : Option Uuid) :
    column.ref? (column.cleared columns value) =
      (column.ref? value).filter fun ref => !columns ref.1 := by
  cases value with
  | none =>
      rw [cleared, ite_self]
      rfl
  | some i => cases taken : columns column <;> simp [cleared, ref?, taken]

theorem cleared_cleared (column : Column) (p q : Column → Bool) (value : Option Uuid) :
    column.cleared p (column.cleared q value) = column.cleared (fun k => q k || p k) value := by
  cases first : q column <;> cases second : p column <;> simp [cleared, first, second]

theorem cleared_congr {column : Column} {p q : Column → Bool} {value : Option Uuid}
    (same : ∀ ref ∈ column.ref? value, p ref.1 = q ref.1) :
    column.cleared p value = column.cleared q value := by
  cases value with
  | none => rw [cleared, cleared, ite_self, ite_self]
  | some i => rw [cleared, cleared, same (column, i) (mem_ref?.mpr ⟨i, rfl, rfl⟩)]

end Column

/-- The foreign-key columns of a row that are not null. -/
def Record.references : Record → List (Column × Uuid)
  | .holding _ => []
  | .holdingTypeChangeLog row => [(.typeChangeHolding, row.holdingId)]
  | .descriptor row => [(.descriptorHolding, row.holdingId)]
  | .address row => [(.addressDescriptor, row.descriptorId)]
  | .utxo row => [(.utxoDescriptor, row.descriptorId), (.utxoAddress, row.addressId)]
  | .ledgerEntry _ => []
  | .ledgerEntryHoldingLink row =>
      [(.linkLedgerEntry, row.ledgerEntryId), (.linkHolding, row.holdingId)]
  | .paymentRequest row =>
      (.requestHolding, row.holdingId) ::
        (Column.requestLedgerEntry.ref? row.resultingLedgerEntryId ++
          Column.requestSweepExecution.ref? row.sweepExecutionId)
  | .broadcastAttempt row => [(.attemptRequest, row.paymentRequestId)]
  | .invoice row =>
      (.invoiceHolding, row.holdingId) ::
        (Column.invoiceAddress.ref? row.receivingAddressId ++
          Column.invoiceLedgerEntry.ref? row.resultingLedgerEntryId)
  | .sweepPolicy row =>
      [(.policySource, row.sourceHoldingId), (.policyDestination, row.destinationHoldingId)]
  | .sweepExecution row => [(.executionPolicy, row.sweepPolicyId)]
  | .custodialProvider row =>
      (.providerHolding, row.holdingId) ::
        Column.providerWhitelistDescriptor.ref? row.whitelistAddressDescriptorId
  | .custodialLedgerEntry row =>
      (.entryHolding, row.holdingId) :: (.entryProvider, row.custodialProviderId) ::
        (Column.entrySweepExecution.ref? row.linkedSweepExecutionId ++
          (Column.entryCounterparty.ref? row.linkedCounterpartyHoldingId ++
            Column.entryChainEntry.ref? row.linkedChainLedgerEntryId))
  | .securityHealthItem row => Column.healthItemHolding.ref? row.holdingId

/-- The row with some of its nullable columns set to null. -/
def Record.without (columns : Column → Bool) : Record → Record
  | .paymentRequest row => .paymentRequest
      { row with
        resultingLedgerEntryId :=
          Column.requestLedgerEntry.cleared columns row.resultingLedgerEntryId
        sweepExecutionId := Column.requestSweepExecution.cleared columns row.sweepExecutionId }
  | .invoice row => .invoice
      { row with
        receivingAddressId := Column.invoiceAddress.cleared columns row.receivingAddressId
        resultingLedgerEntryId :=
          Column.invoiceLedgerEntry.cleared columns row.resultingLedgerEntryId }
  | .custodialProvider row => .custodialProvider
      { row with
        whitelistAddressDescriptorId :=
          Column.providerWhitelistDescriptor.cleared columns row.whitelistAddressDescriptorId }
  | .custodialLedgerEntry row => .custodialLedgerEntry
      { row with
        linkedSweepExecutionId :=
          Column.entrySweepExecution.cleared columns row.linkedSweepExecutionId
        linkedCounterpartyHoldingId :=
          Column.entryCounterparty.cleared columns row.linkedCounterpartyHoldingId
        linkedChainLedgerEntryId :=
          Column.entryChainEntry.cleared columns row.linkedChainLedgerEntryId }
  | .securityHealthItem row => .securityHealthItem
      { row with holdingId := Column.healthItemHolding.cleared columns row.holdingId }
  | other => other

namespace Record

theorem table_without (columns : Column → Bool) (r : Record) :
    (r.without columns).table = r.table := by
  cases r <;> rfl

theorem id_without (columns : Column → Bool) (r : Record) : (r.without columns).id = r.id := by
  cases r <;> rfl

theorem references_without (columns : Column → Bool) (r : Record)
    (nullable : ∀ column, columns column = true → column.nullable = true) :
    (r.without columns).references = r.references.filter fun ref => !columns ref.1 := by
  have keeps {column : Column} (required : column.nullable = false) : columns column = false := by
    rw [← Bool.not_eq_true]
    intro taken
    rw [nullable column taken] at required
    cases required
  cases r <;>
    simp (disch := decide) [references, without, Column.ref?_cleared, List.filter_cons, keeps]

theorem without_without (p q : Column → Bool) (r : Record) :
    (r.without q).without p = r.without fun column => q column || p column := by
  cases r <;> simp only [without, Column.cleared_cleared]

theorem without_congr (p q : Column → Bool) (r : Record)
    (same : ∀ ref ∈ r.references, p ref.1 = q ref.1) : r.without p = r.without q := by
  cases r <;> simp only [references, List.mem_cons, List.mem_append, or_imp, forall_and] at same <;>
    simp only [without]
  case paymentRequest row =>
    rw [Column.cleared_congr same.2.1, Column.cleared_congr same.2.2]
  case invoice row =>
    rw [Column.cleared_congr same.2.1, Column.cleared_congr same.2.2]
  case custodialProvider row =>
    rw [Column.cleared_congr same.2]
  case custodialLedgerEntry row =>
    rw [Column.cleared_congr same.2.2.1, Column.cleared_congr same.2.2.2.1,
      Column.cleared_congr same.2.2.2.2]
  case securityHealthItem row =>
    rw [Column.cleared_congr same]

theorem without_none (r : Record) : (r.without fun _ => false) = r := by
  cases r <;> rfl

theorem table_of_reference (r : Record) : ∀ ref ∈ r.references, r.table = ref.1.source := by
  rintro ⟨column, i⟩ member
  cases r <;> simp only [references, List.mem_cons, List.mem_append, Column.mem_ref?,
    List.not_mem_nil, Prod.mk.injEq, or_false] at member
  all_goals grind [table, Column.source]

/-! ### The columns one by one -/

variable {r : Record} {i : Uuid}

theorem mem_utxoAddress :
    (.utxoAddress, i) ∈ r.references ↔ ∃ coin, r = .utxo coin ∧ coin.addressId = i := by
  cases r <;> simp [references, Column.mem_ref?, eq_comm]

theorem mem_invoiceAddress :
    (.invoiceAddress, i) ∈ r.references ↔
      ∃ invoice, r = .invoice invoice ∧ invoice.receivingAddressId = some i := by
  cases r <;> simp [references, Column.mem_ref?, eq_comm]

theorem mem_invoiceLedgerEntry :
    (.invoiceLedgerEntry, i) ∈ r.references ↔
      ∃ invoice, r = .invoice invoice ∧ invoice.resultingLedgerEntryId = some i := by
  cases r <;> simp [references, Column.mem_ref?, eq_comm]

theorem mem_requestLedgerEntry :
    (.requestLedgerEntry, i) ∈ r.references ↔
      ∃ request, r = .paymentRequest request ∧ request.resultingLedgerEntryId = some i := by
  cases r <;> simp [references, Column.mem_ref?, eq_comm]

theorem mem_providerWhitelistDescriptor :
    (.providerWhitelistDescriptor, i) ∈ r.references ↔
      ∃ provider, r = .custodialProvider provider ∧
        provider.whitelistAddressDescriptorId = some i := by
  cases r <;> simp [references, Column.mem_ref?, eq_comm]

theorem mem_entryHolding :
    (.entryHolding, i) ∈ r.references ↔
      ∃ entry, r = .custodialLedgerEntry entry ∧ entry.holdingId = i := by
  cases r <;> simp [references, Column.mem_ref?, eq_comm]

theorem mem_entryProvider :
    (.entryProvider, i) ∈ r.references ↔
      ∃ entry, r = .custodialLedgerEntry entry ∧ entry.custodialProviderId = i := by
  cases r <;> simp [references, Column.mem_ref?, eq_comm]

theorem mem_entryChainEntry :
    (.entryChainEntry, i) ∈ r.references ↔
      ∃ entry, r = .custodialLedgerEntry entry ∧ entry.linkedChainLedgerEntryId = some i := by
  cases r <;> simp [references, Column.mem_ref?, eq_comm]

theorem mem_healthItemHolding :
    (.healthItemHolding, i) ∈ r.references ↔
      ∃ item, r = .securityHealthItem item ∧ item.holdingId = some i := by
  cases r <;> simp [references, Column.mem_ref?, eq_comm]

end Record

theorem Column.nullable_of_setNull :
    ∀ column : Column, column.onDelete = .setNull → column.nullable = true := by
  intro column
  cases column <;> decide

/-- Nothing refers to the rows that a cascade reaches. -/
theorem Column.cascade_ends :
    ∀ column : Column, column.onDelete = .cascade → ∀ other : Column,
      other.target ≠ column.source := by
  intro column acts other
  cases column <;> cases acts <;> cases other <;> decide

/-- The schema of `models/`. -/
def schema : Schema Record TableName Uuid Column where
  table := Record.table
  id := Record.id
  refs := Record.references
  without := Record.without
  source := Column.source
  target := Column.target
  onDelete := Column.onDelete
  nullable := Column.nullable
  table_without := Record.table_without
  id_without := Record.id_without
  refs_without := Record.references_without
  without_without := Record.without_without
  without_congr := Record.without_congr
  without_none := Record.without_none
  table_of_ref := Record.table_of_reference
  nullable_of_setNull := Column.nullable_of_setNull
  cascade_ends := Column.cascade_ends

/-- The database with the rows of all tables. -/
abbrev LinkedStore := Store schema

end TallyKeep
