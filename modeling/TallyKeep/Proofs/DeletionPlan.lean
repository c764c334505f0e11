/-
Module: TallyKeep.Proofs.DeletionPlan
Layer: Proofs
Purpose: What the statements of `delete_cascade` come to: the rows each of them takes, and the
  references that it sets to null.
Trusted boundary: none
Main exports: belongsTo, linkedOnlyTo, taken, deletionPlan, unrestricted_iff
-/
import TallyKeep.Repositories.DeleteCascade

namespace TallyKeep

open ForeignKeys

/-! ### Rows of a holding -/

/-- Some other holding is linked to the ledger entry. -/
def linkedElsewhere (db : LinkedStore) (holdingId entryId : Uuid) : Bool :=
  db.rows.any fun
    | .ledgerEntryHoldingLink link =>
        decide (link.ledgerEntryId = entryId ∧ link.holdingId ≠ holdingId)
    | _ => false

/-- The holding is linked to the ledger entry, and no other is. -/
def linkedOnlyTo (db : LinkedStore) (holdingId entryId : Uuid) : Bool :=
  decide (entryId ∈ linkedEntryIds db holdingId) && !linkedElsewhere db holdingId entryId

/-- The ids of the holding's addresses. -/
def addressIds (db : LinkedStore) (holdingId : Uuid) : List Uuid :=
  db.idsWhere .address (columnIn .addressDescriptor (descSubq db holdingId))

/-- The ids of the holding's custodial providers. -/
def providerIds (db : LinkedStore) (holdingId : Uuid) : List Uuid :=
  db.idsWhere .custodialProvider (columnIs .providerHolding holdingId)

/-- The row is the holding's; a policy is so from either end, and a ledger entry where no other
    holding is linked to it. -/
def belongsTo (db : LinkedStore) (holdingId : Uuid) : Record → Bool
  | .holding row => decide (row.id = holdingId)
  | .holdingTypeChangeLog row => decide (row.holdingId = holdingId)
  | .descriptor row => decide (row.holdingId = holdingId)
  | .address row => decide (row.descriptorId ∈ descSubq db holdingId)
  | .utxo row => decide (row.descriptorId ∈ descSubq db holdingId)
  | .ledgerEntry row => linkedOnlyTo db holdingId row.id
  | .ledgerEntryHoldingLink row => decide (row.holdingId = holdingId)
  | .paymentRequest row => decide (row.holdingId = holdingId)
  | .broadcastAttempt row => decide (row.paymentRequestId ∈ prSubq db holdingId)
  | .invoice row => decide (row.holdingId = holdingId)
  | .sweepPolicy row =>
      decide (row.sourceHoldingId = holdingId) || decide (row.destinationHoldingId = holdingId)
  | .sweepExecution row => decide (row.sweepPolicyId ∈ policySubq db holdingId)
  | .custodialProvider row => decide (row.holdingId = holdingId)
  | .custodialLedgerEntry row => decide (row.holdingId = holdingId)
  | .securityHealthItem row => decide (row.holdingId = some holdingId)

/-- The row goes with the holding: a custodial entry does so by its provider. -/
def taken (db : LinkedStore) (holdingId : Uuid) : Record → Bool
  | .custodialLedgerEntry row => decide (row.custodialProviderId ∈ providerIds db holdingId)
  | row => belongsTo db holdingId row

/-! ### The plan -/

/-- The statement that takes rows of the table. -/
def TableName.stage : TableName → Nat
  | holdingTypeChangeLog => 1
  | sweepExecution => 3
  | sweepPolicy => 4
  | utxo => 5
  | address => 6
  | descriptor => 7
  | broadcastAttempt => 8
  | paymentRequest => 9
  | invoice => 10
  | ledgerEntryHoldingLink => 13
  | ledgerEntry => 14
  | custodialProvider | custodialLedgerEntry => 15
  | holding | securityHealthItem => 16

/-- The statement that sets the column to null; most columns have none. -/
def Column.stage : Column → Nat
  | entrySweepExecution => 2
  | requestSweepExecution => 3
  | entryChainEntry => 11
  | requestLedgerEntry => 12
  | entryCounterparty => 16
  | _ => 17

/-- The ids of a table's rows that go with the holding, where something may refer to them. -/
def goneIds (db : LinkedStore) (holdingId : Uuid) : TableName → List Uuid
  | .holding => [holdingId]
  | .descriptor => descSubq db holdingId
  | .address => addressIds db holdingId
  | .ledgerEntry => (linkedEntryIds db holdingId).filter (linkedOnlyTo db holdingId)
  | .paymentRequest => prSubq db holdingId
  | .sweepPolicy => policySubq db holdingId
  | .sweepExecution => executionSubq db holdingId
  | .custodialProvider => providerIds db holdingId
  | _ => []

/-- The values that are set to null in the column. -/
def lostValues (db : LinkedStore) (holdingId : Uuid) : Column → List Uuid
  | .entrySweepExecution | .requestSweepExecution => executionSubq db holdingId
  | .entryChainEntry | .requestLedgerEntry => linkedEntryIds db holdingId
  | .entryCounterparty => [holdingId]
  | _ => []

def deletionPlan (db : LinkedStore) (holdingId : Uuid) : Plan schema where
  keeps row := !taken db holdingId row
  clears row column := columnIn column (lostValues db holdingId column) row
  deletedAt := TableName.stage
  clearedAt := Column.stage
  nullable := by
    intro row column clears
    obtain ⟨i, lost, -⟩ := refersTo_iff.mp clears
    cases column <;> first | rfl | cases lost

variable {db now : LinkedStore} {holdingId : Uuid} {n : Nat} {row : Record}

/-! ### Conditions on columns -/

/-- A row names one of the values in a column. -/
theorem columnIn_iff {column : Column} {values : List Uuid} :
    columnIn column values row = true ↔ ∃ i ∈ values, (column, i) ∈ row.references :=
  refersTo_iff

/-- A row names the value in a column. -/
theorem columnIs_iff {column : Column} {value : Uuid} :
    columnIs column value row = true ↔ (column, value) ∈ row.references := by
  rw [columnIs, columnIn_iff]
  constructor
  · rintro ⟨i, listed, refers⟩
    rw [List.mem_singleton] at listed
    rwa [← listed]
  · exact fun refers => ⟨value, List.mem_singleton_self value, refers⟩

theorem columnIn_nil (column : Column) (row : Record) : columnIn column [] row = false := by
  rw [← Bool.not_eq_true, columnIn_iff]
  rintro ⟨i, listed, -⟩
  cases listed

/-- A row has one value in a column. -/
theorem references_functional {column : Column} {i i' : Uuid}
    (refers : (column, i) ∈ row.references) (refers' : (column, i') ∈ row.references) : i = i' := by
  cases row <;> simp only [Record.references, List.mem_cons, List.mem_append, Column.mem_ref?,
    List.not_mem_nil, Prod.mk.injEq, or_false] at refers refers'
  all_goals grind

/-- A column is cleared from its stage on, for the rows that name what is lost. -/
theorem clearsAt_eq (column : Column) (row : Record) :
    (deletionPlan db holdingId).clearsAt n row column =
      (decide (column.stage ≤ n) && columnIn column (lostValues db holdingId column) row) :=
  rfl

/-- A row is kept before the stage of its table, and after it if it is not taken. -/
theorem keepsAt_eq (row : Record) :
    (deletionPlan db holdingId).keepsAt n row =
      (decide (n < row.table.stage) || !taken db holdingId row) :=
  rfl

/-- A row of a table that has not been taken yet is there. -/
theorem keepsAt_of_later (later : n < row.table.stage) :
    (deletionPlan db holdingId).keepsAt n row = true := by
  rw [keepsAt_eq, decide_eq_true later, Bool.true_or]

/-- A row that stays is kept at every stage. -/
theorem keepsAt_of_stays (stays : taken db holdingId row = false) :
    (deletionPlan db holdingId).keepsAt n row = true := by
  rw [keepsAt_eq, stays, Bool.not_false, Bool.or_true]

/-- A row that is kept past its stage stays. -/
theorem stays_of_keepsAt (past : row.table.stage ≤ n)
    (keeps : (deletionPlan db holdingId).keepsAt n row = true) :
    taken db holdingId row = false := by
  rwa [keepsAt_eq, decide_eq_false (Nat.not_lt.mpr past), Bool.false_or, Bool.not_eq_true'] at keeps

/-- A column that loses no value is never cleared. -/
theorem clearsAt_of_keeps {column : Column} (keeps : lostValues db holdingId column = [])
    (row : Record) : (deletionPlan db holdingId).clearsAt n row column = false := by
  rw [clearsAt_eq, keeps, columnIn_nil, Bool.and_false]

/-- Clearing columns leaves the id of a row. -/
theorem record_id_rowAt (row : Record) :
    ((deletionPlan db holdingId).rowAt n row).id = row.id :=
  row.id_without _

/-- A column that keeps its values is what it was. -/
theorem columnIn_rowAt {column : Column} (keeps : lostValues db holdingId column = [])
    (values : List Uuid) (row : Record) :
    columnIn column values ((deletionPlan db holdingId).rowAt n row) =
      columnIn column values row :=
  Plan.refersTo_rowAt (clearsAt_of_keeps keeps row)

/-! ### Rows that go with others -/

/-- The columns by which a row goes with the row that it refers to. -/
def Column.owns : Column → Bool
  | typeChangeHolding | descriptorHolding | addressDescriptor | utxoDescriptor | linkHolding
  | requestHolding | attemptRequest | invoiceHolding | policySource | policyDestination
  | executionPolicy | providerHolding | entryProvider | healthItemHolding => true
  | _ => false

/-- The references of a column are the one value it may hold. -/
theorem exists_mem_ref? {column : Column} {value : Option Uuid} {P : Column × Uuid → Prop} :
    (∃ ref, ref ∈ column.ref? value ∧ P ref) ↔ ∃ i, value = some i ∧ P (column, i) := by
  simp only [Column.mem_ref?]
  constructor
  · rintro ⟨_, ⟨i, here, rfl⟩, holds⟩
    exact ⟨i, here, holds⟩
  · rintro ⟨i, here, holds⟩
    exact ⟨(column, i), ⟨i, here, rfl⟩, holds⟩

/-- A row that refers to others goes when one of them does that it belongs to. -/
theorem taken_iff (noEntry : row.table ≠ .ledgerEntry) (noHolding : row.table ≠ .holding) :
    taken db holdingId row = true ↔
      ∃ ref ∈ row.references, ref.1.owns = true ∧ ref.2 ∈ goneIds db holdingId ref.1.target := by
  cases row <;>
    simp only [Record.references, List.mem_cons, List.mem_append, List.not_mem_nil, or_and_right,
      exists_or, exists_eq_left, false_and, exists_false, or_false, exists_mem_ref?] <;>
    simp [taken, belongsTo, Column.owns, goneIds, Column.target]
  case holding => exact absurd rfl noHolding
  case ledgerEntry => exact absurd rfl noEntry

/-- Most rows belong to others by one column. -/
theorem taken_eq_columnIn {column : Column} (inTable : row.table = column.source)
    (owns : column.owns = true) (single : column.source ≠ .sweepPolicy) :
    taken db holdingId row = columnIn column (goneIds db holdingId column.target) row := by
  have sole : ∀ other : Column, other.source = column.source → other.owns = true →
      other = column := by
    intro other
    cases column <;> cases owns <;> cases other <;> first | exact absurd rfl single | decide
  have noSource : column.source ≠ .ledgerEntry ∧ column.source ≠ .holding := by
    cases column <;> decide
  rw [← inTable] at noSource
  rw [Bool.eq_iff_iff, taken_iff noSource.1 noSource.2, columnIn_iff]
  constructor
  · rintro ⟨⟨other, i⟩, refers, otherOwns, leaves⟩
    have same : other = column :=
      sole other ((row.table_of_reference _ refers).symm.trans inTable) otherOwns
    subst same
    exact ⟨i, leaves, refers⟩
  · rintro ⟨i, leaves, refers⟩
    exact ⟨(column, i), refers, owns, leaves⟩

/-- A policy is taken exactly when it names the holding. -/
theorem taken_policy (inTable : row.table = .sweepPolicy) :
    taken db holdingId row = policyOf holdingId row := by
  have noRow : row.table ≠ .ledgerEntry ∧ row.table ≠ .holding := by
    rw [inTable]
    decide
  rw [Bool.eq_iff_iff, taken_iff noRow.1 noRow.2, policyOf, Bool.or_eq_true, columnIs_iff,
    columnIs_iff]
  constructor
  · rintro ⟨⟨column, i⟩, refers, owns, leaves⟩
    have inSource := (row.table_of_reference _ refers).symm.trans inTable
    cases column <;> cases inSource
    case mp.policySource.refl => exact .inl (List.mem_singleton.mp leaves ▸ refers)
    case mp.policyDestination.refl => exact .inr (List.mem_singleton.mp leaves ▸ refers)
  · rintro (refers | refers)
    · exact ⟨_, refers, rfl, List.mem_singleton_self holdingId⟩
    · exact ⟨_, refers, rfl, List.mem_singleton_self holdingId⟩

/-! ### What a table gives up -/

/-- What is gone of a table, by the condition on its rows. -/
theorem gone_eq (table : TableName) {condition : Record → Bool}
    (same : ∀ row ∈ db.rows, row.table = table → taken db holdingId row = condition row) :
    (deletionPlan db holdingId).gone db table = db.idsWhere table condition := by
  apply Store.idsWhere_congr
  intro row stored inTable
  exact (Bool.not_not _).trans (same row stored inTable)

/-- The rows that belong to others by one column. -/
theorem gone_source {column : Column} (owns : column.owns = true)
    (single : column.source ≠ .sweepPolicy) :
    (deletionPlan db holdingId).gone db column.source =
      db.idsWhere column.source (columnIn column (goneIds db holdingId column.target)) :=
  gone_eq _ fun _ _ inTable => taken_eq_columnIn inTable owns single

/-- What is gone of a table other than the entries and the holdings. -/
theorem gone_eq_goneIds {column : Column} (noEntry : column.target ≠ .ledgerEntry)
    (noHolding : column.target ≠ .holding) :
    (deletionPlan db holdingId).gone db column.target = goneIds db holdingId column.target := by
  cases target : column.target with
  | descriptor => exact @gone_source db holdingId .descriptorHolding rfl (by decide)
  | address => exact @gone_source db holdingId .addressDescriptor rfl (by decide)
  | paymentRequest => exact @gone_source db holdingId .requestHolding rfl (by decide)
  | sweepExecution => exact @gone_source db holdingId .executionPolicy rfl (by decide)
  | custodialProvider => exact @gone_source db holdingId .providerHolding rfl (by decide)
  | sweepPolicy => exact gone_eq .sweepPolicy fun _ _ inTable => taken_policy inTable
  | ledgerEntry => exact absurd target noEntry
  | holding => exact absurd target noHolding
  | _ => cases column <;> cases target

/-- An entry is gone exactly when it is linked to the deleted holding only. -/
theorem mem_goneIds_ledgerEntry {i : Uuid} :
    i ∈ goneIds db holdingId .ledgerEntry ↔ linkedOnlyTo db holdingId i = true := by
  rw [goneIds, List.mem_filter]
  refine and_iff_right_of_imp fun only => ?_
  rw [linkedOnlyTo, Bool.and_eq_true, decide_eq_true_eq] at only
  exact only.1

/-- Ledger entries and holdings go by their ids. -/
theorem taken_iff_mem_goneIds (byId : row.table = .ledgerEntry ∨ row.table = .holding) :
    taken db holdingId row = true ↔ row.id ∈ goneIds db holdingId row.table := by
  cases row with
  | ledgerEntry row => exact mem_goneIds_ledgerEntry.symm
  | holding row => exact decide_eq_true_iff.trans List.mem_singleton.symm
  | _ => rcases byId with inTable | inTable <;> cases inTable

/-- A value of a column is given up as the row that it refers to is. -/
theorem mem_gone {column : Column} {i : Uuid} (stored : row ∈ db.rows)
    (refers : (column, i) ∈ row.references) :
    i ∈ (deletionPlan db holdingId).gone db column.target ↔
      i ∈ goneIds db holdingId column.target := by
  by_cases inner : column.target ≠ .ledgerEntry ∧ column.target ≠ .holding
  · rw [gone_eq_goneIds inner.1 inner.2]
  · have byId : column.target = .ledgerEntry ∨ column.target = .holding := by
      rwa [not_and_or, not_not, not_not] at inner
    rw [Plan.gone, Store.mem_idsWhere]
    constructor
    · rintro ⟨r, -, inTable, leaves, same⟩
      have ofTable : r.table = column.target := inTable
      have leaves : taken db holdingId r = true := (Bool.not_not _).symm.trans leaves
      rw [taken_iff_mem_goneIds (by rwa [ofTable]), ofTable] at leaves
      exact same ▸ leaves
    · intro leaves
      obtain ⟨r, there, inTable, same⟩ := db.foreignKeys row stored _ refers
      have ofTable : r.table = column.target := inTable
      have sameId : r.id = i := same
      have taken : taken db holdingId r = true := by
        rw [taken_iff_mem_goneIds (by rwa [ofTable]), ofTable, sameId]
        exact leaves
      exact ⟨r, there, inTable, (Bool.not_not _).trans taken, same⟩

/-! ### The statements -/

/-- The tables that a statement of its own takes; the others go by a cascade. -/
def TableName.named : TableName → Bool
  | custodialLedgerEntry | securityHealthItem => false
  | _ => true

/-- A cascade takes both tables in one stage. -/
theorem Column.stage_cascade (column : Column) (acts : column.onDelete = .cascade) :
    column.source.stage = column.target.stage ∧ column.owns = true ∧
      column.source ≠ .sweepPolicy := by
  cases column <;> cases acts <;> decide

/-- A table that is taken in another's stage is taken by a cascade. -/
theorem TableName.cascade_of_stage {table other : TableName} (named : table.named = true)
    (elsewhere : other ≠ table) (together : other.stage = table.stage) :
    ∃ column : Column, column.onDelete = .cascade ∧ column.source = other ∧
      column.target = table := by
  cases table <;> cases named <;> cases other <;> first
    | exact absurd rfl elsewhere
    | exact ⟨.entryProvider, rfl, rfl, rfl⟩
    | exact ⟨.healthItemHolding, rfl, rfl, rfl⟩
    | exact absurd together (by decide)

/-- The columns that are cleared in the stage of a table are those that are set to null. -/
theorem Column.stage_iff {table : TableName} (named : table.named = true) (column : Column) :
    column.stage = table.stage ↔ column.onDelete = .setNull ∧ column.target = table := by
  cases table <;> cases named <;> cases column <;> decide

/-- A column that is set to null loses what is gone of its target. -/
theorem lostValues_of_setNull {column : Column} (acts : column.onDelete = .setNull) :
    lostValues db holdingId column = goneIds db holdingId column.target := by
  cases column <;> cases acts <;> rfl

/-- The plan is right about each of the deletions. -/
theorem deletes {table : TableName} {condition : Record → Bool} (named : table.named = true)
    (stage : table.stage = n + 1)
    (condition_eq : ∀ row, row.table = table →
      condition ((deletionPlan db holdingId).rowAt n row) = taken db holdingId row) :
    Plan.Deletes (deletionPlan db holdingId) db n table condition where
  stage := stage
  condition := fun row _ inTable =>
    (condition_eq row inTable).trans (Bool.not_not _).symm
  cascades := by
    intro row stored elsewhere
    constructor
    · rintro ⟨together, leaves⟩
      obtain ⟨column, acts, inSource, targets⟩ :=
        TableName.cascade_of_stage named elsewhere (together.trans stage.symm)
      obtain ⟨-, owns, single⟩ := column.stage_cascade acts
      have leaves : taken db holdingId row = true := (Bool.not_eq_false' _).mp leaves
      rw [taken_eq_columnIn inSource.symm owns single, columnIn_iff] at leaves
      obtain ⟨i, leaves, refers⟩ := leaves
      exact ⟨(column, i), refers, acts, targets, targets ▸ (mem_gone stored refers).mpr leaves⟩
    · rintro ⟨⟨column, i⟩, refers, acts, targets, leaves⟩
      obtain ⟨together, owns, single⟩ := column.stage_cascade acts
      have inSource := row.table_of_reference _ refers
      have ofTable : column.target = table := targets
      rw [← targets] at leaves
      have goes : taken db holdingId row = true := by
        rw [taken_eq_columnIn inSource owns single, columnIn_iff]
        exact ⟨i, (mem_gone stored refers).mp leaves, refers⟩
      have atStage : row.table.stage = n + 1 := by
        rw [inSource, together, ofTable, stage]
      exact ⟨atStage, (Bool.not_eq_false' _).mpr goes⟩
  cascadesOpen := by
    intro row column acts
    cases column <;> cases acts <;> exact columnIn_nil _ row
  nulls := by
    rintro row stored ⟨column, i⟩ refers
    constructor
    · rintro ⟨together, clears⟩
      obtain ⟨acts, targets⟩ := (column.stage_iff named).mp (together.trans stage.symm)
      obtain ⟨i', lost, refers'⟩ := columnIn_iff.mp clears
      rw [lostValues_of_setNull acts, ← references_functional refers refers'] at lost
      exact ⟨acts, targets, targets ▸ (mem_gone stored refers).mpr lost⟩
    · rintro ⟨acts, targets, leaves⟩
      have together := (column.stage_iff named).mpr ⟨acts, targets⟩
      rw [← targets] at leaves
      refine ⟨together.trans stage, columnIn_iff.mpr ⟨i, ?_, refers⟩⟩
      rw [lostValues_of_setNull acts]
      exact (mem_gone stored refers).mp leaves

/-! ### Restrictions -/

/-- The restricting columns that no earlier statement looks after. -/
def Column.exposed : Column → Bool
  | utxoAddress | invoiceAddress | invoiceLedgerEntry | providerWhitelistDescriptor
  | entryHolding => true
  | _ => false

/-- A link to an entry that only the holding is linked to is the holding's. -/
theorem taken_of_linkedOnlyTo {i : Uuid} (stored : row ∈ db.rows)
    (refers : (.linkLedgerEntry, i) ∈ row.references) (only : linkedOnlyTo db holdingId i = true) :
    taken db holdingId row = true := by
  have inSource := row.table_of_reference _ refers
  cases row <;> cases inSource
  rename_i link
  have same : link.ledgerEntryId = i :=
    references_functional List.mem_cons_self refers
  rw [linkedOnlyTo, Bool.and_eq_true, Bool.not_eq_true', linkedElsewhere, List.any_eq_false] at only
  have here := only.2 _ stored
  rw [decide_eq_true_eq, not_and_not_right] at here
  exact decide_eq_true (here same)

/-- An entry that is linked to the deleted holding only is linked to it. -/
theorem lost_of_linkedOnlyTo {i : Uuid} (only : linkedOnlyTo db holdingId i = true) :
    i ∈ linkedEntryIds db holdingId := by
  rw [linkedOnlyTo, Bool.and_eq_true, decide_eq_true_eq] at only
  exact only.1

/-- The restricting columns that are neither exposed nor owning are these four. -/
theorem Column.rest_of_restricts (column : Column) (restricts : column.onDelete = .restrict)
    (hidden : column.exposed = false) (unowned : ¬column.owns = true) :
    column = .linkLedgerEntry ∨ column = .entrySweepExecution ∨ column = .requestLedgerEntry ∨
      column = .entryChainEntry := by
  cases column <;> cases restricts <;> cases hidden <;> first | exact absurd rfl unowned | decide

/-- The other restricting columns: before the row that they refer to goes, their own row has gone,
    or they have been set to null. -/
theorem settled {column : Column} {i : Uuid} (stored : row ∈ db.rows)
    (refers : (column, i) ∈ row.references) (restricts : column.onDelete = .restrict)
    (hidden : column.exposed = false) (leaves : i ∈ goneIds db holdingId column.target) :
    taken db holdingId row = true ∧ column.source.stage < column.target.stage ∨
      columnIn column (lostValues db holdingId column) row = true ∧
        column.stage < column.target.stage := by
  have noSource : column.source ≠ .ledgerEntry ∧ column.source ≠ .holding := by
    cases column <;> decide
  rw [← row.table_of_reference _ refers] at noSource
  by_cases owns : column.owns = true
  · left
    refine ⟨(taken_iff noSource.1 noSource.2).mpr ⟨_, refers, owns, leaves⟩, ?_⟩
    cases column <;> cases owns <;> cases restricts <;> decide
  · rcases column.rest_of_restricts restricts hidden owns with rfl | rfl | rfl | rfl
    · exact .inl ⟨taken_of_linkedOnlyTo stored refers (mem_goneIds_ledgerEntry.mp leaves), by decide⟩
    · exact .inr ⟨columnIn_iff.mpr ⟨i, leaves, refers⟩, by decide⟩
    · have lost := lost_of_linkedOnlyTo (mem_goneIds_ledgerEntry.mp leaves)
      exact .inr ⟨columnIn_iff.mpr ⟨i, lost, refers⟩, by decide⟩
    · have lost := lost_of_linkedOnlyTo (mem_goneIds_ledgerEntry.mp leaves)
      exact .inr ⟨columnIn_iff.mpr ⟨i, lost, refers⟩, by decide⟩

/-- A deletion returns where no exposed column of a row that is there refers to what goes. -/
theorem unrestricted_iff {table : TableName} (stage : table.stage = n + 1) :
    (deletionPlan db holdingId).Unrestricted db n table ↔
      ∀ row ∈ db.rows, (deletionPlan db holdingId).keepsAt n row = true →
        ∀ column : Column, column.exposed = true → column.target = table →
          ∀ i, (column, i) ∈ row.references → i ∉ goneIds db holdingId table := by
  constructor
  · intro free row stored before column exposed targets i refers leaves
    subst targets
    have clears := free row stored before _ refers (by cases column <;> cases exposed <;> rfl) rfl
      ((mem_gone stored refers).mpr leaves)
    have keeps : lostValues db holdingId column = [] := by
      cases column <;> cases exposed <;> rfl
    rw [clearsAt_of_keeps keeps] at clears
    cases clears
  · rintro free row stored before ⟨column, i⟩ refers restricts rfl leaves
    have leaves : i ∈ goneIds db holdingId column.target := (mem_gone stored refers).mp leaves
    have stage : column.target.stage = n + 1 := stage
    cases exposed : column.exposed with
    | true => exact absurd leaves (free row stored before column exposed rfl i refers)
    | false =>
        rcases settled stored refers restricts exposed leaves with ⟨goes, earlier⟩ | ⟨lost, earlier⟩
        · have inSource : row.table = column.source := row.table_of_reference _ refers
          have past : row.table.stage ≤ n := by
            rw [inSource]
            omega
          rw [stays_of_keepsAt past before] at goes
          cases goes
        · have past : column.stage ≤ n := by omega
          rw [clearsAt_eq, lost, decide_eq_true past, Bool.and_self]

/-- Nothing restricts a table that no exposed column points at. -/
theorem unrestricted_of_hidden {table : TableName} (stage : table.stage = n + 1)
    (hidden : ∀ column : Column, column.exposed = true → column.target ≠ table) :
    (deletionPlan db holdingId).Unrestricted db n table :=
  (unrestricted_iff stage).mpr fun _ _ _ column exposed targets _ _ =>
    absurd targets (hidden column exposed)

end TallyKeep
