/-
Module: TallyKeep.Proofs.DeletionStatements
Layer: Proofs
Purpose: The statements of `delete_cascade` follow the plan, with its subqueries and candidates as
  they are when they are read.
Trusted boundary: none
Main exports: runs_deleteWhere, runs_deleteOwned, runs_setNull, runs_deleteRows
-/
import TallyKeep.Proofs.DeletionPlan

namespace TallyKeep

open ForeignKeys

variable {db now : LinkedStore} {holdingId : Uuid} {n : Nat}

/-- A part of the cascade follows the plan from one statement to another, and it returns exactly
    under a condition. -/
abbrev CascadeRuns (db : LinkedStore) (holdingId : Uuid) (n m : Nat) (P : Prop)
    (f : LinkedStore → Except PyError LinkedStore) : Prop :=
  (deletionPlan db holdingId).Runs db n m P f

/-- No row that is there restricts the deletion from the table. -/
abbrev Unrestricted (db : LinkedStore) (holdingId : Uuid) (n : Nat) (table : TableName) : Prop :=
  (deletionPlan db holdingId).Unrestricted db n table

/-! ### One statement -/

/-- A statement that deletes by a condition runs the stage of its table. -/
theorem runs_deleteWhere {table : TableName} {condition : LinkedStore → Record → Bool}
    (named : table.named = true) (stage : table.stage = n + 1)
    (condition_eq : ∀ now, (deletionPlan db holdingId).At db n now → ∀ row, row.table = table →
      condition now ((deletionPlan db holdingId).rowAt n row) = taken db holdingId row) :
    CascadeRuns db holdingId n (n + 1) (Unrestricted db holdingId n table) fun now =>
      deleteWhere now table (condition now) :=
  Plan.Deletes.runs restrictViolation fun now reached =>
    deletes named stage (condition_eq now reached)

/-- A deletion by the column that the table's rows go by. -/
theorem runs_deleteOwned (column : Column) (owns : column.owns = true)
    (single : column.source ≠ .sweepPolicy) (named : column.source.named = true)
    (stage : column.source.stage = n + 1) {values : LinkedStore → List Uuid}
    (same : ∀ now, (deletionPlan db holdingId).At db n now →
      values now = goneIds db holdingId column.target) :
    CascadeRuns db holdingId n (n + 1) (Unrestricted db holdingId n column.source) fun now =>
      deleteWhere now column.source (columnIn column (values now)) := by
  have keeps : lostValues db holdingId column = [] := by
    cases column <;> cases owns <;> rfl
  apply runs_deleteWhere named stage
  intro now reached row inTable
  rw [same now reached, columnIn_rowAt keeps, taken_eq_columnIn inTable owns single]

/-- An update of the column that sets its lost values to null. -/
theorem runs_setNull (column : Column) (nullable : column.nullable = true)
    (stage : ∀ other : Column, other.stage = n + 1 ↔ other = column)
    (tablesLater : ∀ table : TableName, table.stage ≠ n + 1) {values : LinkedStore → List Uuid}
    (same : ∀ now, (deletionPlan db holdingId).At db n now → ∀ i,
      i ∈ values now ↔ i ∈ lostValues db holdingId column) :
    CascadeRuns db holdingId n (n + 1) True fun now =>
      .ok (now.setNull column nullable (columnIn column (values now))) := by
  apply Plan.Runs.of_pure
  intro now reached
  apply reached.setNull nullable tablesLater stage
  intro row stored _ i refers
  have later : (deletionPlan db holdingId).clearsAt n row column = false := by
    rw [clearsAt_eq, (stage column).mpr rfl, decide_eq_false (by omega), Bool.false_and]
  rw [columnIn, Plan.refersTo_rowAt later, Bool.eq_iff_iff, refersTo_iff]
  exact (exists_congr fun i => and_congr_left' (same now reached i)).trans columnIn_iff.symm

/-! ### Subqueries -/

/-- Clearing columns leaves which policies name the holding. -/
theorem policyOf_rowAt (row : Record) :
    policyOf holdingId ((deletionPlan db holdingId).rowAt n row) = policyOf holdingId row := by
  rw [policyOf, policyOf, columnIs, columnIs, columnIn_rowAt rfl, columnIn_rowAt rfl]

section Subqueries

variable (reached : (deletionPlan db holdingId).At db n now)

include reached

theorem policySubq_at (later : n < TableName.stage .sweepPolicy) :
    policySubq now holdingId = policySubq db holdingId := by
  exact reached.idsWhere_eq later fun row _ => policyOf_rowAt row

theorem executionSubq_at (later : n < TableName.stage .sweepExecution) :
    executionSubq now holdingId = executionSubq db holdingId := by
  rw [executionSubq, policySubq_at reached (Nat.lt_succ_of_lt later)]
  refine reached.idsWhere_eq later fun row _ => ?_
  rw [columnIn_rowAt rfl]

theorem descSubq_at (later : n < TableName.stage .descriptor) :
    descSubq now holdingId = descSubq db holdingId := by
  refine reached.idsWhere_eq later fun row _ => ?_
  rw [columnIs, columnIn_rowAt rfl]

theorem prSubq_at (later : n < TableName.stage .paymentRequest) :
    prSubq now holdingId = prSubq db holdingId := by
  refine reached.idsWhere_eq later fun row _ => ?_
  rw [columnIs, columnIn_rowAt rfl]

/-- The candidates, where no link has been taken yet. -/
theorem mem_linkedEntryIds_at (later : n < TableName.stage .ledgerEntryHoldingLink) (i : Uuid) :
    i ∈ linkedEntryIds now holdingId ↔ i ∈ linkedEntryIds db holdingId := by
  rw [linkedEntryIds, linkedEntryIds, Store.mem_valuesWhere, Store.mem_valuesWhere]
  constructor
  · rintro ⟨r', member, ofHolding, refers⟩
    obtain ⟨row, stored, -, rfl⟩ := reached.mem_iff.mp member
    rw [columnIs, columnIn_rowAt rfl] at ofHolding
    exact ⟨row, stored, ofHolding, (Plan.mem_refs_rowAt.mp refers).1⟩
  · rintro ⟨row, stored, ofHolding, refers⟩
    have inLinks : row.table = .ledgerEntryHoldingLink := row.table_of_reference _ refers
    have there : n < row.table.stage := by
      rw [inLinks]
      exact later
    refine ⟨_, reached.mem_iff.mpr ⟨row, stored, keepsAt_of_later there, rfl⟩, ?_,
      Plan.mem_refs_rowAt.mpr ⟨refers, clearsAt_of_keeps rfl row⟩⟩
    rw [columnIs, columnIn_rowAt rfl]
    exact ofHolding

end Subqueries

/-- An entry is linked elsewhere exactly when a link that stays names it. -/
theorem linkedElsewhere_iff {i : Uuid} :
    linkedElsewhere db holdingId i = true ↔
      ∃ row ∈ db.rows, taken db holdingId row = false ∧ (.linkLedgerEntry, i) ∈ row.references := by
  rw [linkedElsewhere, List.any_eq_true]
  refine exists_congr fun row => and_congr_right fun _ => ?_
  constructor
  · intro other
    cases row with
    | ledgerEntryHoldingLink link =>
        obtain ⟨same, elsewhere⟩ := of_decide_eq_true other
        exact ⟨decide_eq_false elsewhere, same ▸ List.mem_cons_self⟩
    | _ => cases other
  · rintro ⟨stays, refers⟩
    have inLinks : row.table = .ledgerEntryHoldingLink := row.table_of_reference _ refers
    cases row with
    | ledgerEntryHoldingLink link =>
        have same : link.ledgerEntryId = i := references_functional List.mem_cons_self refers
        exact decide_eq_true ⟨same, of_decide_eq_false stays⟩
    | _ => cases inLinks

/-- The links that are left tell which candidates have lost all of theirs. -/
theorem unlinkedCandidate_at (reached : (deletionPlan db holdingId).At db 13 now)
    {candidateIds : List Uuid} (candidates : ∀ i, i ∈ candidateIds ↔ i ∈ linkedEntryIds db holdingId)
    (i : Uuid) :
    (decide (i ∈ candidateIds) && !decide (i ∈ now.valuesWhere .linkLedgerEntry
      (columnIn .linkLedgerEntry candidateIds))) = linkedOnlyTo db holdingId i := by
  rw [linkedOnlyTo, decide_eq_decide.mpr (candidates i)]
  by_cases candidate : i ∈ linkedEntryIds db holdingId
  · rw [decide_eq_true candidate, Bool.true_and, Bool.true_and]
    congr 1
    rw [Bool.eq_iff_iff, decide_eq_true_eq, linkedElsewhere_iff, Store.mem_valuesWhere]
    constructor
    · rintro ⟨r', member, -, refers⟩
      obtain ⟨row, stored, keeps, rfl⟩ := reached.mem_iff.mp member
      have refers := (Plan.mem_refs_rowAt.mp refers).1
      have inLinks : row.table = .ledgerEntryHoldingLink := row.table_of_reference _ refers
      have past : row.table.stage ≤ 13 := by
        rw [inLinks]
        decide
      exact ⟨row, stored, stays_of_keepsAt past keeps, refers⟩
    · rintro ⟨row, stored, stays, refers⟩
      refine ⟨_, reached.mem_iff.mpr ⟨row, stored, keepsAt_of_stays stays, rfl⟩, ?_,
        Plan.mem_refs_rowAt.mpr ⟨refers, clearsAt_of_keeps rfl row⟩⟩
      rw [columnIn_rowAt rfl, columnIn_iff]
      exact ⟨i, (candidates i).mpr candidate, refers⟩
  · rw [decide_eq_false candidate, Bool.false_and, Bool.false_and]

/-! ### The sections of the cascade -/

/-- A deletion from a table that no exposed column refers to. -/
theorem runs_of_hidden {table : TableName} {f : LinkedStore → Except PyError LinkedStore}
    (runs : CascadeRuns db holdingId n (n + 1) (Unrestricted db holdingId n table) f)
    (stage : table.stage = n + 1)
    (hidden : ∀ column : Column, column.exposed = true → column.target ≠ table) :
    CascadeRuns db holdingId n (n + 1) True f :=
  runs.congr (iff_true_intro (unrestricted_of_hidden stage hidden))

/-- The statements on the sweeps run their stages. -/
theorem runs_deleteSweeps : CascadeRuns db holdingId 1 4 True (deleteSweeps holdingId) := by
  have links : CascadeRuns db holdingId 1 2 True fun now =>
      .ok (now.setNull .entrySweepExecution rfl
        (columnIn .entrySweepExecution (executionSubq now holdingId))) := by
    apply runs_setNull
    · intro other
      cases other <;> decide
    · intro table
      cases table <;> decide
    · intro now reached i
      rw [executionSubq_at reached (by decide)]
      rfl
  have executions : CascadeRuns db holdingId 2 3 True fun now =>
      deleteWhere now .sweepExecution (columnIn .executionPolicy (policySubq now holdingId)) := by
    apply runs_of_hidden (runs_deleteOwned .executionPolicy rfl (by decide) rfl rfl ?_) rfl
    · intro column exposed
      cases column <;> cases exposed <;> decide
    · exact fun now reached => policySubq_at reached (by decide)
  have policies : CascadeRuns db holdingId 3 4 True fun now =>
      deleteWhere now .sweepPolicy (policyOf holdingId) := by
    apply runs_of_hidden (runs_deleteWhere rfl rfl ?_) rfl
    · intro column exposed
      cases column <;> cases exposed <;> decide
    · intro now reached row inTable
      rw [policyOf_rowAt, taken_policy inTable]
  exact (links.bind (executions.bind policies)).congr (by simp only [and_self])

/-- The statements on the chain side run theirs, if nothing restricts them. -/
theorem runs_deleteChainSide :
    CascadeRuns db holdingId 4 7 (Unrestricted db holdingId 5 .address ∧
      Unrestricted db holdingId 6 .descriptor) (deleteChainSide holdingId) := by
  have utxos : CascadeRuns db holdingId 4 5 True fun now =>
      deleteWhere now .utxo (columnIn .utxoDescriptor (descSubq now holdingId)) := by
    apply runs_of_hidden (runs_deleteOwned .utxoDescriptor rfl (by decide) rfl rfl ?_) rfl
    · intro column exposed
      cases column <;> cases exposed <;> decide
    · exact fun now reached => descSubq_at reached (by decide)
  have addresses : CascadeRuns db holdingId 5 6 (Unrestricted db holdingId 5 .address) fun now =>
      deleteWhere now .address (columnIn .addressDescriptor (descSubq now holdingId)) :=
    runs_deleteOwned .addressDescriptor rfl (by decide) rfl rfl
      fun now reached => descSubq_at reached (by decide)
  have descriptors : CascadeRuns db holdingId 6 7 (Unrestricted db holdingId 6 .descriptor)
      fun now => deleteWhere now .descriptor (columnIs .descriptorHolding holdingId) :=
    runs_deleteOwned .descriptorHolding rfl (by decide) rfl rfl fun _ _ => rfl
  exact (utxos.bind (addresses.bind descriptors)).congr (by rw [true_and])

/-- The statements on the payments run their stages. -/
theorem runs_deletePayments : CascadeRuns db holdingId 7 10 True (deletePayments holdingId) := by
  have attempts : CascadeRuns db holdingId 7 8 True fun now =>
      deleteWhere now .broadcastAttempt (columnIn .attemptRequest (prSubq now holdingId)) := by
    apply runs_of_hidden (runs_deleteOwned .attemptRequest rfl (by decide) rfl rfl ?_) rfl
    · intro column exposed
      cases column <;> cases exposed <;> decide
    · exact fun now reached => prSubq_at reached (by decide)
  have requests : CascadeRuns db holdingId 8 9 True fun now =>
      deleteWhere now .paymentRequest (columnIs .requestHolding holdingId) := by
    apply runs_of_hidden (runs_deleteOwned .requestHolding rfl (by decide) rfl rfl ?_) rfl
    · intro column exposed
      cases column <;> cases exposed <;> decide
    · exact fun _ _ => rfl
  have invoices : CascadeRuns db holdingId 9 10 True fun now =>
      deleteWhere now .invoice (columnIs .invoiceHolding holdingId) := by
    apply runs_of_hidden (runs_deleteOwned .invoiceHolding rfl (by decide) rfl rfl ?_) rfl
    · intro column exposed
      cases column <;> cases exposed <;> decide
    · exact fun _ _ => rfl
  exact (attempts.bind (requests.bind invoices)).congr (by simp only [and_self])

section Candidates

variable {candidateIds : List Uuid}
  (candidates : ∀ i, i ∈ candidateIds ↔ i ∈ linkedEntryIds db holdingId)

include candidates

/-- Without candidates, their statements would take nothing. -/
theorem at_skip (none : candidateIds = [])
    (tables : ∀ table : TableName, table.stage = n + 1 → table = .ledgerEntry)
    (columns : ∀ column : Column, column.stage = n + 1 →
      lostValues db holdingId column = linkedEntryIds db holdingId)
    (reached : (deletionPlan db holdingId).At db n now) :
    (deletionPlan db holdingId).At db (n + 1) now := by
  have noneLinked : linkedEntryIds db holdingId = [] := by
    rw [List.eq_nil_iff_forall_not_mem]
    intro i linked
    rw [← candidates i, none] at linked
    cases linked
  apply reached.skip
  · intro row _ here
    have byId : row.table = .ledgerEntry := tables _ here
    refine (Bool.not_eq_true' _).mpr (Bool.eq_false_iff.mpr fun goes => ?_)
    rw [taken_iff_mem_goneIds (.inl byId), byId, goneIds, noneLinked] at goes
    cases goes
  · rintro row _ ⟨column, i⟩ _ here
    have lost := columns column here
    exact (congrArg (columnIn column · row) (lost.trans noneLinked)).trans (columnIn_nil column row)

/-- The candidates are forgotten in their stages. -/
theorem runs_forgetCandidates :
    CascadeRuns db holdingId 10 12 True (forgetCandidates candidateIds) := by
  by_cases none : candidateIds = []
  · have skipped : CascadeRuns db holdingId 10 12 True fun now => .ok now := by
      apply Plan.Runs.of_pure
      intro now reached
      apply at_skip candidates none _ _ (at_skip candidates none _ _ reached)
      all_goals
        intro here stage
        cases here <;> first | rfl | cases stage
    unfold forgetCandidates
    simp only [none, if_true]
    exact skipped
  · have entries : CascadeRuns db holdingId 10 11 True fun now =>
        .ok (now.setNull .entryChainEntry rfl (columnIn .entryChainEntry candidateIds)) := by
      apply runs_setNull
      · intro other
        cases other <;> decide
      · intro table
        cases table <;> decide
      · exact fun _ _ i => candidates i
    have requests : CascadeRuns db holdingId 11 12 True fun now =>
        .ok (now.setNull .requestLedgerEntry rfl (columnIn .requestLedgerEntry candidateIds)) := by
      apply runs_setNull
      · intro other
        cases other <;> decide
      · intro table
        cases table <;> decide
      · exact fun _ _ i => candidates i
    unfold forgetCandidates
    simp only [none, if_false]
    exact (entries.bind requests).congr (by simp only [and_self])

/-- The statements on the ledger run theirs, if nothing restricts them. -/
theorem runs_deleteLedgerLinks :
    CascadeRuns db holdingId 10 14 (Unrestricted db holdingId 13 .ledgerEntry)
      (deleteLedgerLinks holdingId candidateIds) := by
  have links : CascadeRuns db holdingId 12 13 True fun now =>
      deleteWhere now .ledgerEntryHoldingLink (columnIs .linkHolding holdingId) := by
    apply runs_of_hidden (runs_deleteOwned .linkHolding rfl (by decide) rfl rfl ?_) rfl
    · intro column exposed
      cases column <;> cases exposed <;> decide
    · exact fun _ _ => rfl
  have entries : CascadeRuns db holdingId 13 14 (Unrestricted db holdingId 13 .ledgerEntry)
      fun now => if candidateIds = [] then .ok now
        else deleteWhere now .ledgerEntry (unlinkedCandidate now candidateIds) := by
    by_cases none : candidateIds = []
    · simp only [none, if_true]
      have skipped : CascadeRuns db holdingId 13 14 True fun now => .ok now := by
        apply Plan.Runs.of_pure
        intro now reached
        apply at_skip candidates none _ _ reached
        all_goals
          intro here stage
          cases here <;> first | rfl | cases stage
      apply skipped.congr
      refine (iff_true_intro ((unrestricted_iff rfl).mpr ?_)).symm
      intro row stored _ column _ _ i _ leaves
      have linked := lost_of_linkedOnlyTo (mem_goneIds_ledgerEntry.mp leaves)
      rw [← candidates i, none] at linked
      cases linked
    · simp only [none, if_false]
      apply runs_deleteWhere rfl rfl
      intro now reached row inTable
      have goes : taken db holdingId row = linkedOnlyTo db holdingId row.id := by
        rw [Bool.eq_iff_iff, taken_iff_mem_goneIds (.inl inTable), inTable, mem_goneIds_ledgerEntry]
      rw [goes, ← unlinkedCandidate_at reached candidates row.id, unlinkedCandidate,
        record_id_rowAt]
  exact ((runs_forgetCandidates candidates).bind (links.bind entries)).congr
    (by rw [true_and, true_and])

end Candidates

/-- All statements run all stages, if nothing restricts them. -/
theorem runs_deleteRows :
    CascadeRuns db holdingId 0 16
      ((Unrestricted db holdingId 5 .address ∧ Unrestricted db holdingId 6 .descriptor) ∧
        Unrestricted db holdingId 13 .ledgerEntry ∧ Unrestricted db holdingId 15 .holding)
      (deleteRows holdingId) := by
  have audit : CascadeRuns db holdingId 0 1 True fun now =>
      deleteWhere now .holdingTypeChangeLog (columnIs .typeChangeHolding holdingId) := by
    apply runs_of_hidden (runs_deleteOwned .typeChangeHolding rfl (by decide) rfl rfl ?_) rfl
    · intro column exposed
      cases column <;> cases exposed <;> decide
    · exact fun _ _ => rfl
  have links : CascadeRuns db holdingId 10 14 (Unrestricted db holdingId 13 .ledgerEntry)
      fun now => deleteLedgerLinks holdingId (linkedEntryIds now holdingId) now :=
    Plan.Runs.of_at fun now reached =>
      runs_deleteLedgerLinks (mem_linkedEntryIds_at reached (by decide))
  have providers : CascadeRuns db holdingId 14 15 True fun now =>
      deleteWhere now .custodialProvider (columnIs .providerHolding holdingId) := by
    apply runs_of_hidden (runs_deleteOwned .providerHolding rfl (by decide) rfl rfl ?_) rfl
    · intro column exposed
      cases column <;> cases exposed <;> decide
    · exact fun _ _ => rfl
  have holding : CascadeRuns db holdingId 15 16 (Unrestricted db holdingId 15 .holding) fun now =>
      deleteWhere now .holding fun row => decide (row.id = holdingId) := by
    apply runs_deleteWhere rfl rfl
    intro now _ row inTable
    rw [Bool.eq_iff_iff, taken_iff_mem_goneIds (.inr inTable), inTable, goneIds, List.mem_singleton,
      decide_eq_true_eq, record_id_rowAt]
  exact (audit.bind (runs_deleteSweeps.bind (runs_deleteChainSide.bind (runs_deletePayments.bind
    (links.bind (providers.bind holding)))))).congr (by simp only [true_and])

end TallyKeep
