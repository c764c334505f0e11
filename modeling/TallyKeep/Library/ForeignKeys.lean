/-
Module: TallyKeep.Library.ForeignKeys
Layer: Library
Purpose: Databases with foreign keys: rows of several tables that refer to each other by their ids,
  and what `DELETE` and `UPDATE .. SET column = NULL` do to them.
Trusted boundary: `Store.delete` states what SQL does on a deletion.  Every `RESTRICT` is checked
  before anything is written, rows that a cascade reaches are referred to by nothing (a law of
  `Schema`), and of several violated constraints any may be the one that is reported
Main exports: OnDelete, Schema, Store, Store.idsWhere, refersTo, Store.Blocked, Store.delete,
  Store.setNull, Plan, Plan.At, Plan.At.setNull, Plan.Deletes, Plan.Runs, Plan.Runs.bind,
  Plan.At.not_referenced
-/
import Mathlib.Data.List.Nodup

namespace ForeignKeys

universe u v w x

/-- What becomes of a row when the row that it refers to is deleted. -/
inductive OnDelete where
  | restrict
  | cascade
  | setNull
deriving Repr, DecidableEq

/-- The rows of all tables: their ids, their references as the foreign-key columns that are not
    null, and the row with some nullable columns set to null. -/
structure Schema (ρ : Type u) (τ : Type v) (ι : Type w) (κ : Type x) where
  table : ρ → τ
  id : ρ → ι
  refs : ρ → List (κ × ι)
  without : (κ → Bool) → ρ → ρ
  source : κ → τ
  target : κ → τ
  onDelete : κ → OnDelete
  nullable : κ → Bool
  table_without : ∀ p r, table (without p r) = table r
  id_without : ∀ p r, id (without p r) = id r
  refs_without : ∀ p r, (∀ k, p k = true → nullable k = true) →
    refs (without p r) = (refs r).filter fun ref => !p ref.1
  without_without : ∀ p q r, without p (without q r) = without (fun k => q k || p k) r
  without_congr : ∀ p q r, (∀ ref ∈ refs r, p ref.1 = q ref.1) → without p r = without q r
  without_none : ∀ r, without (fun _ => false) r = r
  table_of_ref : ∀ r, ∀ ref ∈ refs r, table r = source ref.1
  nullable_of_setNull : ∀ k, onDelete k = .setNull → nullable k = true
  cascade_ends : ∀ k, onDelete k = .cascade → ∀ k', target k' ≠ source k

variable {ρ : Type u} {τ : Type v} {ι : Type w} {κ : Type x}

/-- A database: rows whose primary keys are unique where something may refer to them, and whose
    references are to rows that exist. -/
structure Store (S : Schema ρ τ ι κ) where
  rows : List ρ
  primaryKeys : ∀ k, ∀ r ∈ rows, ∀ r' ∈ rows, S.table r = S.target k → S.table r' = S.target k →
    S.id r = S.id r' → r = r'
  foreignKeys : ∀ r ∈ rows, ∀ ref ∈ S.refs r,
    ∃ r' ∈ rows, S.table r' = S.target ref.1 ∧ S.id r' = ref.2

variable {S : Schema ρ τ ι κ}

/-- Rows of no two of which the table and the id are the same. -/
theorem primaryKeys_of_nodup {rows : List ρ}
    (distinct : (rows.map fun r => (S.table r, S.id r)).Nodup) (k : κ) :
    ∀ r ∈ rows, ∀ r' ∈ rows, S.table r = S.target k → S.table r' = S.target k →
      S.id r = S.id r' → r = r' := by
  intro r member r' member' inTable inTable' same
  exact List.inj_on_of_nodup_map distinct member member'
    (Prod.ext (inTable.trans inTable'.symm) same)

section Conditions

variable [DecidableEq ι] [DecidableEq κ]

/-- The column of the row has one of the values. -/
def refersTo (S : Schema ρ τ ι κ) (k : κ) (ids : List ι) (r : ρ) : Bool :=
  (S.refs r).any fun ref => decide (ref.1 = k ∧ ref.2 ∈ ids)

theorem refersTo_iff {k : κ} {ids : List ι} {r : ρ} :
    refersTo S k ids r = true ↔ ∃ i ∈ ids, (k, i) ∈ S.refs r := by
  rw [refersTo, List.any_eq_true]
  constructor
  · rintro ⟨⟨_, i⟩, member, same⟩
    obtain ⟨rfl, listed⟩ := of_decide_eq_true same
    exact ⟨i, listed, member⟩
  · rintro ⟨i, listed, member⟩
    exact ⟨(k, i), member, decide_eq_true ⟨rfl, listed⟩⟩

/-- Nulling other columns leaves a column as it is. -/
theorem refersTo_without {k : κ} {ids : List ι} {r : ρ} {p : κ → Bool}
    (nullable : ∀ k, p k = true → S.nullable k = true) (keeps : p k = false) :
    refersTo S k ids (S.without p r) = refersTo S k ids r := by
  rw [Bool.eq_iff_iff, refersTo_iff, refersTo_iff, S.refs_without p r nullable]
  refine exists_congr fun i => and_congr_right fun _ => ?_
  rw [List.mem_filter, keeps]
  exact and_iff_left rfl

end Conditions

namespace Store

section Queries

variable [DecidableEq τ]

/-- `SELECT id FROM table WHERE condition`. -/
def idsWhere (db : Store S) (table : τ) (condition : ρ → Bool) : List ι :=
  (db.rows.filter fun r => decide (S.table r = table) && condition r).map S.id

theorem mem_idsWhere {db : Store S} {table : τ} {condition : ρ → Bool} {i : ι} :
    i ∈ db.idsWhere table condition ↔
      ∃ r ∈ db.rows, S.table r = table ∧ condition r = true ∧ S.id r = i := by
  rw [idsWhere, List.mem_map]
  simp only [List.mem_filter, Bool.and_eq_true, decide_eq_true_eq, and_assoc]

theorem idsWhere_congr {db : Store S} {table : τ} {condition other : ρ → Bool}
    (same : ∀ r ∈ db.rows, S.table r = table → condition r = other r) :
    db.idsWhere table condition = db.idsWhere table other := by
  rw [idsWhere, idsWhere]
  congr 1
  apply List.filter_congr
  intro r stored
  by_cases inTable : S.table r = table
  · rw [same r stored inTable]
  · rw [decide_eq_false inTable, Bool.false_and, Bool.false_and]

end Queries

section Values

variable [DecidableEq κ]

/-- `SELECT column FROM .. WHERE condition`, without the nulls. -/
def valuesWhere (db : Store S) (k : κ) (condition : ρ → Bool) : List ι :=
  (db.rows.filter condition).flatMap fun r =>
    (S.refs r).filterMap fun ref => if ref.1 = k then some ref.2 else none

theorem mem_valuesWhere {db : Store S} {k : κ} {condition : ρ → Bool} {i : ι} :
    i ∈ db.valuesWhere k condition ↔
      ∃ r ∈ db.rows, condition r = true ∧ (k, i) ∈ S.refs r := by
  simp only [valuesWhere, List.mem_flatMap, List.mem_filter, List.mem_filterMap, and_assoc]
  refine exists_congr fun r => and_congr_right fun _ => and_congr_right fun _ => ?_
  constructor
  · rintro ⟨⟨k', i'⟩, member, same⟩
    split at same
    · rename_i here
      cases same
      cases here
      exact member
    · cases same
  · intro member
    exact ⟨(k, i), member, if_pos rfl⟩

end Values

/-! ### `UPDATE` -/

section Update

variable [DecidableEq κ]

/-- The rows with a column set to null where the condition holds. -/
def nulled (db : Store S) (k : κ) (condition : ρ → Bool) : List ρ :=
  db.rows.map fun r => S.without (fun k' => decide (k' = k) && condition r) r

/-- `UPDATE .. SET column = NULL WHERE condition`. -/
def setNull (db : Store S) (k : κ) (nullable : S.nullable k = true) (condition : ρ → Bool) :
    Store S where
  rows := db.nulled k condition
  primaryKeys := by
    intro k' r member r' member' ofTable ofTable' same
    obtain ⟨base, stored, rfl⟩ := List.mem_map.mp member
    obtain ⟨base', stored', rfl⟩ := List.mem_map.mp member'
    rw [S.table_without] at ofTable ofTable'
    rw [S.id_without, S.id_without] at same
    rw [db.primaryKeys k' base stored base' stored' ofTable ofTable' same]
  foreignKeys := by
    intro r member ref refers
    obtain ⟨base, stored, rfl⟩ := List.mem_map.mp member
    rw [S.refs_without _ _ (by simp_all)] at refers
    obtain ⟨target, there, ofTable, same⟩ :=
      db.foreignKeys base stored ref (List.mem_filter.mp refers).1
    exact ⟨_, List.mem_map_of_mem there, (S.table_without _ _).trans ofTable,
      (S.id_without _ _).trans same⟩

end Update

/-! ### `DELETE` -/

section Delete

variable [DecidableEq τ] [DecidableEq ι] [DecidableEq κ]

/-- A column that restricts the deletion of a row that the column of some row refers to. -/
def Blocked (db : Store S) (table : τ) (condition : ρ → Bool) : Prop :=
  ∃ r ∈ db.rows, ∃ ref ∈ S.refs r, S.onDelete ref.1 = .restrict ∧ S.target ref.1 = table ∧
    ref.2 ∈ db.idsWhere table condition

instance (db : Store S) (table : τ) (condition : ρ → Bool) :
    Decidable (db.Blocked table condition) :=
  inferInstanceAs (Decidable (∃ r ∈ db.rows, ∃ ref ∈ S.refs r, _ ∧ _ ∧ _))

/-- The row refers to a deleted one, by a column with this action. -/
def reached (db : Store S) (table : τ) (condition : ρ → Bool) (action : OnDelete) (k : κ) (r : ρ) :
    Bool :=
  decide (S.onDelete k = action ∧ S.target k = table) &&
    refersTo S k (db.idsWhere table condition) r

/-- The row goes: it is deleted, or a cascade reaches it. -/
def doomed (db : Store S) (table : τ) (condition : ρ → Bool) (r : ρ) : Bool :=
  (decide (S.table r = table) && condition r) ||
    (S.refs r).any fun ref => db.reached table condition .cascade ref.1 r

/-- The rows that are left. -/
def remaining (db : Store S) (table : τ) (condition : ρ → Bool) : List ρ :=
  (db.rows.filter fun r => !db.doomed table condition r).map fun r =>
    S.without (fun k => db.reached table condition .setNull k r) r

theorem mem_remaining {db : Store S} {table : τ} {condition : ρ → Bool} {r' : ρ} :
    r' ∈ db.remaining table condition ↔
      ∃ r ∈ db.rows, db.doomed table condition r = false ∧
        S.without (fun k => db.reached table condition .setNull k r) r = r' := by
  rw [remaining, List.mem_map]
  simp only [List.mem_filter, Bool.not_eq_true', and_assoc]

theorem nullable_of_reached {db : Store S} {table : τ} {condition : ρ → Bool} {k : κ} {r : ρ}
    (reaches : db.reached table condition .setNull k r = true) : S.nullable k = true := by
  rw [reached, Bool.and_eq_true, decide_eq_true_eq] at reaches
  exact S.nullable_of_setNull k reaches.1.1

theorem primaryKeys_remaining (db : Store S) (table : τ) (condition : ρ → Bool) :
    ∀ k, ∀ r ∈ db.remaining table condition, ∀ r' ∈ db.remaining table condition,
      S.table r = S.target k → S.table r' = S.target k → S.id r = S.id r' → r = r' := by
  intro k r member r' member' ofTable ofTable' same
  obtain ⟨base, stored, -, rfl⟩ := mem_remaining.mp member
  obtain ⟨base', stored', -, rfl⟩ := mem_remaining.mp member'
  rw [S.table_without] at ofTable ofTable'
  rw [S.id_without, S.id_without] at same
  rw [db.primaryKeys k base stored base' stored' ofTable ofTable' same]

/-- Where nothing is blocked, no reference is left open. -/
theorem foreignKeys_remaining {db : Store S} {table : τ} {condition : ρ → Bool}
    (free : ¬db.Blocked table condition) :
    ∀ r ∈ db.remaining table condition, ∀ ref ∈ S.refs r,
      ∃ r' ∈ db.remaining table condition, S.table r' = S.target ref.1 ∧ S.id r' = ref.2 := by
  rintro r member ⟨k, i⟩ refers
  obtain ⟨base, stored, stays, rfl⟩ := mem_remaining.mp member
  rw [S.refs_without _ _ fun _ => nullable_of_reached, List.mem_filter, Bool.not_eq_true'] at refers
  obtain ⟨refers, keeps⟩ := refers
  obtain ⟨target, there, ofTable, same⟩ := db.foreignKeys base stored _ refers
  suffices targetStays : db.doomed table condition target = false from
    ⟨_, mem_remaining.mpr ⟨target, there, targetStays, rfl⟩, (S.table_without _ _).trans ofTable,
      (S.id_without _ _).trans same⟩
  rw [doomed, Bool.or_eq_false_iff]
  constructor
  · -- a deleted target would block, doom or clear the reference
    by_contra matched
    rw [Bool.not_eq_false, Bool.and_eq_true, decide_eq_true_eq] at matched
    have gone : i ∈ db.idsWhere table condition :=
      mem_idsWhere.mpr ⟨target, there, matched.1, matched.2, same⟩
    have inTable : S.target k = table := ofTable.symm.trans matched.1
    have reaches (action : OnDelete) (acts : S.onDelete k = action) :
        db.reached table condition action k base = true := by
      rw [reached, Bool.and_eq_true, decide_eq_true_eq]
      exact ⟨⟨acts, inTable⟩, refersTo_iff.mpr ⟨i, gone, refers⟩⟩
    cases action : S.onDelete k with
    | restrict => exact free ⟨base, stored, (k, i), refers, action, inTable, gone⟩
    | cascade =>
        rw [doomed, Bool.or_eq_false_iff, List.any_eq_false] at stays
        exact stays.2 (k, i) refers (reaches .cascade action)
    | setNull =>
        rw [reaches .setNull action] at keeps
        cases keeps
  · -- a cascade ends in rows that nothing refers to
    rw [List.any_eq_false]
    rintro ⟨k', i'⟩ refers' reaches
    rw [reached, Bool.and_eq_true, decide_eq_true_eq] at reaches
    have inSource := S.table_of_ref target _ refers'
    exact S.cascade_ends k' reaches.1.1 k (ofTable.symm.trans inSource)

/-- `DELETE FROM table WHERE condition`, or the violation of a constraint. -/
def delete (db : Store S) (table : τ) (condition : ρ → Bool) : Except τ (Store S) :=
  if free : ¬db.Blocked table condition then
    .ok ⟨db.remaining table condition, db.primaryKeys_remaining table condition,
      foreignKeys_remaining free⟩
  else .error table

theorem delete_ok_iff {db : Store S} {table : τ} {condition : ρ → Bool} :
    (∃ db', db.delete table condition = .ok db') ↔ ¬db.Blocked table condition := by
  rw [delete]
  split
  · rename_i free
    exact iff_of_true ⟨_, rfl⟩ free
  · rename_i blocked
    refine iff_of_false ?_ blocked
    rintro ⟨db', run⟩
    cases run

theorem rows_delete {db db' : Store S} {table : τ} {condition : ρ → Bool}
    (run : db.delete table condition = .ok db') : db'.rows = db.remaining table condition := by
  rw [delete] at run
  split at run
  · cases run
    rfl
  · cases run

end Delete

end Store

/-! ### Plans -/

/-- What a sequence of statements comes to: which rows stay, which columns are set to null, and the
    number of the statement that takes each table or column. -/
structure Plan (S : Schema ρ τ ι κ) where
  keeps : ρ → Bool
  clears : ρ → κ → Bool
  deletedAt : τ → Nat
  clearedAt : κ → Nat
  nullable : ∀ r k, clears r k = true → S.nullable k = true

namespace Plan

/-- The row is there after some statements. -/
def keepsAt (plan : Plan S) (n : Nat) (r : ρ) : Bool :=
  decide (n < plan.deletedAt (S.table r)) || plan.keeps r

/-- The column of the row is null after some statements. -/
def clearsAt (plan : Plan S) (n : Nat) (r : ρ) (k : κ) : Bool :=
  decide (plan.clearedAt k ≤ n) && plan.clears r k

/-- The row as it is after some statements. -/
def rowAt (plan : Plan S) (n : Nat) (r : ρ) : ρ := S.without (plan.clearsAt n r) r

/-- The database after some statements. -/
def At (plan : Plan S) (start : Store S) (n : Nat) (db : Store S) : Prop :=
  db.rows = (start.rows.filter (plan.keepsAt n)).map (plan.rowAt n)

variable {plan : Plan S} {start db db' : Store S} {n : Nat}

theorem nullable_of_clearsAt {r : ρ} {k : κ} (clears : plan.clearsAt n r k = true) :
    S.nullable k = true := by
  rw [clearsAt, Bool.and_eq_true] at clears
  exact plan.nullable r k clears.2

@[simp] theorem table_rowAt (r : ρ) : S.table (plan.rowAt n r) = S.table r :=
  S.table_without _ r

@[simp] theorem id_rowAt (r : ρ) : S.id (plan.rowAt n r) = S.id r := S.id_without _ r

theorem mem_refs_rowAt {r : ρ} {ref : κ × ι} :
    ref ∈ S.refs (plan.rowAt n r) ↔ ref ∈ S.refs r ∧ plan.clearsAt n r ref.1 = false := by
  rw [rowAt, S.refs_without _ _ fun _ => nullable_of_clearsAt, List.mem_filter, Bool.not_eq_true']

/-- A column that has not been taken yet is as it was. -/
theorem refersTo_rowAt [DecidableEq ι] [DecidableEq κ] {k : κ} {ids : List ι} {r : ρ}
    (later : plan.clearsAt n r k = false) :
    refersTo S k ids (plan.rowAt n r) = refersTo S k ids r :=
  refersTo_without (fun _ => nullable_of_clearsAt) later

theorem At.mem_iff (reached : plan.At start n db) {r' : ρ} :
    r' ∈ db.rows ↔ ∃ r ∈ start.rows, plan.keepsAt n r = true ∧ plan.rowAt n r = r' := by
  rw [reached, List.mem_map]
  simp only [List.mem_filter, and_assoc]

/-- Before the first statement. -/
theorem at_zero (tables : ∀ t, 0 < plan.deletedAt t) (columns : ∀ k, 0 < plan.clearedAt k) :
    plan.At start 0 start := by
  have all : start.rows.filter (plan.keepsAt 0) = start.rows := by
    rw [List.filter_eq_self]
    intro r _
    rw [keepsAt, decide_eq_true (tables (S.table r)), Bool.true_or]
  have same : plan.rowAt 0 = fun r => r := by
    funext r
    have none : plan.clearsAt 0 r = fun _ => false := by
      funext k
      rw [clearsAt, decide_eq_false (Nat.not_le.mpr (columns k)), Bool.false_and]
    rw [rowAt, none, S.without_none]
  rw [At, all, same, List.map_id']

/-- One more statement, from what it does to the rows that are there. -/
theorem At.succ (reached : plan.At start n db) {stays : ρ → Bool} {clears : ρ → κ → Bool}
    (rows : db'.rows = (db.rows.filter stays).map fun r => S.without (clears r) r)
    (rowsTaken : ∀ r ∈ start.rows, plan.keepsAt n r = true →
      stays (plan.rowAt n r) = plan.keepsAt (n + 1) r)
    (columnsTaken : ∀ r ∈ start.rows, plan.keepsAt (n + 1) r = true → ∀ ref ∈ S.refs r,
      (plan.clearsAt n r ref.1 || clears (plan.rowAt n r) ref.1) = plan.clearsAt (n + 1) r ref.1) :
    plan.At start (n + 1) db' := by
  have earlier : ∀ r, plan.keepsAt (n + 1) r = true → plan.keepsAt n r = true := by
    intro r keeps
    rw [keepsAt, Bool.or_eq_true, decide_eq_true_eq] at keeps ⊢
    exact keeps.imp_left fun later => Nat.lt_of_succ_lt later
  rw [At, rows, reached, List.filter_map, List.filter_filter, List.map_map]
  have sameRows : start.rows.filter (fun r => (stays ∘ plan.rowAt n) r && plan.keepsAt n r) =
      start.rows.filter (plan.keepsAt (n + 1)) := by
    apply List.filter_congr
    intro r stored
    rw [Bool.eq_iff_iff, Bool.and_eq_true, Function.comp_apply]
    constructor
    · rintro ⟨stay, before⟩
      rw [← rowsTaken r stored before]
      exact stay
    · intro after
      have before := earlier r after
      exact ⟨(rowsTaken r stored before).trans after, before⟩
  rw [sameRows]
  apply List.map_congr_left
  intro r member
  obtain ⟨stored, keeps⟩ := List.mem_filter.mp member
  rw [Function.comp_apply, rowAt, S.without_without]
  exact S.without_congr _ _ r (columnsTaken r stored keeps)

/-- A query of a table that has not been taken gives what it gave at the start. -/
theorem At.idsWhere_eq [DecidableEq τ] (reached : plan.At start n db) {table : τ}
    {condition before : ρ → Bool} (later : n < plan.deletedAt table)
    (same : ∀ r, S.table r = table → condition (plan.rowAt n r) = before r) :
    db.idsWhere table condition = start.idsWhere table before := by
  rw [Store.idsWhere, Store.idsWhere, reached, List.filter_map, List.filter_filter, List.map_map]
  have sameRows : start.rows.filter (fun r => ((fun r => decide (S.table r = table) && condition r) ∘
      plan.rowAt n) r && plan.keepsAt n r) =
        start.rows.filter fun r => decide (S.table r = table) && before r := by
    apply List.filter_congr
    intro r _
    rw [Function.comp_apply, table_rowAt]
    by_cases inTable : S.table r = table
    · rw [same r inTable, keepsAt, inTable, decide_eq_true later, Bool.true_or, Bool.and_true]
    · rw [decide_eq_false inTable, Bool.false_and, Bool.false_and, Bool.false_and]
  rw [sameRows]
  exact List.map_congr_left fun r _ => id_rowAt r

/-- The statement takes no table: the rows stay. -/
theorem keepsAt_succ_of_ne {r : ρ} (later : plan.deletedAt (S.table r) ≠ n + 1) :
    plan.keepsAt (n + 1) r = plan.keepsAt n r := by
  rw [keepsAt, keepsAt]
  congr 1
  exact decide_eq_decide.mpr (by omega)

/-- The statement does not take the column. -/
theorem clearsAt_succ_of_ne {r : ρ} {k : κ} (later : plan.clearedAt k ≠ n + 1) :
    plan.clearsAt (n + 1) r k = plan.clearsAt n r k := by
  rw [clearsAt, clearsAt]
  congr 1
  exact decide_eq_decide.mpr (by omega)

/-- The statement takes the column. -/
theorem clearsAt_of_eq {r : ρ} {k : κ} (now : plan.clearedAt k = n + 1) :
    plan.clearsAt n r k = false ∧ plan.clearsAt (n + 1) r k = plan.clears r k := by
  rw [clearsAt, clearsAt, decide_eq_false (by omega), decide_eq_true (by omega)]
  exact ⟨Bool.false_and _, Bool.true_and _⟩

/-- A statement that is left out where it would take nothing. -/
theorem At.skip (reached : plan.At start n db)
    (noRows : ∀ r ∈ start.rows, plan.deletedAt (S.table r) = n + 1 → plan.keeps r = true)
    (noColumns : ∀ r ∈ start.rows, ∀ ref ∈ S.refs r, plan.clearedAt ref.1 = n + 1 →
      plan.clears r ref.1 = false) :
    plan.At start (n + 1) db := by
  have rows : db.rows = (db.rows.filter fun _ => true).map fun r => S.without (fun _ => false) r := by
    rw [List.filter_true, funext S.without_none, List.map_id']
  apply reached.succ rows
  · intro r stored before
    by_cases now : plan.deletedAt (S.table r) = n + 1
    · rw [keepsAt, noRows r stored now, Bool.or_true]
    · rw [keepsAt_succ_of_ne now, before]
  · rintro r stored - ⟨k, i⟩ refers
    rw [Bool.or_false]
    by_cases now : plan.clearedAt k = n + 1
    · obtain ⟨untaken, taken⟩ := @clearsAt_of_eq _ _ _ _ _ plan n r k now
      rw [untaken, taken, noColumns r stored _ refers now]
    · rw [clearsAt_succ_of_ne now]

/-- An `UPDATE` that takes a column. -/
theorem At.setNull [DecidableEq κ] (reached : plan.At start n db) {k : κ}
    (nullable : S.nullable k = true) {condition : ρ → Bool}
    (tablesLater : ∀ t, plan.deletedAt t ≠ n + 1) (column : ∀ k', plan.clearedAt k' = n + 1 ↔ k' = k)
    (taken : ∀ r ∈ start.rows, plan.keepsAt n r = true → ∀ i, (k, i) ∈ S.refs r →
      condition (plan.rowAt n r) = plan.clears r k) :
    plan.At start (n + 1) (db.setNull k nullable condition) := by
  have rows : (db.setNull k nullable condition).rows = (db.rows.filter fun _ => true).map
      fun r => S.without (fun k' => decide (k' = k) && condition r) r := by
    rw [List.filter_true]
    rfl
  apply reached.succ rows
  · intro r _ before
    rw [keepsAt_succ_of_ne (tablesLater _), before]
  · rintro r stored after ⟨k', i⟩ refers
    rw [keepsAt_succ_of_ne (tablesLater _)] at after
    by_cases here : k' = k
    · subst here
      obtain ⟨untaken, then_taken⟩ := @clearsAt_of_eq _ _ _ _ _ plan n r k' ((column k').mpr rfl)
      rw [untaken, then_taken, Bool.false_or, decide_eq_true rfl, Bool.true_and]
      exact taken r stored after i refers
    · rw [clearsAt_succ_of_ne (mt (column k').mp here), decide_eq_false here, Bool.false_and,
        Bool.or_false]

section Deletion

variable [DecidableEq τ]

/-- The ids of a table's rows that do not stay. -/
def gone (plan : Plan S) (start : Store S) (table : τ) : List ι :=
  start.idsWhere table fun r => !plan.keeps r

/-- The rows that are there refer to those that a table gives up by no column that restricts it. -/
def Unrestricted (plan : Plan S) (start : Store S) (n : Nat) (table : τ) : Prop :=
  ∀ r ∈ start.rows, plan.keepsAt n r = true → ∀ ref ∈ S.refs r, S.onDelete ref.1 = .restrict →
    S.target ref.1 = table → ref.2 ∈ plan.gone start table → plan.clearsAt n r ref.1 = true

/-- The plan is right about a `DELETE`: its condition, the cascades and the columns it nulls. -/
structure Deletes (plan : Plan S) (start : Store S) (n : Nat) (table : τ) (condition : ρ → Bool) :
    Prop where
  stage : plan.deletedAt table = n + 1
  condition : ∀ r ∈ start.rows, S.table r = table →
    condition (plan.rowAt n r) = !plan.keeps r
  cascades : ∀ r ∈ start.rows, S.table r ≠ table →
    (plan.deletedAt (S.table r) = n + 1 ∧ plan.keeps r = false ↔
      ∃ ref ∈ S.refs r, S.onDelete ref.1 = .cascade ∧ S.target ref.1 = table ∧
        ref.2 ∈ plan.gone start table)
  cascadesOpen : ∀ r k, S.onDelete k = .cascade → plan.clears r k = false
  nulls : ∀ r ∈ start.rows, ∀ ref ∈ S.refs r,
    (plan.clearedAt ref.1 = n + 1 ∧ plan.clears r ref.1 = true ↔
      S.onDelete ref.1 = .setNull ∧ S.target ref.1 = table ∧ ref.2 ∈ plan.gone start table)

namespace Deletes

variable {table : τ} {condition : ρ → Bool}

theorem keepsAt (deletes : Deletes plan start n table condition) {r : ρ}
    (inTable : S.table r = table) : plan.keepsAt n r = true := by
  rw [Plan.keepsAt, inTable, deletes.stage, decide_eq_true (Nat.lt_succ_self n), Bool.true_or]

/-- What is deleted is what the plan says. -/
theorem mem_idsWhere (deletes : Deletes plan start n table condition)
    (reached : plan.At start n db) {i : ι} :
    i ∈ db.idsWhere table condition ↔ i ∈ plan.gone start table := by
  rw [Store.mem_idsWhere, gone, Store.mem_idsWhere]
  constructor
  · rintro ⟨r', member, inTable, matched, same⟩
    obtain ⟨r, stored, -, rfl⟩ := reached.mem_iff.mp member
    rw [table_rowAt] at inTable
    rw [deletes.condition r stored inTable] at matched
    rw [id_rowAt] at same
    exact ⟨r, stored, inTable, matched, same⟩
  · rintro ⟨r, stored, inTable, leaves, same⟩
    refine ⟨plan.rowAt n r, reached.mem_iff.mpr ⟨r, stored, deletes.keepsAt inTable, rfl⟩,
      (table_rowAt r).trans inTable, ?_, (id_rowAt r).trans same⟩
    rw [deletes.condition r stored inTable]
    exact leaves

variable [DecidableEq ι] [DecidableEq κ]

/-- The deletion returns exactly when no row that is there restricts it. -/
theorem returns_iff (deletes : Deletes plan start n table condition)
    (reached : plan.At start n db) :
    (∃ db', db.delete table condition = .ok db') ↔ plan.Unrestricted start n table := by
  rw [Store.delete_ok_iff, Unrestricted]
  constructor
  · intro free r stored before ref refers restricts targets leaves
    by_contra opened
    rw [Bool.not_eq_true] at opened
    exact free ⟨plan.rowAt n r, reached.mem_iff.mpr ⟨r, stored, before, rfl⟩, ref,
      mem_refs_rowAt.mpr ⟨refers, opened⟩, restricts, targets,
      (deletes.mem_idsWhere reached).mpr leaves⟩
  · rintro free ⟨r', member, ref, refers, restricts, targets, leaves⟩
    obtain ⟨r, stored, before, rfl⟩ := reached.mem_iff.mp member
    obtain ⟨refers, opened⟩ := mem_refs_rowAt.mp refers
    rw [free r stored before ref refers restricts targets
      ((deletes.mem_idsWhere reached).mp leaves)] at opened
    cases opened

theorem reached_iff (deletes : Deletes plan start n table condition)
    (reached : plan.At start n db) {action : OnDelete} {k : κ} {r : ρ} :
    db.reached table condition action k (plan.rowAt n r) = true ↔
      S.onDelete k = action ∧ S.target k = table ∧
        ∃ i, (k, i) ∈ S.refs r ∧ plan.clearsAt n r k = false ∧ i ∈ plan.gone start table := by
  rw [Store.reached, Bool.and_eq_true, decide_eq_true_eq, refersTo_iff, and_assoc]
  refine and_congr_right fun _ => and_congr_right fun _ => exists_congr fun i => ?_
  rw [deletes.mem_idsWhere reached, mem_refs_rowAt]
  exact ⟨fun found => ⟨found.2.1, found.2.2, found.1⟩,
    fun found => ⟨found.2.2, found.1, found.2.1⟩⟩

/-- A cascade reaches the rows that the plan gives up together with the table. -/
theorem cascades_iff (deletes : Deletes plan start n table condition)
    (reached : plan.At start n db) {r : ρ} (stored : r ∈ start.rows) (elsewhere : S.table r ≠ table) :
    (∃ ref ∈ S.refs (plan.rowAt n r),
        db.reached table condition .cascade ref.1 (plan.rowAt n r) = true) ↔
      plan.deletedAt (S.table r) = n + 1 ∧ plan.keeps r = false := by
  rw [deletes.cascades r stored elsewhere]
  constructor
  · rintro ⟨⟨k, _⟩, -, reaches⟩
    obtain ⟨acts, targets, i, refers, -, leaves⟩ := (deletes.reached_iff reached).mp reaches
    exact ⟨(k, i), refers, acts, targets, leaves⟩
  · rintro ⟨⟨k, i⟩, refers, acts, targets, leaves⟩
    have opened : plan.clearsAt n r k = false := by
      rw [clearsAt, deletes.cascadesOpen r k acts, Bool.and_false]
    exact ⟨(k, i), mem_refs_rowAt.mpr ⟨refers, opened⟩,
      (deletes.reached_iff reached).mpr ⟨acts, targets, i, refers, opened, leaves⟩⟩

/-- What the deletion takes is what the plan gives up. -/
theorem doomed_eq (deletes : Deletes plan start n table condition) (reached : plan.At start n db)
    {r : ρ} (stored : r ∈ start.rows) (before : plan.keepsAt n r = true) :
    db.doomed table condition (plan.rowAt n r) = !plan.keepsAt (n + 1) r := by
  rw [Store.doomed, table_rowAt]
  by_cases inTable : S.table r = table
  · have noCascade : ((S.refs (plan.rowAt n r)).any fun ref =>
        db.reached table condition .cascade ref.1 (plan.rowAt n r)) = false := by
      rw [List.any_eq_false]
      rintro ⟨k, _⟩ - reaches
      obtain ⟨acts, targets, i, refers, -⟩ := (deletes.reached_iff reached).mp reaches
      have inSource := S.table_of_ref r _ refers
      exact S.cascade_ends k acts k (targets.trans (inTable.symm.trans inSource))
    rw [noCascade, decide_eq_true inTable, Bool.true_and, Bool.or_false,
      deletes.condition r stored inTable, Plan.keepsAt, inTable, deletes.stage,
      decide_eq_false (Nat.lt_irrefl _), Bool.false_or]
  · rw [decide_eq_false inTable, Bool.false_and, Bool.false_or, Bool.eq_iff_iff, List.any_eq_true,
      deletes.cascades_iff reached stored inTable, Bool.not_eq_true']
    rw [Plan.keepsAt, Bool.or_eq_true, decide_eq_true_eq] at before
    rw [Plan.keepsAt, Bool.or_eq_false_iff, decide_eq_false_iff_not]
    refine and_congr_left fun leaves => ?_
    have later := before.resolve_right (by rw [leaves]; exact Bool.false_ne_true)
    omega

/-- The columns that the deletion sets to null are those of the plan. -/
theorem columns_eq (deletes : Deletes plan start n table condition) (reached : plan.At start n db)
    {r : ρ} (stored : r ∈ start.rows) {k : κ} {i : ι} (refers : (k, i) ∈ S.refs r) :
    (plan.clearsAt n r k || db.reached table condition .setNull k (plan.rowAt n r)) =
      plan.clearsAt (n + 1) r k := by
  have reaches_now (reaches : db.reached table condition .setNull k (plan.rowAt n r) = true) :
      plan.clearedAt k = n + 1 ∧ plan.clears r k = true := by
    obtain ⟨acts, targets, i', refers', -, leaves⟩ := (deletes.reached_iff reached).mp reaches
    exact (deletes.nulls r stored _ refers').mpr ⟨acts, targets, leaves⟩
  by_cases now : plan.clearedAt k = n + 1
  · obtain ⟨untaken, taken⟩ := @clearsAt_of_eq _ _ _ _ _ plan n r k now
    rw [untaken, taken, Bool.false_or, Bool.eq_iff_iff]
    constructor
    · exact fun reaches => (reaches_now reaches).2
    · intro clears
      obtain ⟨acts, targets, leaves⟩ := (deletes.nulls r stored _ refers).mp ⟨now, clears⟩
      exact (deletes.reached_iff reached).mpr ⟨acts, targets, i, refers, untaken, leaves⟩
  · have unreached : db.reached table condition .setNull k (plan.rowAt n r) = false := by
      rw [← Bool.not_eq_true]
      exact fun reaches => now (reaches_now reaches).1
    rw [unreached, Bool.or_false, clearsAt_succ_of_ne now]

/-- After the deletion. -/
theorem at_succ (deletes : Deletes plan start n table condition) (reached : plan.At start n db)
    (run : db.delete table condition = .ok db') : plan.At start (n + 1) db' := by
  apply reached.succ (Store.rows_delete run)
  · intro r stored before
    rw [deletes.doomed_eq reached stored before, Bool.not_not]
  · rintro r stored - ⟨k, i⟩ refers
    exact deletes.columns_eq reached stored refers

end Deletes

end Deletion

/-! ### Programs -/

section Programs

variable {ε : Type*} {m l : Nat} {P Q : Prop} {f g : Store S → Except ε (Store S)}

/-- From the database after `n` statements the program comes to the one after `m`, and it returns
    exactly under a condition. -/
structure Runs (plan : Plan S) (start : Store S) (n m : Nat) (P : Prop)
    (f : Store S → Except ε (Store S)) : Prop where
  returns_iff : ∀ db, plan.At start n db → ((∃ db', f db = .ok db') ↔ P)
  reaches : ∀ db, plan.At start n db → ∀ db', f db = .ok db' → plan.At start m db'

/-- One program after another. -/
theorem Runs.bind (first : plan.Runs start n m P f) (second : plan.Runs start m l Q g) :
    plan.Runs start n l (P ∧ Q) fun db => f db >>= g where
  returns_iff := by
    intro db reached
    rw [← first.returns_iff db reached]
    cases run : f db with
    | error raised => exact iff_of_false (by rintro ⟨_, ⟨⟩⟩) (by rintro ⟨⟨_, ⟨⟩⟩, -⟩)
    | ok middle =>
        exact (second.returns_iff middle (first.reaches db reached middle run)).trans
          (and_iff_right ⟨middle, rfl⟩).symm
  reaches := by
    intro db reached db' run
    cases middleRun : f db with
    | error raised =>
        rw [middleRun] at run
        cases run
    | ok middle =>
        rw [middleRun] at run
        exact second.reaches middle (first.reaches db reached middle middleRun) db' run

theorem Runs.congr (runs : plan.Runs start n m P f) (same : P ↔ Q) : plan.Runs start n m Q f where
  returns_iff := fun db reached => (runs.returns_iff db reached).trans same
  reaches := runs.reaches

/-- A program that reads the database before it runs. -/
theorem Runs.of_at {run : Store S → Store S → Except ε (Store S)}
    (runs : ∀ db, plan.At start n db → plan.Runs start n m P (run db)) :
    plan.Runs start n m P fun db => run db db where
  returns_iff := fun db reached => (runs db reached).returns_iff db reached
  reaches := fun db reached => (runs db reached).reaches db reached

/-- A program that cannot fail. -/
theorem Runs.of_pure {update : Store S → Store S}
    (reaches : ∀ db, plan.At start n db → plan.At start m (update db)) :
    plan.Runs start n m True fun db => (.ok (update db) : Except ε (Store S)) where
  returns_iff := fun db _ => iff_of_true ⟨update db, rfl⟩ trivial
  reaches := by
    intro db reached db' run
    cases run
    exact reaches db reached

/-- A `DELETE` whose condition may query the database. -/
theorem Deletes.runs [DecidableEq τ] [DecidableEq ι] [DecidableEq κ] {table : τ}
    {condition : Store S → ρ → Bool} (error : τ → ε)
    (deletes : ∀ db, plan.At start n db → Deletes plan start n table (condition db)) :
    plan.Runs start n (n + 1) (plan.Unrestricted start n table) fun db =>
      (db.delete table (condition db)).mapError error where
  returns_iff := by
    intro db reached
    rw [← (deletes db reached).returns_iff reached]
    cases run : db.delete table (condition db) with
    | error raised => exact iff_of_false (by rintro ⟨_, ⟨⟩⟩) (by rintro ⟨_, ⟨⟩⟩)
    | ok db' => exact iff_of_true ⟨db', rfl⟩ ⟨db', rfl⟩
  reaches := by
    intro db reached db' returned
    cases run : db.delete table (condition db) with
    | error raised =>
        rw [run] at returned
        cases returned
    | ok middle =>
        rw [run] at returned
        cases returned
        exact (deletes db reached).at_succ reached run

end Programs

/-- Where all statements have run, no row refers to one that the plan gives up. -/
theorem At.not_referenced [DecidableEq τ] (reached : plan.At start n db)
    (tables : ∀ t, plan.deletedAt t ≤ n) :
    ∀ r ∈ db.rows, ∀ ref ∈ S.refs r, ref.2 ∉ plan.gone start (S.target ref.1) := by
  rintro r member ⟨k, i⟩ refers leaves
  obtain ⟨r', member', ofTable, same⟩ := db.foreignKeys r member _ refers
  obtain ⟨base, stored, keeps, rfl⟩ := reached.mem_iff.mp member'
  rw [table_rowAt] at ofTable
  rw [id_rowAt] at same
  obtain ⟨lost, stored', inTable, leaves, sameId⟩ := Store.mem_idsWhere.mp leaves
  have one : base = lost :=
    start.primaryKeys k base stored lost stored' ofTable inTable (same.trans sameId.symm)
  rw [keepsAt, decide_eq_false (Nat.not_lt.mpr (tables _)), Bool.false_or, one] at keeps
  rw [keeps] at leaves
  cases leaves

end Plan

end ForeignKeys
