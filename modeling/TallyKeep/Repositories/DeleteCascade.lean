/-
Module: TallyKeep.Repositories.DeleteCascade
Layer: Repositories
Purpose: `delete_cascade` of `repositories/holding.py`, statement by statement.
Trusted boundary: translation.  The subqueries are evaluated with the statement they
  stand in; a violated constraint raises at the statement, and the caller rolls back
Main exports: columnIs, columnIn, policySubq, descSubq, prSubq, deleteCascade
-/
import TallyKeep.Models.Schema

namespace TallyKeep

open ForeignKeys

/-- The `__tablename__`. -/
def TableName.tablename : TableName → String
  | holding => "holding"
  | holdingTypeChangeLog => "holding_type_change_log"
  | descriptor => "descriptor"
  | address => "address"
  | utxo => "utxo"
  | ledgerEntry => "ledger_entry"
  | ledgerEntryHoldingLink => "ledger_entry_holding_link"
  | paymentRequest => "payment_request"
  | broadcastAttempt => "broadcast_attempt"
  | invoice => "invoice"
  | sweepPolicy => "sweep_policy"
  | sweepExecution => "sweep_execution"
  | custodialProvider => "custodial_provider"
  | custodialLedgerEntry => "custodial_ledger_entry"
  | securityHealthItem => "security_health_item"

/-- The error of a deletion that another row restricts. -/
def restrictViolation (table : TableName) : PyError :=
  ⟨.integrityError, "update or delete on table \"" ++ table.tablename ++
    "\" violates foreign key constraint"⟩

/-- `column IN (values)`. -/
def columnIn (column : Column) (values : List Uuid) : Record → Bool := refersTo schema column values

/-- `column = value`. -/
def columnIs (column : Column) (value : Uuid) : Record → Bool := columnIn column [value]

/-- `delete(table).where(condition)`. -/
def deleteWhere (db : LinkedStore) (table : TableName) (condition : Record → Bool) :
    Except PyError LinkedStore :=
  (db.delete table condition).mapError restrictViolation

/-- The policies from or to the holding. -/
def policyOf (holdingId : Uuid) (row : Record) : Bool :=
  columnIs .policySource holdingId row || columnIs .policyDestination holdingId row

def policySubq (db : LinkedStore) (holdingId : Uuid) : List Uuid :=
  db.idsWhere .sweepPolicy (policyOf holdingId)

/-- The executions of these policies. -/
def executionSubq (db : LinkedStore) (holdingId : Uuid) : List Uuid :=
  db.idsWhere .sweepExecution (columnIn .executionPolicy (policySubq db holdingId))

def descSubq (db : LinkedStore) (holdingId : Uuid) : List Uuid :=
  db.idsWhere .descriptor (columnIs .descriptorHolding holdingId)

def prSubq (db : LinkedStore) (holdingId : Uuid) : List Uuid :=
  db.idsWhere .paymentRequest (columnIs .requestHolding holdingId)

/-- `candidate_ids`: the ledger entries linked to the holding. -/
def linkedEntryIds (db : LinkedStore) (holdingId : Uuid) : List Uuid :=
  db.valuesWhere .linkLedgerEntry (columnIs .linkHolding holdingId)

/-- 2. Sweep policies and executions. -/
def deleteSweeps (holdingId : Uuid) (db : LinkedStore) : Except PyError LinkedStore := do
  let db ← .ok (db.setNull .entrySweepExecution rfl
    (columnIn .entrySweepExecution (executionSubq db holdingId)))
  let db ← deleteWhere db .sweepExecution (columnIn .executionPolicy (policySubq db holdingId))
  deleteWhere db .sweepPolicy (policyOf holdingId)

/-- 3. Chain-side: UTXOs, addresses, descriptors. -/
def deleteChainSide (holdingId : Uuid) (db : LinkedStore) : Except PyError LinkedStore := do
  let db ← deleteWhere db .utxo (columnIn .utxoDescriptor (descSubq db holdingId))
  let db ← deleteWhere db .address (columnIn .addressDescriptor (descSubq db holdingId))
  deleteWhere db .descriptor (columnIs .descriptorHolding holdingId)

/-- 4. Broadcast attempts, payment requests, invoices. -/
def deletePayments (holdingId : Uuid) (db : LinkedStore) : Except PyError LinkedStore := do
  let db ← deleteWhere db .broadcastAttempt (columnIn .attemptRequest (prSubq db holdingId))
  let db ← deleteWhere db .paymentRequest (columnIs .requestHolding holdingId)
  deleteWhere db .invoice (columnIs .invoiceHolding holdingId)

/-- The entry is a candidate with no links left: `still_linked_subq` has the others. -/
def unlinkedCandidate (db : LinkedStore) (candidateIds : List Uuid) (row : Record) : Bool :=
  decide (row.id ∈ candidateIds) &&
    !decide (row.id ∈ db.valuesWhere .linkLedgerEntry (columnIn .linkLedgerEntry candidateIds))

/-- The references to candidates that are set to null. -/
def forgetCandidates (candidateIds : List Uuid) (db : LinkedStore) : Except PyError LinkedStore := do
  if candidateIds = [] then .ok db
  else
    let db ← .ok (db.setNull .entryChainEntry rfl (columnIn .entryChainEntry candidateIds))
    .ok (db.setNull .requestLedgerEntry rfl (columnIn .requestLedgerEntry candidateIds))

/-- 5. Links to ledger entries, and the entries left without links. -/
def deleteLedgerLinks (holdingId : Uuid) (candidateIds : List Uuid) (db : LinkedStore) :
    Except PyError LinkedStore := do
  let db ← forgetCandidates candidateIds db
  let db ← deleteWhere db .ledgerEntryHoldingLink (columnIs .linkHolding holdingId)
  if candidateIds = [] then .ok db
  else deleteWhere db .ledgerEntry (unlinkedCandidate db candidateIds)

def deleteRows (holdingId : Uuid) (db : LinkedStore) : Except PyError LinkedStore := do
  -- 1. Audit log
  let db ← deleteWhere db .holdingTypeChangeLog (columnIs .typeChangeHolding holdingId)
  let db ← deleteSweeps holdingId db
  let db ← deleteChainSide holdingId db
  let db ← deletePayments holdingId db
  let db ← deleteLedgerLinks holdingId (linkedEntryIds db holdingId) db
  -- 6. Custodial provider, and with it the entries of its ledger
  let db ← deleteWhere db .custodialProvider (columnIs .providerHolding holdingId)
  -- 7. The holding itself
  deleteWhere db .holding fun row => decide (row.id = holdingId)

/-- The database, and whether the holding existed. -/
def deleteCascade (db : LinkedStore) (holdingId : Uuid) : Except PyError (LinkedStore × Bool) :=
  if db.idsWhere .holding (fun row => decide (row.id = holdingId)) = [] then .ok (db, false)
  else (deleteRows holdingId db).map fun db => (db, true)

end TallyKeep
