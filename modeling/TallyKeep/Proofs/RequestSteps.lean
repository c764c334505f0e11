/-
Module: TallyKeep.Proofs.RequestSteps
Layer: Proofs
Purpose: What one operation of the program can make of one payment request.
Trusted boundary: none
Main exports: RequestMove, RequestBuilt, RequestForgotten, RequestChange, requestChange_of_step,
  perform_raised_requests
-/
import TallyKeep.Proofs.SystemInvariant

namespace TallyKeep

open Relational Transition

variable {Psbt Tx : Type}

/-! ### Moves of one row -/

/-- The operation submits something for the request, with this PSBT to store. -/
def Operation.Submits (bdk : Bdk Psbt Tx) (row : PaymentRequestRow) (stored : Option String) :
    Operation → Prop
  | .submitSigned requestId none _ _ => row.id = requestId ∧ stored = none
  | .submitSigned requestId (some submitted) _ _ =>
      row.id = requestId ∧ ∃ original signedHex text, row.psbtBase64 = some original ∧
        acceptPsbt bdk original submitted = .ok (signedHex, text) ∧ stored = some text
  | _ => False

/-- The row of a request before and after an operation that neither builds requests nor deletes
    holdings. -/
inductive RequestMove (bdk : Bdk Psbt Tx) (operation : Operation) :
    Option PaymentRequestRow → Option PaymentRequestRow → Prop where
  | kept (found : Option PaymentRequestRow) : RequestMove bdk operation found found
  | attributed (row : PaymentRequestRow) (executionId : Uuid) :
      RequestMove bdk operation (some row)
        (some { row with sweepExecutionId := some executionId })
  | signed {row : PaymentRequestRow} (awaits : row.status = .awaitingSignature)
      (signedTransactionHex : String) (psbtBase64 : Option String) (now : Timestamp)
      (submits : operation.Submits bdk row psbtBase64) :
      RequestMove bdk operation (some row) (some (row.signed signedTransactionHex psbtBase64 now))
  | sent {row : PaymentRequestRow} (awaits : row.status = .awaitingBroadcast)
      (broadcastTxid : String) (now : Timestamp) :
      RequestMove bdk operation (some row) (some (row.sent broadcastTxid now))
  | confirmed {row : PaymentRequestRow} (waits : row.status = .broadcast)
      (resultingLedgerEntryId : Uuid) (now : Timestamp) :
      RequestMove bdk operation (some row) (some (row.confirmed resultingLedgerEntryId now))
  | cancelled {row : PaymentRequestRow} (allowed : row.status.Cancellable) (now : Timestamp) :
      RequestMove bdk operation (some row) (some (row.cancelled now))

/-- The row of a request that is built. -/
inductive RequestBuilt (bdk : Bdk Psbt Tx) :
    Option PaymentRequestRow → Option PaymentRequestRow → Prop where
  | built {psbtOrder : PsbtOrder} {psbtBase64 : String} (order : PaymentOrder) (requestId : Uuid)
      (now : Timestamp) (built : bdk.buildPsbt psbtOrder = .ok psbtBase64) :
      RequestBuilt bdk none (some (order.request requestId psbtBase64 now))

/-- The row of a request before and after the deletion of a holding. -/
inductive RequestForgotten : Option PaymentRequestRow → Option PaymentRequestRow → Prop where
  | gone (found : Option PaymentRequestRow) : RequestForgotten found none
  | forgotten (row : PaymentRequestRow) (executionIds entryIds : List Uuid) :
      RequestForgotten (some row) (some (row.forget executionIds entryIds))

/-- The operation builds a request. -/
def Operation.Builds : Operation → Prop
  | .buildPaymentRequest _ _ _ => True
  | _ => False

/-- The operation deletes a holding. -/
def Operation.Deletes : Operation → Prop
  | .deleteHolding _ _ => True
  | _ => False

/-- What an operation makes of the row of a request. -/
inductive RequestChange (bdk : Bdk Psbt Tx) (operation : Operation)
    (before after : Option PaymentRequestRow) : Prop where
  | moved (move : RequestMove bdk operation before after)
  | built (builds : operation.Builds) (new : RequestBuilt bdk before after)
  | deleted (deletes : operation.Deletes) (gone : RequestForgotten before after)

variable {bdk : Bdk Psbt Tx} {operation : Operation}

theorem RequestMove.of_same {db db' : Database} (same : db'.paymentRequests = db.paymentRequests)
    (requestId : Uuid) :
    RequestMove bdk operation (db.paymentRequests.get? requestId)
      (db'.paymentRequests.get? requestId) := by
  rw [same]
  exact .kept _

/-- A write through the row of one request moves that one and keeps the others. -/
theorem RequestMove.of_modify {db : Database} {written : Uuid}
    {f : PaymentRequestRow → PaymentRequestRow} {keeps : ∀ row, (f row).id = row.id}
    (moves : ∀ row, db.paymentRequests.get? written = some row →
      RequestMove bdk operation (some row) (some (f row))) (requestId : Uuid) :
    RequestMove bdk operation (db.paymentRequests.get? requestId)
      ((PaymentRequestRepo.modify db written f keeps).paymentRequests.get? requestId) := by
  rw [PaymentRequestRepo.modify, Table.get?_update]
  split
  · rename_i same
    rw [same]
    cases found : db.paymentRequests.get? written with
    | none => exact .kept none
    | some row => exact moves row found
  · exact .kept _

/-! ### Operations that leave the requests alone -/

/-- Scans, registrations and invoices leave requests, holdings and executions alone. -/
structure SideFrame (db db' : Database) : Prop where
  requests : db'.paymentRequests = db.paymentRequests
  holdings : db'.holdings = db.holdings
  executions : db'.sweepExecutions = db.sweepExecutions

/-- What two changes leave aside they leave aside together. -/
theorem SideFrame.trans {db db' db'' : Database} (first : SideFrame db db')
    (second : SideFrame db' db'') : SideFrame db db'' :=
  ⟨second.requests.trans first.requests, second.holdings.trans first.holdings,
    second.executions.trans first.executions⟩

/-- A scanned coin leaves the requests aside. -/
theorem coinStage_frame (node : ScanNode) (descriptor : DescriptorRow) (address : AddressRow)
    (unspent : ScanUtxo) (db : Database) :
    SideFrame db (coinStage node descriptor address unspent db) := by
  have upsertUnspent : ∀ db row, SideFrame db (UtxoRepo.upsertUnspent db row) := by
    intro db row
    unfold UtxoRepo.upsertUnspent
    split <;> exact ⟨rfl, rfl, rfl⟩
  have upsert : ∀ db txid rawHex height blockTime,
      SideFrame db (OnchainRepo.upsert db txid rawHex height blockTime) := by
    intro db txid rawHex height blockTime
    unfold OnchainRepo.upsert
    split <;> exact ⟨rfl, rfl, rfl⟩
  have applyFlags : ∀ db row context,
      SideFrame db (applyFlagsAndPropagateReuse db row context) := by
    intro db row context
    simp only [applyFlagsAndPropagateReuse]
    split <;> exact ⟨rfl, rfl, rfl⟩
  exact ((upsertUnspent _ _).trans (upsert _ _ _ _ _)).trans (applyFlags _ _ _)

/-- A scan leaves the requests aside. -/
theorem scanDescriptor_frame {node : ScanNode} {db db' : Database} {descriptorId : Uuid}
    (run : scanDescriptor node db descriptorId = .ok db') : SideFrame db db' := by
  rw [scanDescriptor] at run
  split at run
  · cases run
  · rename_i descriptor found
    obtain ⟨report, run⟩ := map_fst_ok run
    have records : RecordKeeps (SideFrame db) node descriptor := by
      intro before address unspent after frame _ _ recorded
      change maybeCreateLedgerEntry (coinStage node descriptor address unspent before) descriptor
        unspent.txid unspent.amountSats node.now = .ok after at recorded
      obtain ⟨tables, -⟩ := maybeCreateLedgerEntry_kept recorded
      have staged := frame.trans (coinStage_frame node descriptor address unspent before)
      exact ⟨(congrArg Database.paymentRequests tables).trans staged.requests,
        (congrArg Database.holdings tables).trans staged.holdings,
        (congrArg Database.sweepExecutions tables).trans staged.executions⟩
    obtain ⟨scanned, height, frame, rfl⟩ := initialScan_invariant records run ⟨rfl, rfl, rfl⟩
    exact ⟨frame.requests, frame.holdings, frame.executions⟩

/-- Registering a descriptor leaves the requests aside. -/
theorem registerDescriptor_frame {db db' : Database} {holdingId : Uuid} {spec : DescriptorSpec}
    (run : registerDescriptor db holdingId spec = .ok db') : SideFrame db db' := by
  simp only [registerDescriptor] at run
  split at run
  · cases run
  · split at run
    · cases run
    · cases run
      exact ⟨rfl, rfl, rfl⟩

/-- An invoice leaves the requests aside. -/
theorem createInvoice_frame {db db' : Database} {order : InvoiceOrder}
    (run : createInvoice db order = .ok db') : SideFrame db db' := by
  rw [createInvoice, bind_ok_iff] at run
  obtain ⟨address, -, run⟩ := run
  rw [bind_ok_iff] at run
  obtain ⟨invoice, -, run⟩ := run
  cases run
  exact ⟨rfl, rfl, rfl⟩

/-! ### Every operation -/

/-- A session that is rolled back keeps every request. -/
theorem RequestMove.of_session {before : Database} {out : Except PyError Database}
    {requestId : Uuid}
    (returned : ∀ db, out = .ok db → RequestMove bdk operation
      (before.paymentRequests.get? requestId) (db.paymentRequests.get? requestId)) :
    RequestMove bdk operation (before.paymentRequests.get? requestId)
      ((commitOrRollback before out).1.paymentRequests.get? requestId) := by
  cases out with
  | error error => exact .kept _
  | ok db => exact returned db rfl

/-- The database phase moves a request by confirming it, or not at all. -/
theorem Handled.requestMove {db db' : Database} {tx : DecodedTx} {ctx : TxContext}
    {direction : Direction} {postings : List Posting}
    (handled : Handled db tx ctx db' direction postings) (requestId : Uuid) :
    RequestMove bdk operation (db.paymentRequests.get? requestId)
      (db'.paymentRequests.get? requestId) := by
  rcases handled.get?_request requestId with
    same | ⟨request, entryId, head, waits, -, -, rfl, after⟩
  · rw [same]
    exact .kept _
  · have stored : db.paymentRequests.get? request.id = some request :=
      Table.get?_of_mem (mem_requestsFor.mp (List.mem_of_head? head)).1
    rw [stored, after]
    exact .confirmed waits entryId ctx.now

/-- Building a request adds it, and moves no other. -/
theorem buildPaymentRequest_change {node : PaymentNode} {db db' : Database} {order : PaymentOrder}
    {now : Timestamp} {out : Option PaymentRequestRow}
    (run : buildPaymentRequest bdk node db order now = .ok (db', out)) (requestId : Uuid) :
    RequestMove bdk operation (db.paymentRequests.get? requestId)
      (db'.paymentRequests.get? requestId) ∨
      RequestBuilt bdk (db.paymentRequests.get? requestId)
        (db'.paymentRequests.get? requestId) := by
  rcases buildPaymentRequest_ok run with ⟨rfl, -⟩ | ⟨-, psbtOrder, psbtBase64, built, -, rfl⟩
  · exact Or.inl (.kept _)
  · have fresh := Table.get?_freshKey db.paymentRequests
    rw [PaymentRequestRepo.insert, Table.get?_insert_of_fresh fresh]
    split
    · rename_i same
      have absent : db.paymentRequests.get? requestId = none := by
        rw [same]
        exact fresh
      rw [absent]
      exact Or.inr (.built order _ now built)
    · exact Or.inl (.kept _)

/-- The operations that write neither holdings nor executions. -/
def Operation.LeavesRoster : Operation → Prop
  | .registerHolding _ => False
  | .changeHolding _ _ _ _ => False
  | .deleteHolding _ _ => False
  | .createSweepExecution _ => False
  | .updateSweepExecution _ _ _ _ _ _ _ => False
  | .handleTx _ _ => False
  | _ => True

/-- The roster of holdings and executions after an operation that leaves it. -/
theorem roster_of_step (bdk : Bdk Psbt Tx) (db : Database) {operation : Operation}
    (leaves : operation.LeavesRoster) :
    (step bdk db operation).holdings = db.holdings ∧
      (step bdk db operation).sweepExecutions = db.sweepExecutions := by
  rw [step]
  have session : ∀ out : Except PyError Database,
      (∀ db', out = .ok db' →
        db'.holdings = db.holdings ∧ db'.sweepExecutions = db.sweepExecutions) →
      (commitOrRollback db out).1.holdings = db.holdings ∧
        (commitOrRollback db out).1.sweepExecutions = db.sweepExecutions := by
    intro out
    exact @commitOrRollback_invariant (fun db' =>
      db'.holdings = db.holdings ∧ db'.sweepExecutions = db.sweepExecutions) db out ⟨rfl, rfl⟩
  cases operation with
  | registerDescriptor holdingId spec =>
      apply session
      intro db' run
      exact ⟨(registerDescriptor_frame run).holdings, (registerDescriptor_frame run).executions⟩
  | scanDescriptor node descriptorId =>
      apply session
      intro db' run
      exact ⟨(scanDescriptor_frame run).holdings, (scanDescriptor_frame run).executions⟩
  | freezeUtxo outpoint frozen => exact ⟨rfl, rfl⟩
  | linkSweepExecution requestId executionId => exact ⟨rfl, rfl⟩
  | buildPaymentRequest node order now =>
      apply session
      intro db' run
      obtain ⟨request, run⟩ := map_fst_ok run
      rcases buildPaymentRequest_ok run with ⟨rfl, -⟩ | ⟨-, _, _, -, -, rfl⟩
      · exact ⟨rfl, rfl⟩
      · exact ⟨rfl, rfl⟩
  | submitSigned requestId psbtBase64 signedTransactionHex now =>
      apply session
      intro db' run
      obtain ⟨_, _, _, _, -, -, -, rfl, -⟩ := submitSignedPaymentRequest_ok run
      exact ⟨rfl, rfl⟩
  | broadcast node requestId now =>
      rcases broadcastPayment_cases bdk node db requestId now with ⟨_, _, run⟩ |
        ⟨_, _, _, _, -, -, -, -, run⟩
      · rw [run]
        exact ⟨rfl, rfl⟩
      · rw [run]
        exact ⟨rfl, rfl⟩
  | cancelPaymentRequest requestId now =>
      apply session
      intro db' run
      obtain ⟨_, -, -, rfl⟩ := cancelPaymentRequest_ok run
      exact ⟨rfl, rfl⟩
  | createInvoice order =>
      apply session
      intro db' run
      exact ⟨(createInvoice_frame run).holdings, (createInvoice_frame run).executions⟩
  | cancelInvoice invoiceId =>
      apply session
      intro db' run
      rw [cancelInvoice_tables run]
      exact ⟨rfl, rfl⟩
  | _ => exact leaves.elim

/-- A deletion forgets the requests of its holding. -/
theorem deletionResult_request (db : Database) (holdingId : Uuid) (policyIds : List Uuid)
    (requestId : Uuid) :
    RequestForgotten (db.paymentRequests.get? requestId)
      ((deletionResult db holdingId policyIds).paymentRequests.get? requestId) := by
  simp only [deletionResult]
  rw [Table.get?_updateAll, Table.get?_delete]
  cases found : db.paymentRequests.get? requestId with
  | none => exact .gone none
  | some row =>
      rw [Option.filter_some]
      split
      · exact .forgotten row _ _
      · exact .gone _

/-- What an operation makes of a request. -/
theorem requestChange_of_step (bdk : Bdk Psbt Tx) {db : Database}
    (wellFormed : ChainWellFormed db) (operation : Operation) (requestId : Uuid) :
    RequestChange bdk operation (db.paymentRequests.get? requestId)
      ((step bdk db operation).paymentRequests.get? requestId) := by
  rw [step]
  cases operation with
  | registerHolding row => exact .moved (.kept _)
  | changeHolding holdingId holdingType purpose declaredSigningModel => exact .moved (.kept _)
  | registerDescriptor holdingId spec =>
      exact .moved (.of_session fun _ run => .of_same (registerDescriptor_frame run).requests requestId)
  | deleteHolding holdingId policyIds =>
      simp only [perform, deleteHolding]
      split
      · exact .moved (.kept _)
      · split
        · exact .moved (.kept _)
        · split
          · exact .moved (.kept _)
          · exact .deleted trivial (deletionResult_request db holdingId policyIds requestId)
  | scanDescriptor node descriptorId =>
      exact .moved (.of_session fun _ run => .of_same (scanDescriptor_frame run).requests requestId)
  | freezeUtxo outpoint frozen => exact .moved (.kept _)
  | createSweepExecution row => exact .moved (.kept _)
  | updateSweepExecution executionId status withdrawalId expectedTxid confirmedTxid error completedAt =>
      exact .moved (.kept _)
  | linkSweepExecution written executionId =>
      exact .moved (.of_modify (fun row _ => .attributed row executionId) requestId)
  | buildPaymentRequest node order now =>
      simp only [perform]
      cases run : buildPaymentRequest bdk node db order now with
      | error error => exact .moved (.kept _)
      | ok out =>
          rcases buildPaymentRequest_change run requestId with move | new
          · exact .moved move
          · exact .built trivial new
  | submitSigned written psbtBase64 signedTransactionHex now =>
      refine .moved (.of_session fun db' run => ?_)
      obtain ⟨request, original, signedHex, storedPsbt, found, awaits, holds, rfl, accepts, keeps⟩ :=
        submitSignedPaymentRequest_ok run
      apply RequestMove.of_modify
      intro row same
      rw [found, Option.some.injEq] at same
      subst same
      refine .signed awaits signedHex storedPsbt now ?_
      have isWritten : request.id = written := Table.key_of_get? found
      cases psbtBase64 with
      | none => exact ⟨isWritten, keeps rfl⟩
      | some submitted =>
          obtain ⟨stored, rfl, accepted⟩ := accepts submitted rfl
          exact ⟨isWritten, original, signedHex, stored, holds, accepted, rfl⟩
  | broadcast node written now =>
      rcases broadcastPayment_cases bdk node db written now with ⟨_, _, run⟩ |
        ⟨attempts, request, transactionHex, broadcastTxid, found, awaits, -, -, run⟩
      · rw [run]
        exact .moved (.kept _)
      · rw [run]
        refine .moved ?_
        apply @RequestMove.of_modify _ _ bdk _ { db with broadcastAttempts := attempts }
        intro row same
        rw [found, Option.some.injEq] at same
        exact .sent (same ▸ awaits) broadcastTxid now
  | cancelPaymentRequest written now =>
      refine .moved (.of_session fun db' run => ?_)
      obtain ⟨request, found, allowed, rfl⟩ := cancelPaymentRequest_ok run
      apply RequestMove.of_modify
      intro row same
      rw [found, Option.some.injEq] at same
      exact .cancelled (same ▸ allowed) now
  | createInvoice order =>
      exact .moved (.of_session fun _ run => .of_same (createInvoice_frame run).requests requestId)
  | cancelInvoice invoiceId =>
      exact .moved (.of_session fun _ run =>
        .of_same (congrArg Database.paymentRequests (cancelInvoice_tables run)) requestId)
  | handleTx tx ctx =>
      refine .moved (.of_session fun db' run => ?_)
      obtain ⟨events, run⟩ := map_fst_ok run
      obtain ⟨-, direction, postings, handled⟩ := handled_of_ok wellFormed run
      exact handled.requestMove requestId

/-- An operation that raises leaves every request as it was. -/
theorem perform_raised_requests {db : Database} {operation : Operation} {error : PyError}
    (raised : (perform bdk db operation).2 = some error) :
    (step bdk db operation).paymentRequests = db.paymentRequests := by
  have rolledBack : ∀ out : Except PyError Database, (commitOrRollback db out).2 = some error →
      (commitOrRollback db out).1.paymentRequests = db.paymentRequests := by
    intro out raised
    cases out with
    | error error => rfl
    | ok db' => cases raised
  rw [step]
  cases operation with
  | registerHolding row => cases raised
  | changeHolding holdingId holdingType purpose declaredSigningModel => cases raised
  | registerDescriptor holdingId spec => exact rolledBack _ raised
  | deleteHolding holdingId policyIds => exact rolledBack _ raised
  | scanDescriptor node descriptorId => exact rolledBack _ raised
  | freezeUtxo outpoint frozen => cases raised
  | createSweepExecution row => cases raised
  | updateSweepExecution executionId status withdrawalId expectedTxid confirmedTxid error completedAt =>
      cases raised
  | linkSweepExecution written executionId => cases raised
  | buildPaymentRequest node order now => exact rolledBack _ raised
  | submitSigned written psbtBase64 signedTransactionHex now => exact rolledBack _ raised
  | broadcast node written now =>
      rcases broadcastPayment_cases bdk node db written now with ⟨_, _, run⟩ |
        ⟨_, _, _, _, -, -, -, -, run⟩
      · rw [run]
      · rw [run] at raised
        cases raised
  | cancelPaymentRequest written now => exact rolledBack _ raised
  | createInvoice order => exact rolledBack _ raised
  | cancelInvoice invoiceId => exact rolledBack _ raised
  | handleTx tx ctx => exact rolledBack _ raised

end TallyKeep
