/-
Module: TallyKeep.Proofs.BroadcastRecord
Layer: Proofs
Purpose: Which outcomes of `sendrawtransaction` leave the row of the attempt in the committed
  database.
Trusted boundary: none
Main exports: AttemptRecorded, NodeAnswers, attemptRecorded_iff
-/
import TallyKeep.Proofs.BroadcastRace

namespace TallyKeep

open Relational Transition

/-- A new attempt row of the request is in the committed database. -/
def AttemptRecorded (before after : Database) (requestId : Uuid) (transactionHex txid : String) :
    Prop :=
  ∃ attempt ∈ after.broadcastAttempts.rows,
    before.broadcastAttempts.get? attempt.id = none ∧ attempt.paymentRequestId = requestId ∧
      attempt.transactionHex = transactionHex ∧ attempt.txid = txid

/-- bitcoind accepts or rejects the transaction. -/
def NodeAnswers (node : PaymentNode) (transactionHex : String) : Prop :=
  ∀ message, node.sendRawTransaction transactionHex ≠ .error (.unavailable message)

/-- The database that was there holds no new row. -/
theorem not_attemptRecorded_self (db : Database) (requestId : Uuid) (transactionHex txid : String) :
    ¬AttemptRecorded db db requestId transactionHex txid := by
  intro ⟨attempt, stored, new, _⟩
  have found : db.broadcastAttempts.get? attempt.id = some attempt := Table.get?_of_mem stored
  rw [new] at found
  cases found

/-- The attempt that is inserted stays, whatever status it gets. -/
theorem attemptRecorded_update {db after : Database} {requestId : Uuid}
    {transactionHex txid : String} {status : BroadcastAttemptStatus} {reason : Option String}
    {now : Timestamp}
    (written : after.broadcastAttempts =
      (PaymentRequestRepo.updateBroadcastAttempt
        (PaymentRequestRepo.insertBroadcastAttempt db db.broadcastAttempts.freshKey requestId
          transactionHex txid) db.broadcastAttempts.freshKey status reason now).broadcastAttempts) :
    AttemptRecorded db after requestId transactionHex txid := by
  let attempt : BroadcastAttemptRow :=
    ⟨db.broadcastAttempts.freshKey, requestId, transactionHex, txid, .submitted, none, none⟩
  have fresh : db.broadcastAttempts.get? (key attempt) = none :=
    Table.get?_freshKey db.broadcastAttempts
  have found : after.broadcastAttempts.get? db.broadcastAttempts.freshKey = some
      { attempt with status := status, rejectionReason := reason, completedAt := some now } := by
    rw [written]
    simp only [PaymentRequestRepo.updateBroadcastAttempt,
      PaymentRequestRepo.insertBroadcastAttempt, Table.get?_update, if_true]
    rw [Table.get?_insert_of_fresh fresh]
    change Option.map _ (if attempt.id = attempt.id then _ else _) = _
    rw [if_pos rfl, Option.map_some]
    simp [attempt]
  exact ⟨_, Table.mem_of_get? found, fresh, rfl, rfl, rfl⟩

variable {Psbt Tx : Type}

/-- For every request whose signed transaction is sent, the attempt is in the committed database
    when the call has ended exactly when bitcoind accepted or rejected the transaction and the
    process lived. -/
theorem attemptRecorded_iff (bdk : Bdk Psbt Tx) (node : PaymentNode) {db : Database}
    {requestId : Uuid} {transactionHex txid : String}
    (sent : broadcastable bdk db requestId = .ok (transactionHex, txid)) (now : Timestamp)
    (ending : CallEnd) :
    AttemptRecorded db (broadcastEnded bdk node db requestId now ending) requestId transactionHex
        txid ↔ ending = .answered ∧ NodeAnswers node transactionHex := by
  cases ending with
  | crashed =>
      simp only [broadcastEnded, reduceCtorEq, false_and, iff_false]
      exact not_attemptRecorded_self db requestId transactionHex txid
  | answered =>
      rw [broadcastEnded, step, perform, broadcastPaymentRequest, sent]
      simp only [true_and]
      cases answer : node.sendRawTransaction transactionHex with
      | ok broadcastTxid =>
          -- Accepted: the endpoint commits attempt and request.
          refine iff_of_true (attemptRecorded_update rfl) ?_
          intro message refused
          rw [answer] at refused
          cases refused
      | error error =>
          cases error with
          | rpc code message =>
              -- Rejected: the handler commits before it answers with the error.
              refine iff_of_true (attemptRecorded_update rfl) ?_
              intro other refused
              rw [answer] at refused
              cases refused
          | unavailable message =>
              -- Unreachable: the handler answers without a commit, and the session is rolled back.
              apply iff_of_false
              · exact not_attemptRecorded_self db requestId transactionHex txid
              · intro answers
                exact answers message answer

/-! ### A node that is down -/

/-- The signed payment is accepted, and its attempt is recorded. -/
theorem attemptRecorded_iff_accepted :
    ∃ transactionHex txid,
      AttemptRecorded signedDb
        (broadcastEnded sampleBdk samplePaymentNode signedDb 1 3 .answered) 1 transactionHex
        txid := by
  have ready : (broadcastable sampleBdk signedDb 1).isOk = true := by decide +kernel
  cases sent : broadcastable sampleBdk signedDb 1 with
  | error error =>
      rw [sent] at ready
      cases ready
  | ok out =>
      obtain ⟨transactionHex, txid⟩ := out
      refine ⟨transactionHex, txid, ?_⟩
      exact (attemptRecorded_iff sampleBdk samplePaymentNode sent 3 .answered).mpr ⟨rfl, nofun⟩

/-- bitcoind does not answer. -/
def silentNode : PaymentNode :=
  { samplePaymentNode with sendRawTransaction := fun _ => .error (.unavailable "timed out") }

/-- The signed payment is sent to a node that times out: no attempt is recorded. -/
theorem not_attemptRecorded_of_timeout :
    Reached sampleBdk outsideChain signedDb ∧
      (signedDb.paymentRequests.get? 1).map PaymentRequestRow.status =
        some .awaitingBroadcast ∧
      (broadcastable sampleBdk signedDb 1).isOk = true ∧
      ∀ transactionHex txid,
        ¬AttemptRecorded signedDb
          (broadcastEnded sampleBdk silentNode signedDb 1 3 .answered) 1 transactionHex
          txid := by
  refine ⟨signedDb_reached, by decide +kernel, by decide +kernel, ?_⟩
  intro transactionHex txid ⟨attempt, stored, _⟩
  have nothing : (broadcastEnded sampleBdk silentNode signedDb 1 3
      .answered).broadcastAttempts.rows = [] := by
    decide +kernel
  rw [nothing] at stored
  cases stored

end TallyKeep
