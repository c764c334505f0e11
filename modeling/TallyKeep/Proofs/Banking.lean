/-
Module: TallyKeep.Proofs.Banking
Layer: Proofs
Purpose: One specification for each operation on payment requests: under which guard it writes, and
  what.
Trusted boundary: none
Main exports: composePayment_ok, buildPaymentRequest_ok, submitSignedPaymentRequest_ok,
  broadcastPayment_cases, cancelPaymentRequest_ok
-/
import TallyKeep.System

namespace TallyKeep

open Relational

/-- What holds before a session and after every session that returns holds after the commit. -/
theorem commitOrRollback_invariant {I : Database → Prop} {before : Database}
    {out : Except PyError Database} (holds : I before) (returned : ∀ db, out = .ok db → I db) :
    I (commitOrRollback before out).1 := by
  cases out with
  | error error => exact holds
  | ok db => exact returned db rfl

variable {Psbt Tx : Type} {bdk : Bdk Psbt Tx}

/-! ### Building -/

theorem PaymentRequestRow.postInit_ok {row row' : PaymentRequestRow}
    (run : row.postInit = .ok row') : row' = row := by
  rw [PaymentRequestRow.postInit] at run
  split at run
  · cases run
  · exact (Except.ok.inj run).symm

/-- A composed request is a fresh one around some PSBT the library built. -/
theorem composePayment_ok {node : PaymentNode} {db : Database} {order : PaymentOrder}
    {requestId : Uuid} {now : Timestamp} {request : PaymentRequestRow}
    (run : composePayment bdk node db order requestId now = .ok request) :
    ∃ psbtOrder psbtBase64, bdk.buildPsbt psbtOrder = .ok psbtBase64 ∧
      request = order.request requestId psbtBase64 now := by
  rw [composePayment, bind_ok_iff] at run
  obtain ⟨descriptor, -, run⟩ := run
  simp only at run
  split at run
  · cases run
  · split at run
    · cases run
    · split at run
      · cases run
      · rw [bind_ok_iff] at run
        obtain ⟨feeRate, -, run⟩ := run
        rw [bind_ok_iff] at run
        obtain ⟨utxosForBuild, -, run⟩ := run
        split at run
        · cases run
        · rename_i psbtBase64 built
          exact ⟨_, psbtBase64, built, PaymentRequestRow.postInit_ok run⟩

/-- An admitted order finds no request of its holding in flight. -/
theorem admitPayment_admitted {db : Database} {order : PaymentOrder}
    (run : admitPayment db order = .ok .admitted) :
    PaymentRequestRepo.hasInFlightForHolding db order.holdingId = false := by
  rw [admitPayment] at run
  split at run
  · cases run
  · split at run
    · cases run
    · split at run
      · cases run
      · split at run
        · cases run
        · rename_i idle
          simpa using idle

theorem buildPaymentRequest_ok {node : PaymentNode} {db db' : Database} {order : PaymentOrder}
    {now : Timestamp} {out : Option PaymentRequestRow}
    (run : buildPaymentRequest bdk node db order now = .ok (db', out)) :
    db' = db ∧ out = none ∨
      PaymentRequestRepo.hasInFlightForHolding db order.holdingId = false ∧
        ∃ psbtOrder psbtBase64, bdk.buildPsbt psbtOrder = .ok psbtBase64 ∧
          out = some (order.request db.paymentRequests.freshKey psbtBase64 now) ∧
          db' = PaymentRequestRepo.insert db
            (order.request db.paymentRequests.freshKey psbtBase64 now) := by
  rw [buildPaymentRequest, bind_ok_iff] at run
  obtain ⟨admission, admitted, run⟩ := run
  cases admission with
  | requiresConfirmation message =>
      cases run
      exact Or.inl ⟨rfl, rfl⟩
  | admitted =>
      simp only [bind_ok_iff] at run
      obtain ⟨request, composed, run⟩ := run
      cases run
      obtain ⟨psbtOrder, psbtBase64, built, rfl⟩ := composePayment_ok composed
      exact Or.inr
        ⟨admitPayment_admitted admitted, psbtOrder, psbtBase64, built, rfl, rfl⟩

/-! ### Submitting -/

theorem requestOf_ok {db : Database} {requestId : Uuid} {request : PaymentRequestRow}
    (run : requestOf db requestId = .ok request) :
    db.paymentRequests.get? requestId = some request := by
  rw [requestOf] at run
  split at run
  · cases run
  · rename_i found
    rw [found, Except.ok.inj run]

/-- An accepted submission: the request awaited a signature for a stored PSBT, and what is stored is
    what one of the routes accepted. -/
theorem submitSignedPaymentRequest_ok {db db' : Database} {requestId : Uuid}
    {psbtBase64 signedTransactionHex : Option String} {now : Timestamp}
    (run : submitSignedPaymentRequest bdk db requestId psbtBase64 signedTransactionHex now =
      .ok db') :
    ∃ request original signedHex storedPsbt,
      db.paymentRequests.get? requestId = some request ∧
        request.status = .awaitingSignature ∧ request.psbtBase64 = some original ∧
        db' = PaymentRequestRepo.markSigned db requestId signedHex storedPsbt now ∧
        (∀ submitted, psbtBase64 = some submitted →
          ∃ stored, storedPsbt = some stored ∧
            acceptPsbt bdk original submitted = .ok (signedHex, stored)) ∧
        (psbtBase64 = none → storedPsbt = none) := by
  rw [submitSignedPaymentRequest, bind_ok_iff] at run
  obtain ⟨request, found, run⟩ := run
  simp only at run
  split at run
  · cases run
  · rename_i awaiting
    cases original : request.psbtBase64 with
    | none =>
        simp only [original] at run
        cases run
    | some originalPsbt =>
        simp only [original] at run
        cases psbtBase64 with
        | some submitted =>
            simp only [bind_ok_iff] at run
            obtain ⟨⟨signedHex, stored⟩, accepted, run⟩ := run
            cases run
            refine ⟨request, originalPsbt, signedHex, some stored, requestOf_ok found,
              not_not.mp awaiting, original, rfl, ?_, nofun⟩
            intro other same
            cases same
            exact ⟨stored, rfl, accepted⟩
        | none =>
            cases signedTransactionHex with
            | none => cases run
            | some submitted =>
                simp only [bind_ok_iff] at run
                obtain ⟨signedHex, -, run⟩ := run
                cases run
                exact ⟨request, originalPsbt, signedHex, none, requestOf_ok found,
                  not_not.mp awaiting, original, rfl, nofun, fun _ => rfl⟩

/-! ### Broadcasting -/

theorem broadcastable_ok {db : Database} {requestId : Uuid} {transactionHex txid : String}
    (run : broadcastable bdk db requestId = .ok (transactionHex, txid)) :
    ∃ request, db.paymentRequests.get? requestId = some request ∧
      request.status = .awaitingBroadcast ∧
      request.signedTransactionHex = some transactionHex := by
  rw [broadcastable, bind_ok_iff] at run
  obtain ⟨request, found, run⟩ := run
  simp only at run
  split at run
  · cases run
  · rename_i awaiting
    cases signed : request.signedTransactionHex with
    | none =>
        simp only [signed] at run
        cases run
    | some hex =>
        simp only [signed] at run
        split at run
        · cases run
        · cases run
          exact ⟨request, requestOf_ok found, not_not.mp awaiting, signed⟩

/-- The committed effect of a broadcast: at most an attempt row, unless bitcoind accepts. -/
theorem broadcastPayment_cases (bdk : Bdk Psbt Tx) (node : PaymentNode) (db : Database)
    (requestId : Uuid) (now : Timestamp) :
    (∃ attempts error, perform bdk db (.broadcast node requestId now) =
        ({ db with broadcastAttempts := attempts }, some error)) ∨
      ∃ attempts request transactionHex broadcastTxid,
        db.paymentRequests.get? requestId = some request ∧
          request.status = .awaitingBroadcast ∧
          request.signedTransactionHex = some transactionHex ∧
          node.sendRawTransaction transactionHex = .ok broadcastTxid ∧
          perform bdk db (.broadcast node requestId now) =
            (PaymentRequestRepo.markBroadcast { db with broadcastAttempts := attempts } requestId
              broadcastTxid now, none) := by
  rw [perform, broadcastPaymentRequest]
  cases ready : broadcastable bdk db requestId with
  | error error =>
      apply Or.inl
      refine ⟨db.broadcastAttempts, error, ?_⟩
      simp only [commitBroadcast]
      split <;> rfl
  | ok sent =>
      obtain ⟨transactionHex, txid⟩ := sent
      simp only
      cases answer : node.sendRawTransaction transactionHex with
      | error error =>
          apply Or.inl
          cases error with
          | rpc code message => exact ⟨_, _, rfl⟩
          | unavailable message => exact ⟨db.broadcastAttempts, _, rfl⟩
      | ok broadcastTxid =>
          obtain ⟨request, found, awaiting, signed⟩ := broadcastable_ok ready
          exact Or.inr ⟨_, request, transactionHex, broadcastTxid, found, awaiting, signed, answer,
            rfl⟩

/-! ### Cancelling -/

theorem cancelPaymentRequest_ok {db db' : Database} {requestId : Uuid} {now : Timestamp}
    (run : cancelPaymentRequest db requestId now = .ok db') :
    ∃ request, db.paymentRequests.get? requestId = some request ∧ request.status.Cancellable ∧
      db' = PaymentRequestRepo.modify db requestId (fun row => row.cancelled now)
        (fun row => row.cancelled_id now) := by
  rw [cancelPaymentRequest, bind_ok_iff] at run
  obtain ⟨request, found, run⟩ := run
  have stored := requestOf_ok found
  have sameId : request.id = requestId := Table.key_of_get? stored
  rw [PaymentRequestRepo.cancel] at run
  by_cases allowed : request.status.Cancellable
  · rw [if_pos allowed] at run
    cases run
    rw [sameId]
    exact ⟨request, stored, allowed, rfl⟩
  · rw [if_neg allowed] at run
    cases run

/-! ### A sample PSBT library -/

/-- The sample texts that stand for another transaction. -/
def isForeign (text : String) : Bool := text = "foreign" || text = "foreign finalised"

/-- A library whose PSBTs and transactions are their own texts: everything spends the same coin in
    the same way, except what is called foreign; a text that says so is finalised. -/
def sampleBdk : Bdk String String where
  parseAddress _ _ := .ok ()
  buildPsbt _ := .ok "unsigned"
  parsePsbt := .ok
  serializePsbt := id
  inputs text := [⟨text = "finalised" || text = "foreign finalised", false⟩]
  combine original submitted :=
    if isForeign original = isForeign submitted then .ok original
    else .error "unsigned transactions differ"
  finalize text :=
    .ok ⟨if isForeign text then "foreign finalised" else "finalised", true, ""⟩
  extractTx := .ok
  serializeTx := id
  parseTx := .ok
  computeTxid _ := String.ofList (List.replicate 64 'b')

end TallyKeep
