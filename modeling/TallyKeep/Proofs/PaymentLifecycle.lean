/-
Module: TallyKeep.Proofs.PaymentLifecycle
Layer: Proofs
Purpose: The state machine of a payment request, over every sequential run of the program.
Trusted boundary: none
Main exports: StatusMove, PaymentRequestRow.Consistent, LifecycleStep, PaymentLifecycle,
  paymentLifecycle_of_run
-/
import TallyKeep.Proofs.RequestSteps
import TallyKeep.Proofs.EntryLinks

namespace TallyKeep

open Relational Transition

/-- One step of the state machine; a request that is not there yet has no status. -/
inductive StatusMove : Option PaymentStatus → Option PaymentStatus → Prop where
  | kept (status : Option PaymentStatus) : StatusMove status status
  | built : StatusMove none (some .awaitingSignature)
  | signed : StatusMove (some .awaitingSignature) (some .awaitingBroadcast)
  | sent : StatusMove (some .awaitingBroadcast) (some .broadcast)
  | confirmed : StatusMove (some .broadcast) (some .confirmed)
  | cancelled {status : PaymentStatus} (allowed : status.Cancellable) :
      StatusMove (some status) (some .cancelled)

/-- The statuses that are never left. -/
def PaymentStatus.Final (status : PaymentStatus) : Prop :=
  status = .cancelled ∨ status = .confirmed

/-- Which of the nullable fields are set, by status. -/
structure PaymentRequestRow.Consistent (row : PaymentRequestRow) : Prop where
  signed : row.status = .awaitingBroadcast ∨ row.status = .broadcast ∨ row.status = .confirmed →
    row.signedTransactionHex.isSome
  sent : row.broadcastTxid.isSome ↔ row.status = .broadcast ∨ row.status = .confirmed
  linked : row.resultingLedgerEntryId.isSome ↔ row.status = .confirmed

/-- Every request that is there satisfies the condition. -/
def AllRequests (db : Database) (condition : PaymentRequestRow → Prop) : Prop :=
  ∀ requestId row, db.paymentRequests.get? requestId = some row → condition row

variable {Psbt Tx : Type} {bdk : Bdk Psbt Tx}

/-! ### One step -/

/-- A move of the row is a move of the status. -/
theorem RequestMove.statusMove {before after : Option PaymentRequestRow}
    (move : RequestMove bdk operation before after) :
    StatusMove (before.map PaymentRequestRow.status) (after.map PaymentRequestRow.status) := by
  cases move with
  | kept found => exact .kept _
  | attributed row executionId => exact .kept _
  | signed awaits signedTransactionHex psbtBase64 now =>
      rw [Option.map_some, awaits]
      exact .signed
  | sent awaits broadcastTxid now =>
      rw [Option.map_some, awaits]
      exact .sent
  | confirmed waits resultingLedgerEntryId now =>
      rw [Option.map_some, waits]
      exact .confirmed
  | cancelled allowed now => exact .cancelled allowed

/-- A move keeps the fields consistent with the status. -/
theorem RequestMove.consistent {before after : Option PaymentRequestRow}
    (move : RequestMove bdk operation before after) (holds : ∀ row, before = some row → row.Consistent) :
    ∀ row, after = some row → row.Consistent := by
  intro after same
  cases move with
  | kept found => exact holds after same
  | attributed row executionId =>
      cases same
      have consistent := holds row rfl
      exact ⟨consistent.signed, consistent.sent, consistent.linked⟩
  | @signed row awaits signedTransactionHex psbtBase64 now =>
      cases same
      have consistent := holds row rfl
      have notSent := consistent.sent
      have notLinked := consistent.linked
      simp only [awaits] at notSent notLinked
      exact ⟨by simp [PaymentRequestRow.signed], by simpa [PaymentRequestRow.signed] using notSent,
        by simpa [PaymentRequestRow.signed] using notLinked⟩
  | @sent row awaits broadcastTxid now =>
      cases same
      have consistent := holds row rfl
      have isSigned := consistent.signed (Or.inl awaits)
      have notLinked := consistent.linked
      simp only [awaits] at notLinked
      exact ⟨fun _ => isSigned, by simp [PaymentRequestRow.sent],
        by simpa [PaymentRequestRow.sent] using notLinked⟩
  | @confirmed row waits resultingLedgerEntryId now =>
      cases same
      have consistent := holds row rfl
      have isSigned := consistent.signed (Or.inr (Or.inl waits))
      have isSent := consistent.sent.mpr (Or.inl waits)
      exact ⟨fun _ => isSigned, by simpa [PaymentRequestRow.confirmed] using isSent,
        by simp [PaymentRequestRow.confirmed]⟩
  | @cancelled row allowed now =>
      cases same
      have consistent := holds row rfl
      have notSent := consistent.sent
      have notLinked := consistent.linked
      rcases allowed with draft | awaits | awaits
      all_goals
        simp only [*] at notSent notLinked
        exact ⟨by simp [PaymentRequestRow.cancelled],
          by simpa [PaymentRequestRow.cancelled] using notSent,
          by simpa [PaymentRequestRow.cancelled] using notLinked⟩

theorem RequestBuilt.statusMove {before after : Option PaymentRequestRow}
    (new : RequestBuilt bdk before after) :
    StatusMove (before.map PaymentRequestRow.status) (after.map PaymentRequestRow.status) := by
  cases new
  exact .built

/-- A request that is built has none of the nullable fields. -/
theorem RequestBuilt.consistent {before after : Option PaymentRequestRow}
    (new : RequestBuilt bdk before after) : ∀ row, after = some row → row.Consistent := by
  intro row same
  cases new
  cases same
  exact ⟨by simp [PaymentOrder.request], by simp [PaymentOrder.request],
    by simp [PaymentOrder.request]⟩

/-- A status that is never left is not left by one step. -/
theorem StatusMove.final {status : PaymentStatus} {after : Option PaymentStatus}
    (move : StatusMove (some status) after) (final : status.Final) : after = some status := by
  cases move with
  | kept => rfl
  | signed => rcases final with same | same <;> cases same
  | sent => rcases final with same | same <;> cases same
  | confirmed => rcases final with same | same <;> cases same
  | cancelled allowed =>
      rcases final with rfl | rfl <;> rcases allowed with same | same | same <;> cases same

/-! ### Runs -/

/-- One operation that deletes no holding. -/
def LifecycleStep (bdk : Bdk Psbt Tx) (chain : Chain) : Database → Operation → Database → Prop :=
  guarded (stepOf (step bdk)) fun _ operation => Legal chain operation ∧ ¬operation.Deletes

/-- What holds of the requests in a state: their fields fit their statuses, every step moves them
    along the state machine, no run leaves a final status, and what raises changes no row. -/
structure PaymentLifecycle (bdk : Bdk Psbt Tx) (chain : Chain) (db : Database) : Prop where
  consistent : AllRequests db PaymentRequestRow.Consistent
  moves : ∀ operation db', LifecycleStep bdk chain db operation db' → ∀ requestId,
    StatusMove ((db.paymentRequests.get? requestId).map PaymentRequestRow.status)
      ((db'.paymentRequests.get? requestId).map PaymentRequestRow.status)
  final : ∀ operations db', Run (LifecycleStep bdk chain) db operations db' →
    ∀ requestId row, db.paymentRequests.get? requestId = some row → row.status.Final →
      ∃ row', db'.paymentRequests.get? requestId = some row' ∧ row'.status = row.status
  raising : ∀ operation error, (perform bdk db operation).2 = some error → ∀ requestId,
    (perform bdk db operation).1.paymentRequests.get? requestId =
      db.paymentRequests.get? requestId

section Steps

variable {chain : Chain} {db db' : Database} {operation : Operation}

theorem LifecycleStep.systemStep (taken : LifecycleStep bdk chain db operation db') :
    SystemStep bdk chain db operation db' := ⟨taken.1.1, taken.2⟩

theorem LifecycleStep.requestChange (taken : LifecycleStep bdk chain db operation db')
    (sound : Sound chain db) (requestId : Uuid) :
    RequestMove bdk operation (db.paymentRequests.get? requestId)
        (db'.paymentRequests.get? requestId) ∨
      RequestBuilt bdk (db.paymentRequests.get? requestId)
        (db'.paymentRequests.get? requestId) := by
  obtain ⟨⟨-, keeps⟩, rfl⟩ := taken
  cases requestChange_of_step bdk sound.wellFormed operation requestId with
  | moved move => exact Or.inl move
  | built _ new => exact Or.inr new
  | deleted deletes _ => exact absurd deletes keeps

theorem LifecycleStep.statusMove (taken : LifecycleStep bdk chain db operation db')
    (sound : Sound chain db) (requestId : Uuid) :
    StatusMove ((db.paymentRequests.get? requestId).map PaymentRequestRow.status)
      ((db'.paymentRequests.get? requestId).map PaymentRequestRow.status) := by
  rcases taken.requestChange sound requestId with move | new
  · exact move.statusMove
  · exact new.statusMove

/-- The invariant of the runs. -/
structure LifecycleInvariant (chain : Chain) (db : Database) : Prop where
  sound : Sound chain db
  consistent : AllRequests db PaymentRequestRow.Consistent

theorem LifecycleInvariant.step (holds : LifecycleInvariant chain db)
    (taken : LifecycleStep bdk chain db operation db') : LifecycleInvariant chain db' := by
  refine ⟨sound_step db operation db' holds.sound taken.systemStep, ?_⟩
  intro requestId row found
  rcases taken.requestChange holds.sound requestId with move | new
  · exact move.consistent (holds.consistent requestId) row found
  · exact new.consistent row found

/-- A final status stays along a run. -/
theorem LifecycleInvariant.final {operations : List Operation}
    (holds : LifecycleInvariant chain db)
    (run : Run (LifecycleStep bdk chain) db operations db') {requestId : Uuid}
    {status : PaymentStatus} (final : status.Final)
    (there : (db.paymentRequests.get? requestId).map PaymentRequestRow.status = some status) :
    (db'.paymentRequests.get? requestId).map PaymentRequestRow.status = some status := by
  induction run with
  | stop db => exact there
  | cons taken _ inductionHypothesis =>
      have move := taken.statusMove holds.sound requestId
      rw [there] at move
      exact inductionHypothesis (holds.step taken) (move.final final)

end Steps

/-- Every sequential run of the program keeps every request within the state machine. -/
theorem paymentLifecycle_of_run {chain : Chain} {operations : List Operation} {db : Database}
    (run : Run (LifecycleStep bdk chain) Database.empty operations db) :
    PaymentLifecycle bdk chain db := by
  have initially : LifecycleInvariant chain Database.empty := by
    refine ⟨.ofEmpty chain, ?_⟩
    intro requestId row found
    cases found
  have holds : LifecycleInvariant chain db :=
    run.invariant (fun _ _ _ holds taken => holds.step taken) initially
  refine ⟨holds.consistent, ?_, ?_, ?_⟩
  · intro operation db' taken requestId
    exact taken.statusMove holds.sound requestId
  · intro operations' db' later requestId row found final
    have there : (db.paymentRequests.get? requestId).map PaymentRequestRow.status =
        some row.status := by
      rw [found, Option.map_some]
    exact Option.map_eq_some_iff.mp (holds.final later final there)
  · intro operation error raised requestId
    exact congrArg (Table.get? · requestId) (perform_raised_requests raised)

/-- The sample transfer, from the setup of its holdings to its confirmation. -/
def transferConfirmed : List Operation :=
  transferPaid 10 20 ++ [.handleTx sampleTransfer (sampleCall (some 101))]

/-- The request of the sample transfer is built, signed, sent and confirmed. -/
theorem paymentLifecycle_of_run_transfer :
    PaymentLifecycle sampleBdk sampleChain
      (transferConfirmed.foldl (step sampleBdk) Database.empty) := by
  apply @paymentLifecycle_of_run _ _ sampleBdk sampleChain transferConfirmed
  apply Run.of_guarded
  simp only [transferConfirmed, transferPaid, transferOrdered, fundingOperations, setupOperations,
    List.cons_append, List.nil_append, List.forall_mem_cons, List.not_mem_nil, false_implies,
    implies_true, Legal, Operation.Deletes, not_false_eq_true, and_true, true_and]
  exact ⟨sampleChain_payment, sampleChain_transfer⟩

end TallyKeep
