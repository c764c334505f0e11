/-
Module: TallyKeep.Proofs.Submission
Layer: Proofs
Purpose: Whether a submitted PSBT spends and pays what was approved when the request was built.
Trusted boundary: none; what the PSBT library does is a hypothesis, `BdkLaws`
Main exports: UnsignedTransaction, BdkLaws, ApprovalReached, SubmissionRight, submissionRight_iff
-/
import TallyKeep.Proofs.EntryLinks
import TallyKeep.Proofs.RequestSteps

namespace TallyKeep

open Relational Transition

/-! ### Transactions -/

structure TransactionInput where
  outpoint : Outpoint
  sequence : Nat
deriving DecidableEq

structure TransactionOutput where
  script : String
  valueSats : Nat
deriving DecidableEq

/-- A transaction without signatures. -/
structure UnsignedTransaction where
  version : Nat
  lockTime : Nat
  inputs : List TransactionInput
  outputs : List TransactionOutput
deriving DecidableEq

/-- What a transaction spends and what it pays. -/
def UnsignedTransaction.transfer (tx : UnsignedTransaction) :
    List Outpoint × List TransactionOutput :=
  (tx.inputs.map TransactionInput.outpoint, tx.outputs)

variable {Psbt Tx : Type}

/-- What is known of the PSBT library: it combines PSBTs exactly when their unsigned transactions
    agree, finalising and extracting keep inputs and outputs, serialised transactions can be read
    again, and what it builds it can parse. -/
structure BdkLaws (bdk : Bdk Psbt Tx) (unsigned : Psbt → UnsignedTransaction)
    (body : Tx → UnsignedTransaction) : Prop where
  combine_fails_iff : ∀ original submitted,
    (∃ text, bdk.combine original submitted = .error text) ↔
      unsigned original ≠ unsigned submitted
  combine_keeps : ∀ original submitted merged, bdk.combine original submitted = .ok merged →
    unsigned merged = unsigned original
  finalize_keeps : ∀ psbt result, bdk.finalize psbt = .ok result →
    (unsigned result.psbt).transfer = (unsigned psbt).transfer
  extract_keeps : ∀ psbt tx, bdk.extractTx psbt = .ok tx →
    (body tx).transfer = (unsigned psbt).transfer
  parse_serialize : ∀ tx, bdk.parseTx (bdk.serializeTx tx) = .ok tx
  parse_built : ∀ psbtOrder text, bdk.buildPsbt psbtOrder = .ok text →
    ∃ psbt, bdk.parsePsbt text = .ok psbt

/-! ### What was approved -/

/-- The PSBT each request was built with: it is noted when the request first appears. -/
abbrev Approvals := Uuid → Option String

def noteApprovals (before after : Database) (approvals : Approvals) : Approvals := fun requestId =>
  match before.paymentRequests.get? requestId, after.paymentRequests.get? requestId with
  | none, some row => row.psbtBase64
  | _, _ => approvals requestId

/-- One operation of the program, with the note taken of what it builds. -/
def ApprovalStep (bdk : Bdk Psbt Tx) (chain : Chain) (s : Database × Approvals)
    (operation : Operation) (t : Database × Approvals) : Prop :=
  SystemStep bdk chain s.1 operation t.1 ∧ t.2 = noteApprovals s.1 t.1 s.2

/-- The committed states of the program, with the PSBTs the requests were built with. -/
def ApprovalReached (bdk : Bdk Psbt Tx) (chain : Chain) : Database × Approvals → Prop :=
  Reachable (· = (Database.empty, fun _ => none)) (ApprovalStep bdk chain)

variable {bdk : Bdk Psbt Tx} {chain : Chain}

/-- Taking notes restricts nothing. -/
theorem exists_approvals {db : Database} (reached : Reached bdk chain db) :
    ∃ approvals, ApprovalReached bdk chain (db, approvals) := by
  obtain ⟨start, operations, rfl, run⟩ := reached
  have follow : ∀ {s : Database} {labels : List Operation} {t : Database},
      Run (SystemStep bdk chain) s labels t → ∀ approvals,
        ApprovalReached bdk chain (s, approvals) → ∃ later, ApprovalReached bdk chain (t, later) := by
    intro s labels t run
    induction run with
    | stop s => exact fun approvals here => ⟨approvals, here⟩
    | @cons s middle t operation labels taken _ inductionHypothesis =>
        intro approvals here
        exact inductionHypothesis (noteApprovals s middle approvals) (here.snoc ⟨taken, rfl⟩)
  exact follow run _ (.of_initial rfl)

/-- The request was approved with a PSBT the library built, and holds it while it awaits its
    signature. -/
structure ApprovalHolds (bdk : Bdk Psbt Tx) (approved : Option String) (row : PaymentRequestRow) :
    Prop where
  built : ∃ psbtOrder text, bdk.buildPsbt psbtOrder = .ok text ∧ approved = some text
  stored : row.status = .awaitingSignature → row.psbtBase64 = approved

/-- A move of a request that was there keeps its approval. -/
theorem RequestMove.approvalHolds {row after : PaymentRequestRow} {approved : Option String}
    (move : RequestMove bdk operation (some row) (some after)) (holds : ApprovalHolds bdk approved row) :
    ApprovalHolds bdk approved after := by
  cases move with
  | kept => exact holds
  | attributed row executionId => exact ⟨holds.built, holds.stored⟩
  | signed awaits signedTransactionHex psbtBase64 now => exact ⟨holds.built, nofun⟩
  | sent awaits broadcastTxid now => exact ⟨holds.built, nofun⟩
  | confirmed waits resultingLedgerEntryId now => exact ⟨holds.built, nofun⟩
  | cancelled allowed now => exact ⟨holds.built, nofun⟩

/-- The invariant of the runs with notes. -/
structure ApprovalInvariant (bdk : Bdk Psbt Tx) (chain : Chain) (s : Database × Approvals) :
    Prop where
  sound : Sound chain s.1
  approved : ∀ requestId row, s.1.paymentRequests.get? requestId = some row →
    ApprovalHolds bdk (s.2 requestId) row

theorem ApprovalInvariant.step {s t : Database × Approvals} {operation : Operation}
    (holds : ApprovalInvariant bdk chain s) (taken : ApprovalStep bdk chain s operation t) :
    ApprovalInvariant bdk chain t := by
  obtain ⟨systemStep, noted⟩ := taken
  refine ⟨sound_step s.1 operation t.1 holds.sound systemStep, ?_⟩
  intro requestId after found
  obtain ⟨-, sameStep⟩ := systemStep
  have change := requestChange_of_step bdk holds.sound.wellFormed operation requestId
  have sameDb : TallyKeep.step bdk s.1 operation = t.1 := sameStep.symm
  rw [sameDb, found] at change
  have note := congrFun noted requestId
  simp only [noteApprovals, found] at note
  cases before : s.1.paymentRequests.get? requestId with
  | none =>
      simp only [before] at note change
      cases change with
      | moved move => cases move
      | built _ new =>
          cases new with
          | built order _ now built => exact ⟨⟨_, _, built, note⟩, fun _ => note.symm⟩
      | deleted _ gone => cases gone
  | some row =>
      simp only [before] at note change
      rw [note]
      have approved := holds.approved requestId row before
      cases change with
      | moved move => exact move.approvalHolds approved
      | built _ new => cases new
      | deleted _ gone =>
          cases gone with
          | forgotten row executionIds entryIds => exact ⟨approved.built, approved.stored⟩

theorem approvalInvariant_of_reached {s : Database × Approvals}
    (reached : ApprovalReached bdk chain s) : ApprovalInvariant bdk chain s := by
  apply reached.invariant
  · rintro s rfl
    refine ⟨.ofEmpty chain, ?_⟩
    intro requestId row found
    cases found
  · exact fun _ _ _ holds taken => holds.step taken

/-! ### A submission -/

/-- The PSBT a request was built with, as the library reads it. -/
def ApprovedPsbt (bdk : Bdk Psbt Tx) (approvals : Approvals) (requestId : Uuid) (psbt : Psbt) :
    Prop :=
  ∃ text, approvals requestId = some text ∧ bdk.parsePsbt text = .ok psbt

/-- An accepted PSBT leaves a signed transaction that spends and pays what was approved, and a PSBT
    with another unsigned transaction is rejected and leaves the request as it was. -/
structure SubmissionRight (bdk : Bdk Psbt Tx) (unsigned : Psbt → UnsignedTransaction)
    (body : Tx → UnsignedTransaction) (db : Database) (approvals : Approvals) (requestId : Uuid)
    (psbtBase64 : String) (signedTransactionHex : Option String) (now : Timestamp) : Prop where
  accepted : ∀ db', submitSignedPaymentRequest bdk db requestId (some psbtBase64)
      signedTransactionHex now = .ok db' →
    ∃ original row hex tx, ApprovedPsbt bdk approvals requestId original ∧
      db'.paymentRequests.get? requestId = some row ∧ row.signedTransactionHex = some hex ∧
      bdk.parseTx hex = .ok tx ∧ (body tx).transfer = (unsigned original).transfer
  rejected : ∀ original submitted, ApprovedPsbt bdk approvals requestId original →
    bdk.parsePsbt psbtBase64 = .ok submitted → unsigned submitted ≠ unsigned original →
      (∃ error, submitSignedPaymentRequest bdk db requestId (some psbtBase64)
        signedTransactionHex now = .error error) ∧
      (step bdk db (.submitSigned requestId (some psbtBase64) signedTransactionHex
          now)).paymentRequests.get? requestId = db.paymentRequests.get? requestId

/-- A finalised PSBT that can be extracted, submitted for a request that awaits its signature, is
    one of the transaction that was approved. -/
def FinalisedIsApproved (bdk : Bdk Psbt Tx) (unsigned : Psbt → UnsignedTransaction) (db : Database)
    (approvals : Approvals) (requestId : Uuid) (psbtBase64 : String) : Prop :=
  ∀ request original submitted tx, db.paymentRequests.get? requestId = some request →
    request.status = .awaitingSignature → ApprovedPsbt bdk approvals requestId original →
      bdk.parsePsbt psbtBase64 = .ok submitted → isPsbtFinalized bdk submitted = true →
        bdk.extractTx submitted = .ok tx → unsigned submitted = unsigned original

theorem ApprovedPsbt.unique {approvals : Approvals} {requestId : Uuid} {first second : Psbt}
    (one : ApprovedPsbt bdk approvals requestId first)
    (two : ApprovedPsbt bdk approvals requestId second) : first = second := by
  obtain ⟨text, noted, parsed⟩ := one
  obtain ⟨text', noted', parsed'⟩ := two
  rw [noted, Option.some.injEq] at noted'
  rw [← noted', parsed] at parsed'
  exact Except.ok.inj parsed'

section Routes

variable {unsigned : Psbt → UnsignedTransaction} {body : Tx → UnsignedTransaction}

/-- The two routes on which a PSBT is accepted, with the transaction that is stored. -/
theorem acceptPsbt_ok {originalText submittedText hex stored : String}
    (run : acceptPsbt bdk originalText submittedText = .ok (hex, stored)) :
    ∃ submitted tx, bdk.parsePsbt submittedText = .ok submitted ∧ hex = bdk.serializeTx tx ∧
      (isPsbtFinalized bdk submitted = true ∧ bdk.extractTx submitted = .ok tx ∨
        isPsbtFinalized bdk submitted = false ∧
          ∃ original merged result, bdk.parsePsbt originalText = .ok original ∧
            bdk.combine original submitted = .ok merged ∧ bdk.finalize merged = .ok result ∧
              bdk.extractTx result.psbt = .ok tx) := by
  rw [acceptPsbt] at run
  cases parsed : bdk.parsePsbt submittedText with
  | error text =>
      simp only [parsed] at run
      cases run
  | ok submitted =>
      simp only [parsed] at run
      cases finalised : isPsbtFinalized bdk submitted with
      | true =>
          simp only [finalised, if_true, acceptFinalized] at run
          cases extracted : bdk.extractTx submitted with
          | error text =>
              simp only [extracted] at run
              cases run
          | ok tx =>
              simp only [extracted] at run
              cases run
              exact ⟨submitted, tx, rfl, rfl, Or.inl ⟨finalised, extracted⟩⟩
      | false =>
          simp only [finalised, Bool.false_eq_true, if_false] at run
          cases parsedOriginal : bdk.parsePsbt originalText with
          | error text =>
              simp only [parsedOriginal] at run
              cases run
          | ok original =>
              simp only [parsedOriginal, acceptCombined] at run
              cases combined : bdk.combine original submitted with
              | error text =>
                  simp only [combined] at run
                  cases run
              | ok merged =>
                  simp only [combined] at run
                  cases final : bdk.finalize merged with
                  | error text =>
                      simp only [final] at run
                      cases run
                  | ok result =>
                      simp only [final] at run
                      split at run
                      · cases run
                      · cases extracted : bdk.extractTx result.psbt with
                        | error text =>
                            simp only [extracted] at run
                            cases run
                        | ok tx =>
                            simp only [extracted] at run
                            cases run
                            exact ⟨submitted, tx, rfl, rfl, Or.inr ⟨finalised, original, merged,
                              result, rfl, combined, final, extracted⟩⟩

/-- A finalised PSBT is accepted without a look at what was approved. -/
theorem submit_of_finalised {db : Database} {requestId : Uuid} {request : PaymentRequestRow}
    (found : db.paymentRequests.get? requestId = some request)
    (awaits : request.status = .awaitingSignature) {original psbtBase64 : String}
    (stored : request.psbtBase64 = some original) {submitted : Psbt} {tx : Tx}
    (parsed : bdk.parsePsbt psbtBase64 = .ok submitted)
    (finalised : isPsbtFinalized bdk submitted = true)
    (extracted : bdk.extractTx submitted = .ok tx) (signedTransactionHex : Option String)
    (now : Timestamp) :
    submitSignedPaymentRequest bdk db requestId (some psbtBase64) signedTransactionHex now =
      .ok (PaymentRequestRepo.markSigned db requestId (bdk.serializeTx tx) (some psbtBase64)
        now) := by
  have here : requestOf db requestId = .ok request := by
    rw [requestOf, found]
  have accepted : acceptPsbt bdk original psbtBase64 = .ok (bdk.serializeTx tx, psbtBase64) := by
    simp only [acceptPsbt, parsed, finalised, if_true, acceptFinalized, extracted]
  simp only [submitSignedPaymentRequest, here, awaits, stored, accepted, bind, Except.bind, ne_eq,
    not_true_eq_false, if_false]
  rfl

/-- On either route an accepted PSBT has the unsigned transaction that was approved, and the stored
    transaction spends and pays the same. -/
theorem BdkLaws.accepted_transfer (laws : BdkLaws bdk unsigned body) {originalText : String}
    {psbtBase64 hex stored : String} {original submitted : Psbt}
    (accepted : acceptPsbt bdk originalText psbtBase64 = .ok (hex, stored))
    (parsedOriginal : bdk.parsePsbt originalText = .ok original)
    (parsed : bdk.parsePsbt psbtBase64 = .ok submitted)
    (approved : isPsbtFinalized bdk submitted = true → ∀ tx, bdk.extractTx submitted = .ok tx →
      unsigned submitted = unsigned original) :
    unsigned submitted = unsigned original ∧
      ∃ tx, bdk.parseTx hex = .ok tx ∧ (body tx).transfer = (unsigned original).transfer := by
  obtain ⟨other, tx, parsedOther, rfl, route⟩ := acceptPsbt_ok accepted
  have same : other = submitted := Except.ok.inj (parsedOther.symm.trans parsed)
  subst same
  rcases route with ⟨finalised, extracted⟩ | ⟨-, base, merged, result, parsedBase, combined, final,
    extracted⟩
  · have equal := approved finalised tx extracted
    refine ⟨equal, tx, laws.parse_serialize tx, ?_⟩
    rw [laws.extract_keeps other tx extracted, equal]
  · have sameBase : base = original := Except.ok.inj (parsedBase.symm.trans parsedOriginal)
    subst sameBase
    have equal : unsigned base = unsigned other := by
      by_contra differ
      obtain ⟨text, fails⟩ := (laws.combine_fails_iff base other).mpr differ
      rw [combined] at fails
      cases fails
    refine ⟨equal.symm, tx, laws.parse_serialize tx, ?_⟩
    calc (body tx).transfer = (unsigned result.psbt).transfer :=
          laws.extract_keeps result.psbt tx extracted
      _ = (unsigned merged).transfer := laws.finalize_keeps merged result final
      _ = (unsigned base).transfer := by rw [laws.combine_keeps base other merged combined]

/-- What an accepted submission had to show, where a finalised PSBT is the approved one: its unsigned
    transaction is the approved one, and the stored transaction spends and pays the same. -/
theorem submitted_of_ok (laws : BdkLaws bdk unsigned body) {db db' : Database}
    {approvals : Approvals} (invariant : ApprovalInvariant bdk chain (db, approvals))
    {requestId : Uuid} {psbtBase64 : String} {signedTransactionHex : Option String}
    {now : Timestamp} (finalisedIsApproved :
      FinalisedIsApproved bdk unsigned db approvals requestId psbtBase64)
    (run : submitSignedPaymentRequest bdk db requestId (some psbtBase64) signedTransactionHex now =
      .ok db') :
    ∃ original submitted hex storedPsbt request tx,
      ApprovedPsbt bdk approvals requestId original ∧
        bdk.parsePsbt psbtBase64 = .ok submitted ∧ unsigned submitted = unsigned original ∧
        db.paymentRequests.get? requestId = some request ∧
        db' = PaymentRequestRepo.markSigned db requestId hex storedPsbt now ∧
        bdk.parseTx hex = .ok tx ∧ (body tx).transfer = (unsigned original).transfer := by
  obtain ⟨request, originalText, hex, storedPsbt, found, awaits, stored, same, accepts, -⟩ :=
    submitSignedPaymentRequest_ok run
  obtain ⟨stored', -, accepted⟩ := accepts psbtBase64 rfl
  have holds := invariant.approved requestId request found
  have noted := (holds.stored awaits).symm.trans stored
  obtain ⟨psbtOrder, text, built, approvedText⟩ := holds.built
  obtain ⟨original, parsedOriginal⟩ := laws.parse_built psbtOrder text built
  have approved : ApprovedPsbt bdk approvals requestId original :=
    ⟨text, approvedText, parsedOriginal⟩
  have sameText : text = originalText := Option.some.inj (approvedText.symm.trans noted)
  rw [sameText] at parsedOriginal
  obtain ⟨submitted, tx, parsed, -, -⟩ := acceptPsbt_ok accepted
  obtain ⟨equal, tx', parsedTx, transfers⟩ := laws.accepted_transfer accepted parsedOriginal
    parsed fun finalised tx extracted =>
      finalisedIsApproved request original submitted tx found awaits approved parsed finalised
        extracted
  exact ⟨original, submitted, hex, storedPsbt, request, tx', approved, parsed, equal, found, same,
    parsedTx, transfers⟩

/-- In every reachable state and for every submission of a PSBT, what is stored spends and pays what
    was approved, and another transaction is rejected, exactly when the submission is no finalised
    PSBT of another transaction for a request that awaits its signature. -/
theorem submissionRight_iff (laws : BdkLaws bdk unsigned body) {db : Database}
    {approvals : Approvals} (reached : ApprovalReached bdk chain (db, approvals))
    (requestId : Uuid) (psbtBase64 : String) (signedTransactionHex : Option String)
    (now : Timestamp) :
    SubmissionRight bdk unsigned body db approvals requestId psbtBase64 signedTransactionHex now ↔
      FinalisedIsApproved bdk unsigned db approvals requestId psbtBase64 := by
  have invariant := approvalInvariant_of_reached reached
  constructor
  · intro right request original submitted tx found awaits approved parsed finalised extracted
    by_contra differ
    obtain ⟨⟨error, fails⟩, -⟩ := right.rejected original submitted approved parsed differ
    have holds := invariant.approved requestId request found
    obtain ⟨text, noted, -⟩ := approved
    have stored := (holds.stored awaits).trans noted
    rw [submit_of_finalised found awaits stored parsed finalised extracted] at fails
    cases fails
  · intro finalisedIsApproved
    refine ⟨?_, ?_⟩
    · intro db' run
      obtain ⟨original, submitted, hex, storedPsbt, request, tx, approved, -, -, found, rfl,
        parsedTx, transfers⟩ := submitted_of_ok laws invariant finalisedIsApproved run
      refine ⟨original, request.signed hex storedPsbt now, hex, tx, approved, ?_, rfl, parsedTx,
        transfers⟩
      rw [PaymentRequestRepo.markSigned, PaymentRequestRepo.modify, Table.get?_update, if_pos rfl,
        found, Option.map_some]
    · intro original submitted approved parsed differ
      cases run : submitSignedPaymentRequest bdk db requestId (some psbtBase64)
          signedTransactionHex now with
      | error error =>
          refine ⟨⟨error, rfl⟩, ?_⟩
          rw [step, perform, run]
          rfl
      | ok db' =>
          obtain ⟨original', submitted', _, _, _, _, approved', parsed', equal, -⟩ :=
            submitted_of_ok laws invariant finalisedIsApproved run
          have sameOriginal := approved.unique approved'
          have sameSubmitted : submitted = submitted' :=
            Except.ok.inj (parsed.symm.trans parsed')
          rw [sameOriginal, sameSubmitted] at differ
          exact absurd equal differ

end Routes

/-! ### The sample library -/

/-- The sample transfer as an unsigned transaction. -/
def transferUnsigned : UnsignedTransaction :=
  ⟨2, 0, [⟨⟨.repeated 'a', 0⟩, 0⟩], [⟨"bcrt1qb", 60000⟩, ⟨"bcrt1qa", 30000⟩]⟩

/-- The sample texts as unsigned transactions: a foreign one pays somebody else. -/
def sampleUnsigned (text : String) : UnsignedTransaction :=
  if isForeign text then { transferUnsigned with outputs := [⟨"bcrt1qx", 90000⟩] }
  else transferUnsigned

theorem sampleUnsigned_eq_iff (first second : String) :
    sampleUnsigned first = sampleUnsigned second ↔ isForeign first = isForeign second := by
  simp only [sampleUnsigned]
  cases isForeign first <;> cases isForeign second <;> decide

theorem sampleBdk_laws : BdkLaws sampleBdk sampleUnsigned sampleUnsigned where
  combine_fails_iff original submitted := by
    rw [Ne, sampleUnsigned_eq_iff]
    simp only [sampleBdk]
    split
    · rename_i same
      exact iff_of_false (fun ⟨_, fails⟩ => by cases fails) (not_not_intro same)
    · rename_i differ
      exact iff_of_true ⟨_, rfl⟩ differ
  combine_keeps original submitted merged combined := by
    simp only [sampleBdk] at combined
    split at combined
    · cases combined
      rfl
    · cases combined
  finalize_keeps psbt result final := by
    cases final
    apply congrArg UnsignedTransaction.transfer
    apply (sampleUnsigned_eq_iff _ _).mpr
    cases foreign : isForeign psbt <;> decide
  extract_keeps psbt tx extracted := by
    cases extracted
    rfl
  parse_serialize tx := rfl
  parse_built psbtOrder text built := ⟨text, rfl⟩

/-- Where the request of the sample transfer awaits its signature. -/
def transferAwaiting : Database := (transferOrdered 10 20).foldl (step sampleBdk) Database.empty

theorem transferAwaiting_reached : Reached sampleBdk sampleChain transferAwaiting := by
  apply reached_of_legal
  simp only [transferOrdered, fundingOperations, setupOperations, List.cons_append,
    List.nil_append, List.forall_mem_cons, List.not_mem_nil, false_implies, implies_true, Legal,
    and_true, true_and]
  exact sampleChain_payment

/-- The sample library reads every approved PSBT as the transfer. -/
theorem sampleUnsigned_approved {db : Database} {approvals : Approvals}
    (reached : ApprovalReached sampleBdk sampleChain (db, approvals)) {requestId : Uuid}
    {request : PaymentRequestRow} (found : db.paymentRequests.get? requestId = some request) :
    ApprovedPsbt sampleBdk approvals requestId "unsigned" := by
  obtain ⟨psbtOrder, text, built, noted⟩ :=
    ((approvalInvariant_of_reached reached).approved requestId request found).built
  cases built
  exact ⟨"unsigned", noted, rfl⟩

/-- The finalised transfer is accepted. -/
theorem submissionRight_iff_finalised :
    ∃ approvals, ApprovalReached sampleBdk sampleChain (transferAwaiting, approvals) ∧
      SubmissionRight sampleBdk sampleUnsigned sampleUnsigned transferAwaiting approvals 1
        "finalised" none 2 := by
  obtain ⟨approvals, reached⟩ := exists_approvals transferAwaiting_reached
  refine ⟨approvals, reached, ?_⟩
  apply (submissionRight_iff sampleBdk_laws reached 1 "finalised" none 2).mpr
  intro request original submitted tx found _ approved parsed _ _
  rw [approved.unique (sampleUnsigned_approved reached found)]
  cases parsed
  exact (sampleUnsigned_eq_iff _ _).mpr (by decide)

/-- So is a finalised PSBT that pays somebody else. -/
theorem not_submissionRight_of_foreign :
    ∃ approvals, ApprovalReached sampleBdk sampleChain (transferAwaiting, approvals) ∧
      BdkLaws sampleBdk sampleUnsigned sampleUnsigned ∧
      ¬SubmissionRight sampleBdk sampleUnsigned sampleUnsigned transferAwaiting approvals 1
        "foreign finalised" none 2 := by
  obtain ⟨approvals, reached⟩ := exists_approvals transferAwaiting_reached
  refine ⟨approvals, reached, sampleBdk_laws, ?_⟩
  intro right
  have there : (transferAwaiting.paymentRequests.get? 1).isSome := by decide +kernel
  obtain ⟨request, found⟩ := Option.isSome_iff_exists.mp there
  have differ : sampleUnsigned "foreign finalised" ≠ sampleUnsigned "unsigned" := by decide
  obtain ⟨⟨error, fails⟩, -⟩ := right.rejected "unsigned" "foreign finalised"
    (sampleUnsigned_approved reached found) rfl differ
  have accepted : (submitSignedPaymentRequest sampleBdk transferAwaiting 1
      (some "foreign finalised") none 2).isOk = true := by decide +kernel
  rw [fails] at accepted
  cases accepted

end TallyKeep
