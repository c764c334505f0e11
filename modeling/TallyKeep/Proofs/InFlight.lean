/-
Module: TallyKeep.Proofs.InFlight
Layer: Proofs
Purpose: When concurrent calls of `build_payment_request` leave at most one request in flight for
  every holding, so that no two requests spend the same coin.
Trusted boundary: none
Main exports: OneInFlight, InputsApart, KeepsApart, InFlightInvariant, oneInFlight_of_run,
  interleave_sequential
-/
import TallyKeep.Interleaving
import TallyKeep.Proofs.CoinOwners
import TallyKeep.Proofs.SpendableInputs

namespace TallyKeep

open Relational Transition

/-- The committed request is in flight for the holding. -/
def InFlightFor (db : Database) (holdingId requestId : Uuid) : Prop :=
  ∃ row, db.paymentRequests.get? requestId = some row ∧ row.holdingId = holdingId ∧
    row.status.InFlight

/-- A request is in flight for a holding by what its row says. -/
theorem inFlightFor_iff {db : Database} {holdingId requestId : Uuid} :
    InFlightFor db holdingId requestId ↔
      ∃ row ∈ db.paymentRequests.get? requestId, row.holdingId = holdingId ∧ row.status.InFlight :=
  Iff.rfl

instance (db : Database) (holdingId requestId : Uuid) :
    Decidable (InFlightFor db holdingId requestId) :=
  decidable_of_iff _ inFlightFor_iff.symm

instance (db : Database) (outpoint : Outpoint) (holdingId : Uuid) :
    Decidable (Owned db outpoint holdingId) :=
  inferInstanceAs (Decidable (∃ row ∈ db.coinAt outpoint,
    db.holdingOf row.descriptorId = some holdingId))

/-- Every holding has at most one committed request in flight. -/
def OneInFlight (db : Database) : Prop :=
  ∀ holdingId first second, InFlightFor db holdingId first → InFlightFor db holdingId second →
    first = second

/-- No two committed requests in flight spend the same coin. -/
def InputsApart (library : WalletLibrary) (db : Database) : Prop :=
  ∀ first second one two, db.paymentRequests.get? first = some one → one.status.InFlight →
    db.paymentRequests.get? second = some two → two.status.InFlight → first ≠ second →
      (one.psbtInputs library).Disjoint (two.psbtInputs library)

/-- A call that commits has not been overtaken: no request of its holding that was committed since
    its check is still in flight. -/
def NotOvertaken (s : BuildState) : BuildLabel → Prop
  | .commit call => ∀ holdingId, (s.calls call).holdingId = some holdingId →
      ∀ requestId ∈ s.overtaking call, ¬InFlightFor s.db holdingId requestId
  | _ => True

variable {Psbt Tx : Type}

/-- The coins of the wallet that a call opens when it builds. -/
def openedWallet (bdk : Bdk Psbt Tx) (library : WalletLibrary) (s : BuildState) (call : Nat)
    (node : PaymentNode) : List WalletCoin :=
  match s.calls call with
  | .checked order =>
      match psbtOffered bdk node s.db order with
      | .error _ => []
      | .ok psbtOrder =>
          match openWallet library psbtOrder with
          | .error _ => []
          | .ok (coins, _) => coins
  | _ => []

/-- Every coin of the wallet that a call opens is recorded for the holding of the call, and so is
    every input of a PSBT that is stored at a submission. -/
def SpendsOwn (bdk : Bdk Psbt Tx) (library : WalletLibrary) (s : BuildState) : BuildLabel → Prop
  | .build call node _ _ => ∀ holdingId, (s.calls call).holdingId = some holdingId →
      ∀ coin ∈ openedWallet bdk library s call node, Owned s.db coin.outpoint holdingId
  | .other operation => ∀ requestId row, s.db.paymentRequests.get? requestId = some row →
      ∀ stored, operation.Submits bdk row (some stored) →
        ∀ outpoint ∈ library.psbtInputs stored, Owned s.db outpoint row.holdingId
  | _ => True

/-- The steps at which the requests in flight stay apart. -/
def KeepsApart (bdk : Bdk Psbt Tx) (library : WalletLibrary) (s : BuildState)
    (label : BuildLabel) : Prop :=
  NotOvertaken s label ∧ SpendsOwn bdk library s label

/-! ### Requests in flight under one operation -/

/-- What can still be cancelled is in flight. -/
theorem PaymentStatus.Cancellable.inFlight {status : PaymentStatus}
    (allowed : status.Cancellable) : status.InFlight := by
  rcases allowed with rfl | rfl | rfl <;> decide

variable {bdk : Bdk Psbt Tx}

/-- A request that an operation has left: it is of the holding it was of and has not come back into
    flight, and its PSBT is the one it had or the one that was submitted for it. -/
structure RequestKept (bdk : Bdk Psbt Tx) (operation : Operation) (before after : PaymentRequestRow) :
    Prop where
  holding : after.holdingId = before.holdingId
  flying : after.status.InFlight → before.status.InFlight
  psbt : after.psbtBase64 = before.psbtBase64 ∨
    ∃ stored, operation.Submits bdk before (some stored) ∧ after.psbtBase64 = some stored

/-- The wallet has no part in what is submitted. -/
theorem Operation.submits_withWallet {library : WalletLibrary} {builder : TxBuilder}
    {operation : Operation} {row : PaymentRequestRow} {stored : Option String} :
    operation.Submits (bdk.withWallet library builder) row stored ↔
      operation.Submits bdk row stored := by
  cases operation <;> rfl

/-- A request that is there after an operation that builds none was there before. -/
theorem RequestChange.origin {operation : Operation} {before : Option PaymentRequestRow}
    {after : PaymentRequestRow} (change : RequestChange bdk operation before (some after))
    (builds : ¬operation.Builds) :
    ∃ row, before = some row ∧ RequestKept bdk operation row after := by
  cases change with
  | moved move =>
      cases move with
      | kept => exact ⟨after, rfl, rfl, id, .inl rfl⟩
      | attributed row executionId => exact ⟨row, rfl, rfl, id, .inl rfl⟩
      | @signed row awaits signedTransactionHex psbtBase64 now submits =>
          refine ⟨row, rfl, rfl, fun _ => ?_, ?_⟩
          · rw [awaits]
            decide
          · cases psbtBase64 with
            | none => exact .inl rfl
            | some stored => exact .inr ⟨stored, submits, rfl⟩
      | @sent row awaits broadcastTxid now =>
          refine ⟨row, rfl, rfl, fun _ => ?_, .inl rfl⟩
          rw [awaits]
          decide
      | @confirmed row waits resultingLedgerEntryId now =>
          refine ⟨row, rfl, rfl, fun _ => ?_, .inl rfl⟩
          rw [waits]
          decide
      | @cancelled row allowed now => exact ⟨row, rfl, rfl, fun _ => allowed.inFlight, .inl rfl⟩
  | built itBuilds _ => exact absurd itBuilds builds
  | deleted _ gone =>
      cases gone with
      | forgotten row executionIds entryIds => exact ⟨row, rfl, rfl, id, .inl rfl⟩

/-- An operation that builds nothing puts no request in flight. -/
theorem inFlightFor_of_step {db : Database} (wellFormed : ChainWellFormed db)
    {operation : Operation} (builds : ¬operation.Builds) {holdingId requestId : Uuid}
    (inFlight : InFlightFor (step bdk db operation) holdingId requestId) :
    InFlightFor db holdingId requestId := by
  obtain ⟨after, found, rfl, flying⟩ := inFlight
  have change := requestChange_of_step bdk wellFormed operation requestId
  rw [found] at change
  obtain ⟨row, before, kept⟩ := change.origin builds
  exact ⟨row, before, kept.holding.symm, kept.flying flying⟩

/-- No request of a deleted holding is left. -/
theorem holdingId_of_deletionResult {db : Database} {deleted : Uuid} {policyIds : List Uuid}
    {requestId : Uuid} {row : PaymentRequestRow}
    (found : (deletionResult db deleted policyIds).paymentRequests.get? requestId = some row) :
    row.holdingId ≠ deleted := by
  simp only [deletionResult] at found
  rw [Table.get?_updateAll, Table.get?_delete] at found
  obtain ⟨before, kept, rfl⟩ := Option.map_eq_some_iff.mp found
  obtain ⟨-, other⟩ := Option.filter_eq_some_iff.mp kept
  simpa [PaymentRequestRow.forget] using other

/-- A deleted holding is gone. -/
theorem holding_deletionResult (db : Database) (deleted : Uuid) (policyIds : List Uuid) :
    (deletionResult db deleted policyIds).holdings.get? deleted = none := by
  simp only [deletionResult, Table.get?_delete]
  cases found : db.holdings.get? deleted with
  | none => rfl
  | some row =>
      have sameId : row.id = deleted := Table.key_of_get? found
      rw [Option.filter_some, sameId, decide_eq_true rfl]
      rfl

/-! ### What a call reads -/

/-- An admitted call finds no request of its holding in flight. -/
theorem not_inFlightFor_of_admitted {db : Database} {order : PaymentOrder}
    (admitted : admitPayment db order = .ok .admitted) (requestId : Uuid) :
    ¬InFlightFor db order.holdingId requestId := by
  rintro ⟨row, found, sameHolding, flying⟩
  have idle := admitPayment_admitted admitted
  rw [PaymentRequestRepo.hasInFlightForHolding, List.any_eq_false] at idle
  apply idle row (Table.mem_of_get? found)
  rw [sameHolding, decide_eq_true rfl, decide_eq_true flying]
  rfl

/-- A request that a call composes spends coins of the wallet that was opened for it. -/
theorem composePayment_withWallet_ok {library : WalletLibrary} {builder : TxBuilder}
    (lawful : builder.Lawful) {node : PaymentNode} {db : Database} {order : PaymentOrder}
    {requestId : Uuid} {now : Timestamp} {request : PaymentRequestRow}
    (composed : composePayment (bdk.withWallet library builder) node db order requestId now =
      .ok request) :
    request.holdingId = order.holdingId ∧
      ∃ psbtOrder coins builderOrder, psbtOffered bdk node db order = .ok psbtOrder ∧
        openWallet library psbtOrder = .ok (coins, builderOrder) ∧
        request.psbtInputs library ⊆ coins.map WalletCoin.outpoint := by
  rw [composePayment_eq, bind_ok_iff] at composed
  obtain ⟨psbtOrder, offered, composed⟩ := composed
  split at composed
  · cases composed
  · rename_i psbtBase64 built
    obtain ⟨coins, builderOrder, selected, opened, selection, rfl⟩ := buildPsbt_ok_iff.mp built
    obtain ⟨-, rfl⟩ := request_postInit_ok_iff.mp composed
    refine ⟨rfl, psbtOrder, coins, builderOrder, offered, opened, ?_⟩
    have inputs : (order.request requestId (library.serialize
        ⟨selected.map WalletCoin.outpoint, builderOrder⟩) now).psbtInputs library =
          selected.map WalletCoin.outpoint := library.psbtInputs_serialize _
    rw [inputs]
    exact List.map_subset _ (lawful coins builderOrder selected selection).1.subset

/-! ### The invariant -/

/-- The request a call is about to commit. -/
def BuildPhase.pending : BuildPhase → Option PaymentRequestRow
  | .built request => some request
  | .inserted request => some request
  | _ => none

/-- A pending request is one of the holding of its call. -/
theorem BuildPhase.holdingId_of_pending {phase : BuildPhase} {request : PaymentRequestRow}
    (waits : phase.pending = some request) : phase.holdingId = some request.holdingId := by
  cases phase with
  | built other => exact congrArg (Option.map PaymentRequestRow.holdingId) waits
  | inserted other => exact congrArg (Option.map PaymentRequestRow.holdingId) waits
  | _ => cases waits

/-- One request in flight for every holding; what is in flight for the holding of a call was
    committed since its check; the inputs of requests, committed or about to be, belong to their
    holdings. -/
structure InFlightInvariant (chain : Chain) (library : WalletLibrary) (s : BuildState) : Prop where
  sound : Sound chain s.db
  one : OneInFlight s.db
  since : ∀ call holdingId, (s.calls call).holdingId = some holdingId → ∀ requestId,
    InFlightFor s.db holdingId requestId → requestId ∈ s.overtaking call
  owned : ∀ requestId row, s.db.paymentRequests.get? requestId = some row →
    ∀ outpoint ∈ row.psbtInputs library, Owned s.db outpoint row.holdingId
  pending : ∀ call request, (s.calls call).pending = some request →
    (s.db.holdings.get? request.holdingId).isSome → ∀ outpoint ∈ request.psbtInputs library,
      Owned s.db outpoint request.holdingId

namespace InFlightInvariant

variable {chain : Chain} {library : WalletLibrary} {s : BuildState}

/-- The invariant holds before the first operation. -/
theorem initial (chain : Chain) (library : WalletLibrary) :
    InFlightInvariant chain library BuildState.initial := by
  refine ⟨.ofEmpty chain, ?_, ?_, ?_, ?_⟩
  · rintro holdingId first second ⟨row, found, -⟩
    cases found
  · intro call holdingId calling
    cases calling
  · intro requestId row found
    cases found
  · intro call request waits
    cases waits

/-- A call that moves on within its holding keeps the invariant. -/
theorem of_advance (holds : InFlightInvariant chain library s) {call : Nat} {phase : BuildPhase}
    (sameHolding : ∀ holdingId, phase.holdingId = some holdingId →
      (s.calls call).holdingId = some holdingId)
    (ownedInputs : ∀ request, phase.pending = some request →
      (s.db.holdings.get? request.holdingId).isSome → ∀ outpoint ∈ request.psbtInputs library,
        Owned s.db outpoint request.holdingId) :
    InFlightInvariant chain library (s.advance call phase) := by
  refine ⟨holds.sound, holds.one, ?_, holds.owned, ?_⟩
  · intro calling holdingId isFor
    simp only [BuildState.advance, Function.update_apply] at isFor
    split at isFor
    · rename_i same
      rw [same]
      exact holds.since call holdingId (sameHolding holdingId isFor)
    · exact holds.since calling holdingId isFor
  · intro calling request waits
    simp only [BuildState.advance, Function.update_apply] at waits
    split at waits
    · exact ownedInputs request waits
    · exact holds.pending calling request waits

/-- A call that ends keeps the invariant. -/
theorem of_idle (holds : InFlightInvariant chain library s) (call : Nat) :
    InFlightInvariant chain library (s.advance call .idle) := by
  apply holds.of_advance
  · intro holdingId same
    cases same
  · intro request waits
    cases waits

/-- The check for a request in flight keeps the invariant. -/
theorem of_checkInFlight (holds : InFlightInvariant chain library s) (call : Nat)
    (order : PaymentOrder) : InFlightInvariant chain library (checkInFlight s call order) := by
  rw [checkInFlight]
  split
  · rename_i admitted
    refine ⟨holds.sound, holds.one, ?_, holds.owned, ?_⟩
    · intro calling holdingId isFor requestId inFlight
      simp only [BuildState.advance, Function.update_apply] at isFor ⊢
      split at isFor
      · cases isFor
        exact absurd inFlight (not_inFlightFor_of_admitted admitted requestId)
      · rename_i apart
        rw [if_neg apart]
        exact holds.since calling holdingId isFor requestId inFlight
    · intro calling request waits
      simp only [BuildState.advance, Function.update_apply] at waits
      split at waits
      · cases waits
      · exact holds.pending calling request waits
  · exact holds

/-- A call whose wallet has coins of its holding only composes a request that spends such coins. -/
theorem of_buildRequest (holds : InFlightInvariant chain library s) {builder : TxBuilder}
    (lawful : builder.Lawful) {call : Nat} {order : PaymentOrder}
    (calling : s.calls call = .checked order) {node : PaymentNode} {requestId : Uuid}
    {now : Timestamp} (spendsOwn : SpendsOwn bdk library s (.build call node requestId now)) :
    InFlightInvariant chain library
      (buildRequest (bdk.withWallet library builder) s call node order requestId now) := by
  rw [buildRequest]
  split
  · exact holds.of_idle call
  · rename_i request composed
    obtain ⟨ofHolding, psbtOrder, coins, builderOrder, offered, opened, within⟩ :=
      composePayment_withWallet_ok lawful composed
    apply holds.of_advance
    · intro holdingId same
      rw [calling]
      exact (congrArg some ofHolding).symm.trans same
    · intro pending waits _ outpoint member
      cases waits
      obtain ⟨coin, inWallet, rfl⟩ := List.mem_map.mp (within member)
      have wallet : openedWallet bdk library s call node = coins := by
        simp only [openedWallet, calling, offered, opened]
      rw [← wallet] at inWallet
      rw [ofHolding]
      exact spendsOwn order.holdingId (by rw [calling]; rfl) coin inWallet

/-- A committed request is the only one that is new. -/
theorem get?_insert_request {db : Database} {request : PaymentRequestRow}
    (fresh : db.paymentRequests.get? request.id = none) (requestId : Uuid) :
    (PaymentRequestRepo.insert db request).paymentRequests.get? requestId =
      if requestId = request.id then some request else db.paymentRequests.get? requestId := by
  rw [PaymentRequestRepo.insert, Table.get?_insert_of_fresh fresh]
  rfl

/-- What is in flight after a commit is the committed request or was in flight before. -/
theorem inFlightFor_of_insert {db : Database} {request : PaymentRequestRow}
    (fresh : db.paymentRequests.get? request.id = none) {holdingId requestId : Uuid}
    (inFlight : InFlightFor (PaymentRequestRepo.insert db request) holdingId requestId) :
    requestId = request.id ∧ holdingId = request.holdingId ∨
      InFlightFor db holdingId requestId := by
  obtain ⟨row, found, sameHolding, flying⟩ := inFlight
  rw [get?_insert_request fresh] at found
  split at found
  · rename_i same
    cases found
    exact .inl ⟨same, sameHolding.symm⟩
  · exact .inr ⟨row, found, sameHolding, flying⟩

/-- When a commit is not overtaken, nothing is in flight for its holding before it. -/
theorem not_inFlightFor_of_notOvertaken (holds : InFlightInvariant chain library s) {call : Nat}
    {request : PaymentRequestRow} (calling : s.calls call = .inserted request)
    (notOvertaken : NotOvertaken s (.commit call)) (requestId : Uuid) :
    ¬InFlightFor s.db request.holdingId requestId := by
  intro inFlight
  have ownHolding : (s.calls call).holdingId = some request.holdingId := by
    rw [calling]
    rfl
  have overtaking := holds.since call _ ownHolding requestId inFlight
  exact notOvertaken _ ownHolding requestId overtaking inFlight

/-- A commit that is not overtaken leaves its request as the only one in flight for its holding. -/
theorem of_commitRequest (holds : InFlightInvariant chain library s) {call : Nat}
    {request : PaymentRequestRow} (calling : s.calls call = .inserted request)
    (notOvertaken : NotOvertaken s (.commit call)) :
    InFlightInvariant chain library (commitRequest s call request) := by
  have idle := holds.not_inFlightFor_of_notOvertaken calling notOvertaken
  rw [commitRequest]
  split
  · rename_i accepted
    obtain ⟨held, fresh⟩ := accepted
    have owners : OwnersKept s.db (PaymentRequestRepo.insert s.db request) := .of_tables rfl rfl
    refine
      { sound := holds.sound.of_tables rfl rfl rfl rfl rfl
        one := ?one, since := ?since, owned := ?owned, pending := ?pending }
    case one =>
      intro holdingId first second one two
      rcases inFlightFor_of_insert fresh one with ⟨rfl, rfl⟩ | one
      · rcases inFlightFor_of_insert fresh two with ⟨rfl, -⟩ | two
        · rfl
        · exact absurd two (idle second)
      · rcases inFlightFor_of_insert fresh two with ⟨rfl, rfl⟩ | two
        · exact absurd one (idle first)
        · exact holds.one holdingId first second one two
    case since =>
      intro waiting holdingId isFor requestId inFlight
      simp only [Function.update_apply] at isFor
      rcases inFlightFor_of_insert fresh inFlight with ⟨rfl, -⟩ | earlier
      · exact List.mem_cons_self
      · split at isFor
        · cases isFor
        · exact List.mem_cons_of_mem _ (holds.since waiting holdingId isFor requestId earlier)
    case owned =>
      intro requestId row found outpoint member
      rw [get?_insert_request fresh] at found
      apply owners.owned
      split at found
      · cases found
        refine holds.pending call request ?_ held outpoint member
        rw [calling]
        rfl
      · exact holds.owned requestId row found outpoint member
    case pending =>
      intro waiting pending waits pendingHeld outpoint member
      simp only [Function.update_apply] at waits
      split at waits
      · cases waits
      · exact owners.owned (holds.pending waiting pending waits pendingHeld outpoint member)
  · exact holds.of_idle call

/-- The inputs of a request that an operation has left were its holding's before. -/
theorem owned_of_kept (holds : InFlightInvariant chain library s) {operation : Operation}
    (spendsOwn : SpendsOwn bdk library s (.other operation)) {builder : TxBuilder}
    {requestId : Uuid} {row after : PaymentRequestRow}
    (before : s.db.paymentRequests.get? requestId = some row)
    (kept : RequestKept (bdk.withWallet library builder) operation row after) :
    ∀ outpoint ∈ after.psbtInputs library, Owned s.db outpoint after.holdingId := by
  intro outpoint member
  rw [kept.holding]
  rcases kept.psbt with same | ⟨stored, submits, same⟩
  · rw [PaymentRequestRow.psbtInputs, same] at member
    exact holds.owned requestId row before outpoint member
  · rw [PaymentRequestRow.psbtInputs, same] at member
    exact spendsOwn requestId row before stored (Operation.submits_withWallet.mp submits) outpoint
      member

/-- Another operation of the program keeps the invariant. -/
theorem of_operation (holds : InFlightInvariant chain library s) {builder : TxBuilder}
    {operation : Operation} (legal : Legal chain operation) (builds : ¬operation.Builds)
    (newHolding : ∀ row, operation = .registerHolding row →
      ∀ call, (s.calls call).holdingId ≠ some row.id)
    (spendsOwn : SpendsOwn bdk library s (.other operation)) :
    InFlightInvariant chain library
      { s with db := step (bdk.withWallet library builder) s.db operation } := by
  have wellFormed := holds.sound.wellFormed
  refine
    { sound := sound_step s.db operation _ holds.sound ⟨legal, rfl⟩
      one := ?one, since := ?since, owned := ?owned, pending := ?pending }
  case one =>
    intro holdingId first second one two
    exact holds.one holdingId first second (inFlightFor_of_step wellFormed builds one)
      (inFlightFor_of_step wellFormed builds two)
  case since =>
    intro call holdingId calling requestId inFlight
    exact holds.since call holdingId calling requestId
      (inFlightFor_of_step wellFormed builds inFlight)
  case owned =>
    intro requestId after found outpoint member
    have change :=
      requestChange_of_step (bdk.withWallet library builder) wellFormed operation requestId
    simp only at found
    rw [found] at change
    obtain ⟨row, before, kept⟩ := change.origin builds
    have owned := holds.owned_of_kept spendsOwn before kept outpoint member
    rcases owned_of_step (bdk.withWallet library builder) wellFormed operation owned with
      stays | ⟨policyIds, gone⟩
    · exact stays
    · rw [gone] at found
      exact absurd rfl (holdingId_of_deletionResult found)
  case pending =>
    intro call request waits held outpoint member
    have calling := BuildPhase.holdingId_of_pending waits
    have heldBefore : (s.db.holdings.get? request.holdingId).isSome := by
      rcases holding_of_step (bdk.withWallet library builder) wellFormed operation held with
        before | ⟨row, same, sameId⟩
      · exact before
      · rw [← sameId] at calling
        exact absurd calling (newHolding row same call)
    have owned := holds.pending call request waits heldBefore outpoint member
    rcases owned_of_step (bdk.withWallet library builder) wellFormed operation owned with
      stays | ⟨policyIds, gone⟩
    · exact stays
    · simp only [gone, holding_deletionResult] at held
      cases held

/-- Every step that keeps the requests apart keeps the invariant. -/
theorem step (holds : InFlightInvariant chain library s) {builder : TxBuilder}
    (lawful : builder.Lawful) {label : BuildLabel} {s' : BuildState}
    (taken : BuildStep (bdk.withWallet library builder) chain s label s')
    (apart : KeepsApart bdk library s label) : InFlightInvariant chain library s' := by
  obtain ⟨legal, rfl⟩ := taken
  obtain ⟨notOvertaken, spendsOwn⟩ := apart
  cases label with
  | check call order =>
      rw [interleave]
      split
      · exact holds.of_checkInFlight call order
      · exact holds
  | build call node requestId now =>
      rw [interleave]
      split
      · rename_i order calling
        exact holds.of_buildRequest lawful calling spendsOwn
      · exact holds
  | insert call =>
      rw [interleave]
      split
      · rename_i request calling
        apply holds.of_advance
        · intro holdingId same
          rw [calling]
          exact same
        · intro pending waits
          refine holds.pending call pending ?_
          rw [calling]
          exact waits
      · exact holds
  | commit call =>
      rw [interleave]
      split
      · rename_i request calling
        exact holds.of_commitRequest calling notOvertaken
      · exact holds
  | other operation =>
      obtain ⟨legalOperation, restricted⟩ := legal
      refine holds.of_operation legalOperation ?_ ?_ spendsOwn
      · intro builds
        cases operation with
        | buildPaymentRequest node order now => exact restricted
        | _ => exact builds
      · rintro row rfl
        exact restricted

/-- Requests of different holdings spend different coins. -/
theorem inputsApart (holds : InFlightInvariant chain library s) : InputsApart library s.db := by
  intro first second one two found flying found' flying' apart outpoint inFirst inSecond
  have sameHolding := (holds.owned first one found outpoint inFirst).unique
    (holds.owned second two found' outpoint inSecond)
  exact apart (holds.one one.holdingId first second ⟨one, found, rfl, flying⟩
    ⟨two, found', sameHolding.symm, flying'⟩)

end InFlightInvariant

/-- In every run of interleaved calls in which no commit is overtaken, and in which the wallets and
    the submitted PSBTs have coins of their holdings only, every holding has at most one request in
    flight, and no two requests in flight spend the same coin. -/
theorem oneInFlight_of_run {library : WalletLibrary} {builder : TxBuilder}
    (lawful : builder.Lawful) {chain : Chain} {labels : List BuildLabel} {s : BuildState}
    (run : Run (guarded (BuildStep (bdk.withWallet library builder) chain) (KeepsApart bdk library))
      BuildState.initial labels s) :
    OneInFlight s.db ∧ InputsApart library s.db := by
  have holds : InFlightInvariant chain library s :=
    run.invariant (fun _ _ _ before taken => before.step lawful taken.2 taken.1)
      (.initial chain library)
  exact ⟨holds.one, holds.inputsApart⟩

/-- A commit that is overtaken, and that the schema accepts, leaves two requests in flight. -/
theorem not_oneInFlight_of_overtaken {s : BuildState} {call : Nat} {request : PaymentRequestRow}
    (flying : request.status.InFlight)
    (held : (s.db.holdings.get? request.holdingId).isSome)
    (fresh : s.db.paymentRequests.get? request.id = none) {overtaking : Uuid}
    (overtaken : InFlightFor s.db request.holdingId overtaking) :
    ¬OneInFlight (commitRequest s call request).db := by
  have after : ∀ requestId, (commitRequest s call request).db.paymentRequests.get? requestId =
      if requestId = request.id then some request else s.db.paymentRequests.get? requestId := by
    intro requestId
    rw [commitRequest, if_pos ⟨held, fresh⟩]
    exact Table.get?_insert_of_fresh fresh requestId
  obtain ⟨row, found, sameHolding, stillFlying⟩ := overtaken
  have apart : overtaking ≠ request.id := by
    rintro rfl
    rw [fresh] at found
    cases found
  intro one
  apply apart
  apply one request.holdingId overtaking request.id
  · refine ⟨row, ?_, sameHolding, stillFlying⟩
    rw [after, if_neg apart]
    exact found
  · refine ⟨request, ?_, rfl, flying⟩
    rw [after, if_pos rfl]

/-- An admitted order is for a holding that is there. -/
theorem holding_of_admitted {db : Database} {order : PaymentOrder}
    (admitted : admitPayment db order = .ok .admitted) :
    (db.holdings.get? order.holdingId).isSome := by
  rw [admitPayment] at admitted
  cases found : db.holdings.get? order.holdingId with
  | none =>
      simp only [found] at admitted
      cases admitted
  | some holding => rfl

/-- The four steps of one call, one after the other, are the call. -/
theorem interleave_sequential {s : BuildState} {call : Nat} (idle : s.calls call = .idle)
    (node : PaymentNode) (order : PaymentOrder) (now : Timestamp) :
    ([.check call order, .build call node s.db.paymentRequests.freshKey now, .insert call,
        .commit call].foldl (interleave bdk) s).db =
      step bdk s.db (.buildPaymentRequest node order now) := by
  simp only [List.foldl_cons, List.foldl_nil]
  cases admission : admitPayment s.db order with
  | error error =>
      simp [interleave, idle, checkInFlight, admission, step, perform, buildPaymentRequest, bind,
        Except.bind, Except.map, commitOrRollback]
  | ok answer =>
      cases answer with
      | requiresConfirmation message =>
          simp [interleave, idle, checkInFlight, admission, step, perform, buildPaymentRequest, bind,
            Except.bind, Except.map, commitOrRollback, pure, Except.pure]
      | admitted =>
          cases composed : composePayment bdk node s.db order s.db.paymentRequests.freshKey now with
          | error error =>
              simp [interleave, idle, checkInFlight, buildRequest, BuildState.advance, admission,
                composed, step, perform, buildPaymentRequest, bind, Except.bind, Except.map,
                commitOrRollback]
          | ok request =>
              obtain ⟨psbtOrder, psbtBase64, -, rfl⟩ := composePayment_ok composed
              have held := holding_of_admitted admission
              simp [interleave, idle, checkInFlight, buildRequest, commitRequest, BuildState.advance,
                admission, composed, held, PaymentOrder.request, step, perform, buildPaymentRequest,
                bind, Except.bind, Except.map, commitOrRollback, pure, Except.pure]

/-! ### Three calls for two holdings -/

/-- Two wallets that know a script each, on a chain where one transaction pays them both. -/
def sampleWallets : WalletLibrary :=
  { sampleWalletLibrary with
    knowsScript := fun keys script => decide (keys.externalDescriptor = script)
    parseTransaction := fun _ => .ok
      ⟨sampleTransfer.txid, [⟨samplePayment.txid, 0⟩],
        [⟨60000, "wpkh(b/0/*)"⟩, ⟨30000, "wpkh(a/0/*)"⟩]⟩ }

/-- The banking service over these wallets. -/
abbrev walletBdk : Bdk String String := sampleBdk.withWallet sampleWallets selectAll

/-- The first holding is paid, and pays the second one. -/
def fundedOperations : List Operation :=
  fundingOperations 10 20 ++ [.handleTx sampleTransfer (sampleCall (some 101))]

/-- Where both holdings have a coin, before any call. -/
def funded : BuildState :=
  (fundedOperations.map .other).foldl (interleave walletBdk) BuildState.initial

/-- The order to send everything a holding has. -/
def drainOf (holdingId : Uuid) : PaymentOrder :=
  ⟨holdingId, "bcrt1qc", none, none, none, none, false⟩

/-- Two calls for the first holding that check and build before either commits, and one for the
    second. -/
def overlappingCalls : List BuildLabel :=
  [.check 0 (drainOf 10), .check 1 (drainOf 10), .check 2 (drainOf 20),
    .build 0 samplePaymentNode 1 1, .build 1 samplePaymentNode 2 1, .build 2 samplePaymentNode 3 1,
    .insert 0, .insert 1, .insert 2, .commit 0, .commit 2]

/-- Where one request is committed for either holding, and a second for the first one is due. -/
def oneEachCommitted : BuildState := overlappingCalls.foldl (interleave walletBdk) funded

/-- Where the first request was cancelled before the second of its holding was committed. -/
def cancelledFirst : BuildState :=
  [.other (.cancelPaymentRequest 1 2), .commit 1].foldl (interleave walletBdk) oneEachCommitted

/-- Where the second request was committed while the first is in flight. -/
def overtakenFirst : BuildState := interleave walletBdk oneEachCommitted (.commit 1)

/-- The operations of the sample are legal. -/
theorem fundedOperations_legal : ∀ operation ∈ fundedOperations,
    Legal sampleChain operation := by
  simp only [fundedOperations, fundingOperations, setupOperations, List.cons_append,
    List.nil_append, List.forall_mem_cons, List.not_mem_nil, false_implies, implies_true, Legal,
    and_true, true_and]
  exact ⟨sampleChain_payment, sampleChain_transfer⟩

/-- Before any call, operations that neither build nor submit requests run as they do alone. -/
theorem run_of_others {bdk : Bdk Psbt Tx} {library : WalletLibrary} {builder : TxBuilder}
    {chain : Chain} {operations : List Operation}
    (legal : ∀ operation ∈ operations, Legal chain operation)
    (quiet : ∀ operation ∈ operations,
      ¬operation.Builds ∧ ∀ row stored, ¬operation.Submits bdk row stored) {s : BuildState}
    (idle : ∀ call, s.calls call = .idle) :
    Run (guarded (BuildStep (bdk.withWallet library builder) chain) (KeepsApart bdk library)) s
      (operations.map .other)
      ((operations.map .other).foldl (interleave (bdk.withWallet library builder)) s) := by
  induction operations generalizing s with
  | nil => exact .stop s
  | cons operation rest inductionHypothesis =>
      have allowed := legal operation List.mem_cons_self
      obtain ⟨builds, submits⟩ := quiet operation List.mem_cons_self
      refine .cons (t := interleave (bdk.withWallet library builder) s (.other operation))
        ⟨⟨trivial, fun _ row _ stored itSubmits => absurd itSubmits (submits row (some stored))⟩,
          ⟨allowed, ?_⟩, rfl⟩
        (inductionHypothesis (fun later member => legal later (List.mem_cons_of_mem _ member))
          (fun later member => quiet later (List.mem_cons_of_mem _ member)) idle)
      cases operation with
      | buildPaymentRequest node order now => exact builds trivial
      | registerHolding row =>
          intro call
          rw [idle call]
          exact nofun
      | _ => trivial

/-- The sample comes to its two funded holdings. -/
theorem run_funded : Run (guarded (BuildStep walletBdk sampleChain)
    (KeepsApart sampleBdk sampleWallets)) BuildState.initial (fundedOperations.map .other)
      funded := by
  apply run_of_others fundedOperations_legal ?_ fun _ => rfl
  simp only [fundedOperations, fundingOperations, setupOperations, List.cons_append,
    List.nil_append, List.forall_mem_cons, List.not_mem_nil, false_implies, implies_true,
    Operation.Builds, Operation.Submits, not_false_eq_true, and_self]

instance (s : BuildState) (call : Nat) : Decidable (NotOvertaken s (.commit call)) :=
  inferInstanceAs (Decidable (∀ holdingId ∈ (s.calls call).holdingId,
    ∀ requestId ∈ s.overtaking call, ¬InFlightFor s.db holdingId requestId))

instance (bdk : Bdk Psbt Tx) (library : WalletLibrary) (s : BuildState) (call : Nat)
    (node : PaymentNode) (requestId : Uuid) (now : Timestamp) :
    Decidable (SpendsOwn bdk library s (.build call node requestId now)) :=
  inferInstanceAs (Decidable (∀ holdingId ∈ (s.calls call).holdingId,
    ∀ coin ∈ openedWallet bdk library s call node, Owned s.db coin.outpoint holdingId))

/-- The overlapping calls keep their inputs apart. -/
theorem run_overlappingCalls : Run (guarded (BuildStep walletBdk sampleChain)
    (KeepsApart sampleBdk sampleWallets)) funded overlappingCalls
      (overlappingCalls.foldl (interleave walletBdk) funded) :=
  .cons ⟨⟨trivial, trivial⟩, trivial, rfl⟩ (.cons ⟨⟨trivial, trivial⟩, trivial, rfl⟩
    (.cons ⟨⟨trivial, trivial⟩, trivial, rfl⟩
      (.cons ⟨⟨trivial, by decide +kernel⟩, trivial, rfl⟩
        (.cons ⟨⟨trivial, by decide +kernel⟩, trivial, rfl⟩
          (.cons ⟨⟨trivial, by decide +kernel⟩, trivial, rfl⟩
            (.cons ⟨⟨trivial, trivial⟩, trivial, rfl⟩ (.cons ⟨⟨trivial, trivial⟩, trivial, rfl⟩
              (.cons ⟨⟨trivial, trivial⟩, trivial, rfl⟩
                (.cons ⟨⟨by decide +kernel, trivial⟩, trivial, rfl⟩
                  (.cons ⟨⟨by decide +kernel, trivial⟩, trivial, rfl⟩ (.stop _)))))))))))

/-- The run up to one request committed for each holding. -/
theorem run_oneEachCommitted : Run (guarded (BuildStep walletBdk sampleChain)
    (KeepsApart sampleBdk sampleWallets)) BuildState.initial
      (fundedOperations.map .other ++ overlappingCalls) oneEachCommitted :=
  run_funded.append run_overlappingCalls

/-- The run goes on with a cancellation and a second commit. -/
theorem run_cancelledFirst : Run (guarded (BuildStep walletBdk sampleChain)
    (KeepsApart sampleBdk sampleWallets)) oneEachCommitted
      [.other (.cancelPaymentRequest 1 2), .commit 1]
      ([.other (.cancelPaymentRequest 1 2), .commit 1].foldl (interleave walletBdk)
        oneEachCommitted) :=
  .cons ⟨⟨trivial, fun _ _ _ _ submits => submits.elim⟩, ⟨trivial, trivial⟩, rfl⟩
    (.cons ⟨⟨by decide +kernel, trivial⟩, trivial, rfl⟩ (.stop _))

/-- What is in flight is one request for either holding, with the coin of its own. -/
theorem oneInFlight_of_run_cancelledFirst :
    (cancelledFirst.db.paymentRequests.rows.map fun row =>
        (row.id, row.holdingId, row.status, row.psbtInputs sampleWallets)) =
      [(1, 10, .cancelled, [⟨sampleTransfer.txid, 1⟩]),
        (3, 20, .awaitingSignature, [⟨sampleTransfer.txid, 0⟩]),
        (2, 10, .awaitingSignature, [⟨sampleTransfer.txid, 1⟩])] ∧
      OneInFlight cancelledFirst.db ∧ InputsApart sampleWallets cancelledFirst.db := by
  refine ⟨by decide +kernel, ?_⟩
  exact oneInFlight_of_run selectAll_lawful (run_oneEachCommitted.append run_cancelledFirst)

/-- Two calls that check before either commits both leave a request, for the same coin. -/
theorem not_oneInFlight_of_overtakenFirst :
    Run (BuildStep walletBdk sampleChain) BuildState.initial
        (fundedOperations.map .other ++ overlappingCalls ++ [.commit 1]) overtakenFirst ∧
      ¬OneInFlight overtakenFirst.db ∧ ¬InputsApart sampleWallets overtakenFirst.db := by
  have both : ∃ one ∈ overtakenFirst.db.paymentRequests.get? 1,
      ∃ two ∈ overtakenFirst.db.paymentRequests.get? 2,
        (one.holdingId = 10 ∧ one.status.InFlight) ∧ (two.holdingId = 10 ∧ two.status.InFlight) ∧
          ⟨sampleTransfer.txid, 1⟩ ∈ one.psbtInputs sampleWallets ∧
            ⟨sampleTransfer.txid, 1⟩ ∈ two.psbtInputs sampleWallets := by
    decide +kernel
  obtain ⟨one, found, two, found', ⟨ofTen, flying⟩, ⟨ofTen', flying'⟩, spends, spends'⟩ := both
  refine ⟨?_, ?_, ?_⟩
  · have committed : BuildStep walletBdk sampleChain oneEachCommitted (.commit 1) overtakenFirst :=
      ⟨trivial, rfl⟩
    exact (run_oneEachCommitted.mono fun _ _ _ taken => taken.2).append (.single committed)
  · intro unique
    exact absurd (unique 10 1 2 ⟨one, found, ofTen, flying⟩ ⟨two, found', ofTen', flying'⟩)
      (by decide)
  · intro apart
    exact apart 1 2 one two found flying found' flying' (by decide) spends spends'

end TallyKeep
