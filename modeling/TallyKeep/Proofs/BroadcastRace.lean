/-
Module: TallyKeep.Proofs.BroadcastRace
Layer: Proofs
Purpose: When the listener, which may see a transaction before its broadcast is committed, confirms
  the request that was broadcast.
Trusted boundary: none
Main exports: Linkable, ConfirmsAt, RaceInvariant, race_sequential, confirmed_iff_visits
-/
import TallyKeep.Interleaving
import TallyKeep.Proofs.EntryLinks

namespace TallyKeep

open Relational Transition

/-- The phase would complete and has an entry to link: the delivery carries a height, no lookup by
    transaction id is ambiguous, and the transaction has or gets a ledger entry. -/
structure Linkable (db : Database) (tx : DecodedTx) (ctx : TxContext) : Prop where
  confirmed : ctx.confirmationHeight.isSome
  unique : LookupsUnique db tx ctx.confirmationHeight.isSome
  entry : bookedHoldings db tx ≠ ∅ ∨ LedgerEntryRepo.entriesFor db tx.txid ≠ []

/-- The listener is about to store a linkable delivery, and the broadcast is committed. -/
def HandlingPhase.Confirms (phase : HandlingPhase) (s : RaceState) (tx : DecodedTx) : Prop :=
  match phase with
  | .fetched _ ctx => s.broadcast = .committed ∧ Linkable s.db tx ctx
  | _ => False

/-- A step at which the request is confirmed, or would be if it were not yet. -/
def ConfirmsAt (tx : DecodedTx) (s : RaceState) : RaceLabel → Prop
  | .storeMempool => s.mempool.Confirms s tx
  | .storeBlock => s.block.Confirms s tx
  | _ => False

/-- The request is there and CONFIRMED. -/
def RequestConfirmed (db : Database) (requestId : Uuid) : Prop :=
  ∃ row ∈ db.paymentRequests.get? requestId, row.status = .confirmed

instance (db : Database) (requestId : Uuid) : Decidable (RequestConfirmed db requestId) :=
  inferInstanceAs (Decidable (∃ row ∈ db.paymentRequests.get? requestId, row.status = .confirmed))

/-- A request is confirmed by what its row says. -/
theorem requestConfirmed_of_get? {db : Database} {requestId : Uuid} {row : PaymentRequestRow}
    (found : db.paymentRequests.get? requestId = some row) :
    RequestConfirmed db requestId ↔ row.status = .confirmed := by
  constructor
  · intro ⟨other, same, confirmed⟩
    rw [found] at same
    cases same
    exact confirmed
  · intro confirmed
    exact ⟨row, found, confirmed⟩

/-! ### One database phase -/

section Store

variable {chain : Chain} {db : Database} {tx : DecodedTx}

/-- What the phase leaves when it is committed or rolled back. -/
theorem committed_handleTxDb_cases (wellFormed : ChainWellFormed db) (tx : DecodedTx)
    (ctx : TxContext) :
    committed db (handleTxDb db tx ctx) = db ∧
        ¬LookupsUnique db tx ctx.confirmationHeight.isSome ∨
      LookupsUnique db tx ctx.confirmationHeight.isSome ∧
        ∃ direction postings,
          Handled db tx ctx (committed db (handleTxDb db tx ctx)) direction postings := by
  cases run : handleTxDb db tx ctx with
  | error error =>
      apply Or.inl
      refine ⟨rfl, fun unique => ?_⟩
      obtain ⟨out, completes⟩ := (handleTxDb_completes_iff wellFormed tx ctx).mpr unique
      rw [run] at completes
      cases completes
  | ok out => exact Or.inr (handled_of_ok wellFormed run)

/-- What the database phase commits is sound. -/
theorem Sound.committed (sound : Sound chain db) (told : tx = chain.txOf tx.txid)
    (ctx : TxContext) : Sound chain (TallyKeep.committed db (handleTxDb db tx ctx)) := by
  rcases committed_handleTxDb_cases sound.wellFormed tx ctx with
    ⟨same, -⟩ | ⟨-, direction, postings, handled⟩
  · rw [same]
    exact sound
  · exact sound.handled handled told

/-- The phase confirms a request exactly when the request waits under the transaction and there is
    something to link. -/
theorem get?_committed (wellFormed : ChainWellFormed db) {requestId : Uuid}
    {row : PaymentRequestRow} (found : db.paymentRequests.get? requestId = some row)
    (ctx : TxContext) :
    ∃ row', (committed db (handleTxDb db tx ctx)).paymentRequests.get? requestId = some row' ∧
      row'.broadcastTxid = row.broadcastTxid ∧
      (row.status = .broadcast → row.broadcastTxid = some tx.txid.text → Linkable db tx ctx →
        row'.status = .confirmed) ∧
      (row'.status ≠ row.status → row.status = .broadcast ∧
        row.broadcastTxid = some tx.txid.text ∧ Linkable db tx ctx ∧ row'.status = .confirmed) := by
  rcases committed_handleTxDb_cases wellFormed tx ctx with
    ⟨same, ambiguous⟩ | ⟨unique, direction, postings, handled⟩
  · rw [same]
    refine ⟨row, found, rfl, fun _ _ linkable => absurd linkable.unique ambiguous, ?_⟩
    intro changed
    exact absurd rfl changed
  · have sameId : row.id = requestId := Table.key_of_get? found
    rcases handled.get?_request requestId with
      same | ⟨request, entryId, head, waits, linked, height, rfl, after⟩
    · rw [same]
      refine ⟨row, found, rfl, ?_, fun changed => absurd rfl changed⟩
      intro waits sent linkable
      obtain ⟨entryId, linked⟩ :=
        Option.isSome_iff_exists.mp (handled.entryToLink_isSome.mpr linkable.entry)
      have listed : row ∈ PaymentRequestRepo.requestsFor db tx.txid :=
        mem_requestsFor.mpr ⟨Table.mem_of_get? found, sent⟩
      have head := eq_head_of_short (unique.request linkable.confirmed linkable.entry) listed
      have after := handled.get?_confirmed linkable.confirmed linked head waits
      rw [sameId, same, found, Option.some.injEq] at after
      rw [after]
      rfl
    · obtain ⟨stored, sent⟩ := mem_requestsFor.mp (List.mem_of_head? head)
      have first : db.paymentRequests.get? request.id = some request := Table.get?_of_mem stored
      have sameRow : row = request := by
        rw [first, Option.some.injEq] at found
        exact found.symm
      have entry := handled.entryToLink_isSome.mp (Option.isSome_iff_exists.mpr ⟨entryId, linked⟩)
      rw [sameRow]
      exact ⟨_, after, rfl, fun _ _ _ => rfl,
        fun _ => ⟨waits, sent, ⟨height, unique, entry⟩, rfl⟩⟩

end Store

/-! ### The two parts of a broadcast -/

section Broadcast

variable {Psbt Tx : Type} {bdk : Bdk Psbt Tx} {db : Database} {requestId : Uuid}
  {node : PaymentNode} {transactionHex txid : String} {now : Timestamp}

/-- Only the requests and the attempts are written by the second part. -/
theorem acceptedBroadcast_eq (db : Database) (requestId : Uuid)
    (transactionHex txid broadcastTxid : String) (now : Timestamp) :
    ∃ attempts, acceptedBroadcast db requestId transactionHex txid broadcastTxid now =
      PaymentRequestRepo.markBroadcast { db with broadcastAttempts := attempts } requestId
        broadcastTxid now :=
  ⟨_, rfl⟩

/-- A refused broadcast writes attempts only. -/
theorem step_broadcast_refused (ready : broadcastable bdk db requestId = .ok (transactionHex, txid))
    {error : NodeError} (answer : node.sendRawTransaction transactionHex = .error error)
    (now : Timestamp) :
    ∃ attempts, step bdk db (.broadcast node requestId now) =
      { db with broadcastAttempts := attempts } := by
  simp only [step, perform, broadcastPaymentRequest, ready, answer]
  cases error with
  | rpc code message => exact ⟨_, rfl⟩
  | unavailable message => exact ⟨db.broadcastAttempts, rfl⟩

/-- An accepted broadcast leaves the request broadcast under the node's txid. -/
theorem step_broadcast_accepted (ready : broadcastable bdk db requestId = .ok (transactionHex, txid))
    {broadcastTxid : String} (answer : node.sendRawTransaction transactionHex = .ok broadcastTxid) :
    step bdk db (.broadcast node requestId now) =
      acceptedBroadcast db requestId transactionHex txid broadcastTxid now := by
  simp only [step, perform, broadcastPaymentRequest, ready, answer, commitBroadcast]

/-- A broadcast that can't begin writes nothing. -/
theorem step_broadcast_raised {error : PyError} (raised : broadcastable bdk db requestId = .error error) :
    step bdk db (.broadcast node requestId now) = db := by
  simp only [step, perform, broadcastPaymentRequest, raised, commitBroadcast]
  split <;> rfl

/-- A broadcast that nothing comes between is the operation of the program. -/
theorem race_sequential (db : Database) (requestId : Uuid) (txid : Txid) (node : PaymentNode)
    (now : Timestamp) :
    ([.send node now, .commit now].foldl (race bdk requestId txid) (.ready db)).db =
      step bdk db (.broadcast node requestId now) := by
  simp only [List.foldl_cons, List.foldl_nil]
  cases ready : broadcastable bdk db requestId with
  | error error =>
      rw [step_broadcast_raised ready]
      simp [race, RaceState.ready, sendTransaction, ready]
  | ok sent =>
      obtain ⟨transactionHex, computed⟩ := sent
      cases answer : node.sendRawTransaction transactionHex with
      | error error => simp [race, RaceState.ready, sendTransaction, ready, answer]
      | ok broadcastTxid =>
          rw [step_broadcast_accepted ready answer]
          simp [race, RaceState.ready, sendTransaction, ready, answer]

/-- A mempool notification that nothing comes between is `_handle_tx`. -/
theorem race_handleTx {s : RaceState} (due : s.mempool = .due) (requestId : Uuid) (txid : Txid)
    (node : ListenerNode) :
    ([.fetchMempool node, .storeMempool].foldl (race bdk requestId txid) s).db =
      committed s.db (handleTx node s.db txid none) := by
  simp only [List.foldl_cons, List.foldl_nil, race, due]
  cases fetched : fetchTx node txid none with
  | error error => simp [HandlingPhase.ofFetch, handleTx, fetched, bind, Except.bind, committed]
  | ok answer =>
      cases answer with
      | none => simp [HandlingPhase.ofFetch, handleTx, fetched, bind, Except.bind, committed, pure,
          Except.pure]
      | some delivered =>
          obtain ⟨tx, ctx⟩ := delivered
          cases run : handleTxDb s.db tx ctx <;>
            simp [HandlingPhase.ofFetch, handleTx, fetched, run, bind, Except.bind, committed, pure,
              Except.pure]

end Broadcast

/-! ### The invariant -/

/-- The request under a broadcast: it waits until the commit, and from then on it has the
    transaction's id. -/
def BroadcastPhase.Matches (phase : BroadcastPhase) (tx : DecodedTx) (row : PaymentRequestRow) :
    Prop :=
  match phase with
  | .committed =>
      row.broadcastTxid = some tx.txid.text ∧ (row.status = .broadcast ∨ row.status = .confirmed)
  | _ => row.status = .awaitingBroadcast

/-- What the listener has fetched is the transaction. -/
def HandlingPhase.Carries (phase : HandlingPhase) (tx : DecodedTx) : Prop :=
  match phase with
  | .fetched delivered _ => delivered = tx
  | _ => True

/-- bitcoind has named the transaction by its id. -/
def BroadcastPhase.Names (phase : BroadcastPhase) (tx : DecodedTx) : Prop :=
  match phase with
  | .accepted _ _ broadcastTxid => broadcastTxid = tx.txid.text
  | _ => True

structure RaceInvariant (chain : Chain) (requestId : Uuid) (tx : DecodedTx) (s : RaceState) :
    Prop where
  sound : Sound chain s.db
  request : ∃ row, s.db.paymentRequests.get? requestId = some row ∧ s.broadcast.Matches tx row
  named : s.broadcast.Names tx
  mempool : s.mempool.Carries tx
  block : s.block.Carries tx

/-- What a truthful node fetches is the transaction. -/
theorem carries_ofFetch {tx : DecodedTx} {mined : Option Nat} {node : ListenerNode}
    (truthful : Truthful tx mined node) (confirmationHeight : Option Nat) :
    (HandlingPhase.ofFetch (fetchTx node tx.txid confirmationHeight)).Carries tx := by
  cases fetched : fetchTx node tx.txid confirmationHeight with
  | error error => exact trivial
  | ok answer =>
      cases answer with
      | none => exact trivial
      | some delivered =>
          rw [fetchTx] at fetched
          split at fetched
          · split at fetched <;> cases fetched
          · cases fetched
          · rename_i raw answered
            cases height : actualHeight node confirmationHeight raw with
            | error error =>
                rw [height] at fetched
                cases fetched
            | ok height' =>
                rw [height] at fetched
                cases fetched
                exact (truthful raw answered).1

namespace RaceInvariant

variable {Psbt Tx : Type} {bdk : Bdk Psbt Tx} {chain : Chain} {requestId : Uuid} {tx : DecodedTx}
  {s s' : RaceState} {label : RaceLabel}

/-- A request that awaits its broadcast begins the race. -/
theorem ready {db : Database} (sound : Sound chain db) {row : PaymentRequestRow}
    (found : db.paymentRequests.get? requestId = some row)
    (waits : row.status = .awaitingBroadcast) : RaceInvariant chain requestId tx (.ready db) :=
  ⟨sound, ⟨row, found, waits⟩, trivial, trivial, trivial⟩

/-- A step that leaves requests and chain tables alone. -/
theorem of_attempts (holds : RaceInvariant chain requestId tx s)
    (waiting : s.broadcast = .waiting) (attempts : Table BroadcastAttemptRow) :
    RaceInvariant chain requestId tx
      { s with db := { s.db with broadcastAttempts := attempts }, broadcast := .refused } := by
  obtain ⟨row, found, waits⟩ := holds.request
  rw [waiting] at waits
  exact ⟨holds.sound.of_tables rfl rfl rfl rfl rfl, ⟨row, found, waits⟩, trivial, holds.mempool,
    holds.block⟩

/-- The commit of the broadcast: the request has left AWAITING_BROADCAST under the id of the
    transaction. -/
theorem commitBroadcast (holds : RaceInvariant chain requestId tx s)
    {transactionHex computed broadcastTxid : String}
    (accepted : s.broadcast = .accepted transactionHex computed broadcastTxid) (now : Timestamp) :
    RaceInvariant chain requestId tx
        { s with
          db := acceptedBroadcast s.db requestId transactionHex computed broadcastTxid now
          broadcast := .committed } ∧
      ¬RequestConfirmed s.db requestId ∧
      ¬RequestConfirmed
        (acceptedBroadcast s.db requestId transactionHex computed broadcastTxid now) requestId := by
  obtain ⟨row, found, waits⟩ := holds.request
  have named := holds.named
  rw [accepted] at waits named
  have after : (acceptedBroadcast s.db requestId transactionHex computed broadcastTxid
      now).paymentRequests.get? requestId = some (row.sent broadcastTxid now) := by
    obtain ⟨attempts, same⟩ :=
      acceptedBroadcast_eq s.db requestId transactionHex computed broadcastTxid now
    rw [same, PaymentRequestRepo.markBroadcast, PaymentRequestRepo.modify, Table.get?_update,
      if_pos rfl, found, Option.map_some]
  refine ⟨⟨holds.sound.of_tables rfl rfl rfl rfl rfl, ⟨_, after, ?_, .inl rfl⟩, trivial,
    holds.mempool, holds.block⟩, ?_, ?_⟩
  · exact congrArg some named
  · intro confirmed
    have status := (requestConfirmed_of_get? found).mp confirmed
    rw [waits] at status
    cases status
  · intro confirmed
    cases (requestConfirmed_of_get? after).mp confirmed

/-- A stored delivery keeps what is known of the request. -/
theorem matches_stored (holds : RaceInvariant chain requestId tx s) (ctx : TxContext) :
    ∃ row, (committed s.db (handleTxDb s.db tx ctx)).paymentRequests.get? requestId = some row ∧
      s.broadcast.Matches tx row := by
  obtain ⟨row, found, fits⟩ := holds.request
  obtain ⟨row', after, sameTxid, -, changed⟩ := get?_committed holds.sound.wellFormed found ctx
  refine ⟨row', after, ?_⟩
  by_cases sameStatus : row'.status = row.status
  · cases phase : s.broadcast with
    | committed =>
        rw [phase] at fits
        obtain ⟨sent, moved⟩ := fits
        exact ⟨sameTxid.trans sent, by rw [sameStatus]; exact moved⟩
    | _ =>
        rw [phase] at fits
        exact sameStatus.trans fits
  · obtain ⟨waits, sent, -, confirmed⟩ := changed sameStatus
    cases phase : s.broadcast with
    | committed => exact ⟨sameTxid.trans sent, .inr confirmed⟩
    | _ =>
        rw [phase] at fits
        cases waits.symm.trans fits

/-- A stored delivery confirms the request exactly when the broadcast is committed and there is
    something to link. -/
theorem confirmed_stored_iff (holds : RaceInvariant chain requestId tx s) (ctx : TxContext) :
    RequestConfirmed (committed s.db (handleTxDb s.db tx ctx)) requestId ↔
      RequestConfirmed s.db requestId ∨ s.broadcast = .committed ∧ Linkable s.db tx ctx := by
  obtain ⟨row, found, fits⟩ := holds.request
  obtain ⟨row', after, -, confirms, changed⟩ := get?_committed holds.sound.wellFormed found ctx
  rw [requestConfirmed_of_get? found, requestConfirmed_of_get? after]
  constructor
  · intro confirmed
    by_cases sameStatus : row'.status = row.status
    · exact .inl (sameStatus.symm.trans confirmed)
    · obtain ⟨waits, sent, linkable, -⟩ := changed sameStatus
      refine .inr ⟨?_, linkable⟩
      cases phase : s.broadcast with
      | committed => rfl
      | _ =>
          rw [phase] at fits
          cases waits.symm.trans fits
  · intro cause
    rcases cause with confirmed | ⟨phase, linkable⟩
    · by_cases sameStatus : row'.status = row.status
      · exact sameStatus.trans confirmed
      · exact (changed sameStatus).2.2.2
    · rw [phase] at fits
      obtain ⟨sent, moved⟩ := fits
      rcases moved with waits | confirmed
      · exact confirms waits sent linkable
      · by_cases sameStatus : row'.status = row.status
        · exact sameStatus.trans confirmed
        · exact (changed sameStatus).2.2.2

/-- The first part of the broadcast writes no request. -/
theorem send (bdk : Bdk Psbt Tx) (holds : RaceInvariant chain requestId tx s)
    (waiting : s.broadcast = .waiting) {node : PaymentNode} {now : Timestamp}
    (legal : RaceLegal tx s (.send node now)) :
    RaceInvariant chain requestId tx (sendTransaction bdk requestId s node now) ∧
      (RequestConfirmed (sendTransaction bdk requestId s node now).db requestId ↔
        RequestConfirmed s.db requestId) := by
  unfold sendTransaction
  split
  · exact ⟨holds.of_attempts waiting s.db.broadcastAttempts, Iff.rfl⟩
  · rename_i transactionHex txid ready
    split
    · rename_i error answer
      obtain ⟨attempts, same⟩ := step_broadcast_refused ready answer now
      rw [same]
      exact ⟨holds.of_attempts waiting attempts, Iff.rfl⟩
    · rename_i broadcastTxid answer
      obtain ⟨row, found, waits⟩ := holds.request
      rw [waiting] at waits
      exact ⟨⟨holds.sound, ⟨row, found, waits⟩, legal transactionHex broadcastTxid answer,
        holds.mempool, holds.block⟩, Iff.rfl⟩

/-- Every step keeps the invariant, and confirms the request exactly at a step that can. -/
theorem step (told : tx = chain.txOf tx.txid) (holds : RaceInvariant chain requestId tx s)
    (taken : RaceStep bdk requestId tx s label s') :
    RaceInvariant chain requestId tx s' ∧
      (RequestConfirmed s'.db requestId ↔ RequestConfirmed s.db requestId ∨ ConfirmsAt tx s label) := by
  obtain ⟨legal, rfl⟩ := taken
  have idle : RaceInvariant chain requestId tx s ∧
      (RequestConfirmed s.db requestId ↔ RequestConfirmed s.db requestId ∨ False) :=
    ⟨holds, (or_iff_left id).symm⟩
  cases label with
  | send node now =>
      rw [race]
      split
      · rename_i waiting
        obtain ⟨kept, same⟩ := holds.send bdk waiting legal
        exact ⟨kept, same.trans (or_iff_left id).symm⟩
      · exact idle
  | commit now =>
      rw [race]
      split
      · rename_i transactionHex computed broadcastTxid accepted
        obtain ⟨kept, before, after⟩ := holds.commitBroadcast accepted now
        refine ⟨kept, iff_of_false after ?_⟩
        intro cause
        rcases cause with confirmed | impossible
        · exact before confirmed
        · exact impossible
      · exact idle
  | mine height =>
      rw [race]
      split
      · exact ⟨⟨holds.sound, holds.request, holds.named, holds.mempool, holds.block⟩, idle.2⟩
      · exact idle
  | fetchMempool node =>
      rw [race]
      split
      · exact ⟨⟨holds.sound, holds.request, holds.named, carries_ofFetch legal.2 none, holds.block⟩,
          idle.2⟩
      · exact idle
  | storeMempool =>
      have carries := holds.mempool
      cases phase : s.mempool with
      | fetched delivered ctx =>
          rw [phase] at carries
          have same : delivered = tx := carries
          rw [race, ConfirmsAt, phase, same]
          exact ⟨⟨holds.sound.committed told ctx, holds.matches_stored ctx, holds.named, trivial,
            holds.block⟩,
            holds.confirmed_stored_iff ctx⟩
      | _ =>
          simp only [race, ConfirmsAt, phase, HandlingPhase.Confirms]
          exact idle
  | queryBlock node blockHash =>
      rw [race]
      split
      · refine ⟨⟨holds.sound, holds.request, holds.named, holds.mempool, ?_⟩, idle.2⟩
        simp only [queryKnown]
        split
        · exact trivial
        · split <;> exact trivial
      · exact idle
  | fetchBlock node =>
      rw [race]
      split
      · rename_i height phase
        exact ⟨⟨holds.sound, holds.request, holds.named, holds.mempool,
          carries_ofFetch legal (some height)⟩, idle.2⟩
      · exact idle
  | storeBlock =>
      have carries := holds.block
      cases phase : s.block with
      | fetched delivered ctx =>
          rw [phase] at carries
          have same : delivered = tx := carries
          rw [race, ConfirmsAt, phase, same]
          exact ⟨⟨holds.sound.committed told ctx, holds.matches_stored ctx, holds.named, holds.mempool,
            trivial⟩,
            holds.confirmed_stored_iff ctx⟩
      | _ =>
          simp only [race, ConfirmsAt, phase, HandlingPhase.Confirms]
          exact idle

end RaceInvariant

/-- From any reachable state in which the request waits to be broadcast, in every run of its
    broadcast beside the handling of its transaction, the request is CONFIRMED exactly when at some
    step the listener stored a delivery with a height, unique lookups and an entry to link, while
    the broadcast was committed. -/
theorem confirmed_iff_visits {Psbt Tx : Type} {bdk : Bdk Psbt Tx} {chain : Chain} {db : Database}
    (reached : Reached bdk chain db) {requestId : Uuid} {row : PaymentRequestRow}
    (found : db.paymentRequests.get? requestId = some row)
    (waits : row.status = .awaitingBroadcast) (txid : Txid) {labels : List RaceLabel}
    {s : RaceState}
    (run : Run (RaceStep bdk requestId (chain.txOf txid)) (.ready db) labels s) :
    RequestConfirmed s.db requestId ↔
      Visits (RaceStep bdk requestId (chain.txOf txid)) (ConfirmsAt (chain.txOf txid)) (.ready db)
        labels s := by
  have told : chain.txOf txid = chain.txOf (chain.txOf txid).txid := by rw [chain.txid_txOf]
  have holds : RaceInvariant chain requestId (chain.txOf txid) (.ready db) :=
    .ready (sound_of_reached reached) found waits
  have start : ¬RequestConfirmed db requestId := by
    intro confirmed
    have status := (requestConfirmed_of_get? found).mp confirmed
    rw [waits] at status
    cases status
  have kept : ∀ s label s', RaceInvariant chain requestId (chain.txOf txid) s →
      RaceStep bdk requestId (chain.txOf txid) s label s' →
        RaceInvariant chain requestId (chain.txOf txid) s' :=
    fun _ _ _ before taken => (before.step told taken).1
  have confirms : ∀ s label s', RaceInvariant chain requestId (chain.txOf txid) s →
      RaceStep bdk requestId (chain.txOf txid) s label s' →
        (RequestConfirmed s'.db requestId ↔
          RequestConfirmed s.db requestId ∨ ConfirmsAt (chain.txOf txid) s label) :=
    fun _ _ _ before taken => (before.step told taken).2
  have iff := run.establishes_iff kept confirms holds
  exact iff.trans (or_iff_right start)

/-! ### The two orders of a commit and a block -/

/-- The broadcast is committed and both notifications are handled. -/
def RaceState.Finished (s : RaceState) : Bool :=
  match s.broadcast, s.mempool, s.block with
  | .committed, .finished, .finished => true
  | _, _, _ => false

/-- The first holding pays somebody outside, with change. -/
def outsidePayment : DecodedTx where
  txid := sampleTransfer.txid
  hex := "00"
  vin := sampleTransfer.vin
  vout := [⟨some 60000, some 0, some "bcrt1qz"⟩, ⟨some 30000, some 1, some "bcrt1qa"⟩]
  prevoutsNodup := sampleTransfer.prevoutsNodup
  indicesNodup := by decide
  noSelfSpend := sampleTransfer.noSelfSpend

/-- The chain of the funding of the first holding and its payment. -/
def outsideChain : Chain := Chain.ofTwo samplePayment outsidePayment

theorem outsideChain_funding : samplePayment = outsideChain.txOf samplePayment.txid := by
  decide

theorem outsideChain_payment : outsidePayment = outsideChain.txOf outsidePayment.txid := by
  decide

/-- The payment is signed and waits to be broadcast. -/
def transferSigned : List Operation :=
  transferOrdered 10 20 ++ [.submitSigned 1 (some "signed") none 2]

/-- Where the payment is signed. -/
def signedDb : Database := transferSigned.foldl (step sampleBdk) Database.empty

/-- The signed request of the sample is reached. -/
theorem signedDb_reached : Reached sampleBdk outsideChain signedDb := by
  apply reached_of_legal
  simp only [transferSigned, transferOrdered, fundingOperations, setupOperations, List.cons_append,
    List.nil_append, List.forall_mem_cons, List.not_mem_nil, false_implies, implies_true,
    Legal, and_true, true_and]
  exact outsideChain_funding

/-- bitcoind as the listener sees it, before and after the payment is mined. -/
def sampleListener (mined : Option Nat) : ListenerNode where
  getRawTransaction _ := .ok ⟨outsidePayment, mined.map fun _ => "block", none⟩
  getBlockHeader _ := .ok (mined.getD 0)
  getBlock _ := .ok ⟨mined.getD 0, [outsidePayment.txid]⟩
  feeRate := 1
  now := 4
  rowOrder := (sampleCall none).rowOrder
  setOrder := (sampleCall none).setOrder
  arrangeTxids := id
  arrangePerm _ := .refl _

theorem sampleListener_truthful (mined : Option Nat) :
    Truthful outsidePayment mined (sampleListener mined) := by
  intro raw answered
  cases answered
  refine ⟨rfl, ?_⟩
  intro blockhash named
  cases mined with
  | none => cases named
  | some height =>
      refine ⟨height, rfl, ?_⟩
      intro reported header
      cases header
      rfl

/-- The sample node answers with the txid of the payment. -/
theorem samplePaymentNode_names {transactionHex broadcastTxid : String}
    (answer : samplePaymentNode.sendRawTransaction transactionHex = .ok broadcastTxid) :
    broadcastTxid = outsidePayment.txid.text := by
  cases answer
  rfl

/-- The listener handles the payment in the mempool and in block 101. -/
def handlingLabels : List RaceLabel :=
  [.fetchMempool (sampleListener none), .storeMempool, .mine 101,
    .queryBlock (sampleListener (some 101)) "block", .fetchBlock (sampleListener (some 101)),
    .storeBlock]

/-- The broadcast is committed before the listener handles anything. -/
def commitFirst : List RaceLabel :=
  [.send samplePaymentNode 3, .commit 3] ++ handlingLabels

/-- The broadcast is committed after the listener has handled everything. -/
def commitLast : List RaceLabel :=
  [.send samplePaymentNode 3] ++ handlingLabels ++ [.commit 3]

/-- The race from the signed transfer. -/
def sampleRace (labels : List RaceLabel) : RaceState :=
  labels.foldl (race sampleBdk 1 outsidePayment.txid) (.ready signedDb)

/-- The steps of the listener. -/
def RaceLabel.Handles : RaceLabel → Prop
  | .send _ _ | .commit _ | .mine _ => False
  | _ => True

/-- The listener changes neither the broadcast nor the chain. -/
theorem race_handles_frame {Psbt Tx : Type} (bdk : Bdk Psbt Tx) (requestId : Uuid) (txid : Txid)
    (s : RaceState) (label : RaceLabel) (handles : label.Handles) :
    (race bdk requestId txid s label).mined = s.mined ∧
      (race bdk requestId txid s label).broadcast = s.broadcast := by
  cases label with
  | send node now => exact handles.elim
  | commit now => exact handles.elim
  | mine height => exact handles.elim
  | _ =>
      rw [race]
      split <;> exact ⟨rfl, rfl⟩

/-- The listener may handle the payment as soon as bitcoind has accepted it. -/
theorem run_handlingLabels {s : RaceState} (accepted : s.broadcast.Accepted)
    (unmined : s.mined = none) :
    Run (RaceStep sampleBdk 1 outsidePayment) s handlingLabels
      (handlingLabels.foldl (race sampleBdk 1 outsidePayment.txid) s) := by
  have fetched := race_handles_frame sampleBdk 1 outsidePayment.txid s
    (.fetchMempool (sampleListener none)) trivial
  have stored := race_handles_frame sampleBdk 1 outsidePayment.txid
    (race sampleBdk 1 outsidePayment.txid s (.fetchMempool (sampleListener none))) .storeMempool
    trivial
  generalize s₁_eq : race sampleBdk 1 outsidePayment.txid s
    (.fetchMempool (sampleListener none)) = s₁ at fetched stored
  generalize s₂_eq : race sampleBdk 1 outsidePayment.txid s₁ .storeMempool = s₂ at stored
  have unmined₂ : s₂.mined = none := stored.1.trans (fetched.1.trans unmined)
  have accepted₂ : s₂.broadcast.Accepted := by
    rw [stored.2, fetched.2]
    exact accepted
  have mined : (race sampleBdk 1 outsidePayment.txid s₂ (.mine 101)).mined = some 101 := by
    rw [race]
    split
    · rfl
    · rename_i height mined
      cases unmined₂.symm.trans mined
  have known := race_handles_frame sampleBdk 1 outsidePayment.txid
    (race sampleBdk 1 outsidePayment.txid s₂ (.mine 101))
    (.queryBlock (sampleListener (some 101)) "block") trivial
  refine .cons ⟨⟨accepted, ?_⟩, rfl⟩ (.cons ⟨trivial, rfl⟩ (.cons ⟨?_, rfl⟩ (.cons ⟨⟨101, ?_, ?_⟩, rfl⟩
    (.cons ⟨?_, rfl⟩ (.cons ⟨trivial, rfl⟩ (.stop _))))))
  · rw [unmined]
    exact sampleListener_truthful none
  · rw [s₁_eq, s₂_eq]
    exact accepted₂
  · rw [s₁_eq, s₂_eq]
    exact mined
  · intro block answer
    cases answer
    exact ⟨rfl, List.mem_singleton_self _⟩
  · rw [s₁_eq, s₂_eq, RaceLegal, known.1, mined]
    exact sampleListener_truthful (some 101)

theorem sampleRace_facts :
    (sampleRace [.send samplePaymentNode 3]).broadcast =
        .accepted "finalised" outsidePayment.txid.text outsidePayment.txid.text ∧
      (sampleRace [.send samplePaymentNode 3]).mined = none ∧
      (sampleRace [.send samplePaymentNode 3, .commit 3]).broadcast = .committed ∧
      (sampleRace [.send samplePaymentNode 3, .commit 3]).mined = none ∧
      (∃ row ∈ signedDb.paymentRequests.get? 1, row.status = .awaitingBroadcast) ∧
      ((sampleRace commitFirst).Finished ∧ RequestConfirmed (sampleRace commitFirst).db 1) ∧
      (sampleRace commitLast).Finished ∧ ¬RequestConfirmed (sampleRace commitLast).db 1 := by
  decide +kernel

/-- The run up to the answer of the node. -/
theorem run_sent : Run (RaceStep sampleBdk 1 outsidePayment) (.ready signedDb)
    [.send samplePaymentNode 3] (sampleRace [.send samplePaymentNode 3]) :=
  .single ⟨fun _ _ => samplePaymentNode_names, rfl⟩

/-- The run in which the broadcast commits first. -/
theorem run_commitFirst : Run (RaceStep sampleBdk 1 outsidePayment) (.ready signedDb) commitFirst
    (sampleRace commitFirst) := by
  obtain ⟨-, -, committed, unmined, -⟩ := sampleRace_facts
  rw [sampleRace, commitFirst, List.foldl_append]
  apply Run.append (t := sampleRace [.send samplePaymentNode 3, .commit 3])
  · exact run_sent.append (.single ⟨trivial, rfl⟩)
  · apply run_handlingLabels _ unmined
    rw [committed]
    exact trivial

/-- The run in which the broadcast commits last. -/
theorem run_commitLast : Run (RaceStep sampleBdk 1 outsidePayment) (.ready signedDb) commitLast
    (sampleRace commitLast) := by
  obtain ⟨sent, unmined, -⟩ := sampleRace_facts
  rw [sampleRace, commitLast, List.foldl_append, List.foldl_append]
  apply Run.append _ (.single ⟨trivial, rfl⟩)
  apply run_sent.append
  apply run_handlingLabels _ unmined
  rw [sent]
  exact trivial

theorem signedDb_request : ∃ row, signedDb.paymentRequests.get? 1 = some row ∧
    row.status = .awaitingBroadcast := by
  obtain ⟨-, -, -, -, present, -⟩ := sampleRace_facts
  exact present

/-- With the commit first, the block confirms the request. -/
theorem confirmed_iff_visits_commitFirst :
    (sampleRace commitFirst).Finished ∧ RequestConfirmed (sampleRace commitFirst).db 1 ∧
      Visits (RaceStep sampleBdk 1 (outsideChain.txOf outsidePayment.txid))
        (ConfirmsAt (outsideChain.txOf outsidePayment.txid)) (.ready signedDb) commitFirst
        (sampleRace commitFirst) := by
  obtain ⟨row, found, waits⟩ := signedDb_request
  obtain ⟨-, -, -, -, -, ⟨finished, confirmed⟩, -⟩ := sampleRace_facts
  have run := run_commitFirst
  rw [outsideChain_payment] at run
  exact ⟨finished, confirmed,
    (confirmed_iff_visits signedDb_reached found waits outsidePayment.txid run).mp confirmed⟩

/-- With the commit last, everything is finished and the request is not CONFIRMED. -/
theorem not_confirmed_of_commitLast :
    Reached sampleBdk outsideChain signedDb ∧
      (∃ row, signedDb.paymentRequests.get? 1 = some row ∧ row.status = .awaitingBroadcast) ∧
      Run (RaceStep sampleBdk 1 (outsideChain.txOf outsidePayment.txid)) (.ready signedDb) commitLast
        (sampleRace commitLast) ∧
      (sampleRace commitLast).Finished ∧ ¬RequestConfirmed (sampleRace commitLast).db 1 := by
  have run := run_commitLast
  rw [outsideChain_payment] at run
  obtain ⟨-, -, -, -, -, -, finished, unconfirmed⟩ := sampleRace_facts
  exact ⟨signedDb_reached, signedDb_request, run, finished, unconfirmed⟩

end TallyKeep
