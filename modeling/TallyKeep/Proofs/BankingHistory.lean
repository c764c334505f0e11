/-
Module: TallyKeep.Proofs.BankingHistory
Layer: Proofs
Purpose: What a payment request and an invoice keep for as long as their holding exists, and the
  ledger entries they name, which are never missing.
Trusted boundary: none
Main exports: RequestGrows, requestGrows_of_run, InvoiceMove, InvoiceGrows, invoiceGrows_of_run,
  EntriesNamed, entriesNamed_of_reached
-/
import TallyKeep.Proofs.HoldingHistory
import TallyKeep.Proofs.InvoiceSettlement

namespace TallyKeep

open Relational Transition

variable {Psbt Tx : Type} {bdk : Bdk Psbt Tx} {chain : Chain}

/-! ### Payment requests -/

/-- What is not set yet at an early stage. -/
structure PaymentRequestRow.Staged (row : PaymentRequestRow) : Prop where
  unsigned : row.status = .awaitingSignature → row.signedTransactionHex = none
  unsent : row.status ≠ .broadcast → row.status ≠ .confirmed → row.broadcastTxid = none

/-- What a later row of a request keeps: what was ordered, what was signed, what was sent. -/
structure RequestGrows (before after : PaymentRequestRow) : Prop where
  holdingId : after.holdingId = before.holdingId
  paymentType : after.paymentType = before.paymentType
  amountSats : after.amountSats = before.amountSats
  description : after.description = before.description
  destinationAddress : after.destinationAddress = before.destinationAddress
  bip21Uri : after.bip21Uri = before.bip21Uri
  signed : before.signedTransactionHex.isSome →
    after.signedTransactionHex = before.signedTransactionHex ∧ after.psbtBase64 = before.psbtBase64
  sent : before.broadcastTxid.isSome → after.broadcastTxid = before.broadcastTxid
  final : before.status.Final → after.status = before.status

namespace RequestGrows

theorem refl (row : PaymentRequestRow) : RequestGrows row row :=
  ⟨rfl, rfl, rfl, rfl, rfl, rfl, fun _ => ⟨rfl, rfl⟩, fun _ => rfl, fun _ => rfl⟩

/-- What a request keeps from stretch to stretch it keeps throughout. -/
theorem trans {before middle after : PaymentRequestRow} (first : RequestGrows before middle)
    (second : RequestGrows middle after) : RequestGrows before after where
  holdingId := second.holdingId.trans first.holdingId
  paymentType := second.paymentType.trans first.paymentType
  amountSats := second.amountSats.trans first.amountSats
  description := second.description.trans first.description
  destinationAddress := second.destinationAddress.trans first.destinationAddress
  bip21Uri := second.bip21Uri.trans first.bip21Uri
  signed isSigned := by
    obtain ⟨sameHex, samePsbt⟩ := first.signed isSigned
    obtain ⟨sameHex', samePsbt'⟩ := second.signed (sameHex ▸ isSigned)
    exact ⟨sameHex'.trans sameHex, samePsbt'.trans samePsbt⟩
  sent isSent := by
    have same := first.sent isSent
    exact (second.sent (same ▸ isSent)).trans same
  final isFinal := by
    have same := first.final isFinal
    exact (second.final (same ▸ isFinal)).trans same

end RequestGrows

/-- A status in which a request can be cancelled is no final one. -/
theorem PaymentStatus.Cancellable.not_final {status : PaymentStatus}
    (allowed : status.Cancellable) : ¬status.Final := by
  rintro (rfl | rfl) <;> rcases allowed with same | same | same <;> cases same

/-- A move keeps what was ordered, signed and sent. -/
theorem RequestMove.grows {before : PaymentRequestRow} {after : Option PaymentRequestRow}
    (move : RequestMove bdk operation (some before) after) (staged : before.Staged) :
    ∃ row, after = some row ∧ RequestGrows before row ∧ row.Staged := by
  cases move with
  | kept => exact ⟨before, rfl, .refl before, staged⟩
  | attributed _ executionId =>
      exact ⟨_, rfl,
        ⟨rfl, rfl, rfl, rfl, rfl, rfl, fun _ => ⟨rfl, rfl⟩, fun _ => rfl, fun _ => rfl⟩,
        ⟨staged.unsigned, staged.unsent⟩⟩
  | signed awaits signedTransactionHex psbtBase64 now =>
      have unsent := staged.unsent (by rw [awaits]; decide) (by rw [awaits]; decide)
      refine ⟨_, rfl, ⟨rfl, rfl, rfl, rfl, rfl, rfl, ?_, fun _ => rfl, ?_⟩, ⟨?_, fun _ _ => unsent⟩⟩
      · rw [staged.unsigned awaits]
        exact fun isSigned => absurd isSigned Bool.false_ne_true
      · rw [awaits]
        rintro (same | same) <;> cases same
      · exact fun same => PaymentStatus.noConfusion same
  | sent awaits broadcastTxid now =>
      have unsent := staged.unsent (by rw [awaits]; decide) (by rw [awaits]; decide)
      refine ⟨_, rfl, ⟨rfl, rfl, rfl, rfl, rfl, rfl, fun _ => ⟨rfl, rfl⟩, ?_, ?_⟩, ⟨?_, ?_⟩⟩
      · rw [unsent]
        exact fun isSent => absurd isSent Bool.false_ne_true
      · rw [awaits]
        rintro (same | same) <;> cases same
      · exact fun same => PaymentStatus.noConfusion same
      · exact fun other _ => absurd rfl other
  | confirmed waits resultingLedgerEntryId now =>
      refine ⟨_, rfl, ⟨rfl, rfl, rfl, rfl, rfl, rfl, fun _ => ⟨rfl, rfl⟩, fun _ => rfl, ?_⟩,
        ⟨?_, ?_⟩⟩
      · rw [waits]
        rintro (same | same) <;> cases same
      · exact fun same => PaymentStatus.noConfusion same
      · exact fun _ other => absurd rfl other
  | cancelled allowed now =>
      have unsent : before.broadcastTxid = none := by
        apply staged.unsent <;> intro same <;> rw [same] at allowed <;>
          rcases allowed with other | other | other <;> cases other
      exact ⟨_, rfl, ⟨rfl, rfl, rfl, rfl, rfl, rfl, fun _ => ⟨rfl, rfl⟩, fun _ => rfl,
        fun isFinal => absurd isFinal allowed.not_final⟩,
        ⟨fun same => PaymentStatus.noConfusion same, fun _ _ => unsent⟩⟩

/-- The deletion of another holding makes a request forget what goes with that holding. -/
theorem get?_request_deletionResult {db : Database} {other : Uuid} (policyIds : List Uuid)
    {requestId : Uuid} {row : PaymentRequestRow}
    (found : db.paymentRequests.get? requestId = some row) (different : other ≠ row.holdingId) :
    ∃ executionIds, (deletionResult db other policyIds).paymentRequests.get? requestId =
      some (row.forget executionIds (candidateIds db other)) := by
  have own : decide (row.holdingId = other) = false :=
    decide_eq_false fun same => different same.symm
  simp only [deletionResult, Table.get?_updateAll, Table.get?_delete, found, Option.filter_some,
    own, Bool.not_false, if_true, Option.map_some]
  exact ⟨_, rfl⟩

/-- What an operation that spares the holding of a request makes of the request. -/
theorem RequestGrows.of_step {db : Database} (wellFormed : ChainWellFormed db)
    {operation : Operation} {requestId : Uuid} {row : PaymentRequestRow}
    (found : db.paymentRequests.get? requestId = some row) (staged : row.Staged)
    (spares : operation.Spares row.holdingId) :
    ∃ row', (step bdk db operation).paymentRequests.get? requestId = some row' ∧
      RequestGrows row row' ∧ row'.Staged := by
  have change := requestChange_of_step bdk wellFormed operation requestId
  rw [found] at change
  cases change with
  | moved move => exact move.grows staged
  | built builds new => cases new
  | deleted deletes gone =>
      cases operation with
      | deleteHolding other policyIds =>
          rcases step_deleteHolding bdk db other policyIds with same | ⟨-, after⟩
          · rw [same]
            exact ⟨row, found, .refl row, staged⟩
          · obtain ⟨executionIds, forgotten⟩ := get?_request_deletionResult policyIds found spares
            rw [after]
            exact ⟨_, forgotten, ⟨rfl, rfl, rfl, rfl, rfl, rfl, fun _ => ⟨rfl, rfl⟩, fun _ => rfl,
              fun _ => rfl⟩, ⟨staged.unsigned, staged.unsent⟩⟩
      | _ => exact deletes.elim

/-- Every request that an operation leaves is staged. -/
theorem AllRequests.staged_step {db : Database} (wellFormed : ChainWellFormed db)
    (staged : AllRequests db PaymentRequestRow.Staged) (operation : Operation) :
    AllRequests (step bdk db operation) PaymentRequestRow.Staged := by
  intro requestId row found
  have change := requestChange_of_step bdk wellFormed operation requestId
  rw [found] at change
  cases known : db.paymentRequests.get? requestId with
  | some before =>
      rw [known] at change
      have before_staged := staged requestId before known
      cases change with
      | moved move =>
          obtain ⟨row', same, -, stagedAfter⟩ := move.grows before_staged
          exact Option.some.inj same ▸ stagedAfter
      | built builds new => cases new
      | deleted deletes gone =>
          cases gone
          exact ⟨before_staged.unsigned, before_staged.unsent⟩
  | none =>
      rw [known] at change
      cases change with
      | moved move => cases move
      | built builds new =>
          cases new
          exact ⟨fun _ => rfl, fun _ _ => rfl⟩
      | deleted deletes gone => cases gone

/-- Every request of a reached state has come to its stage step by step. -/
theorem staged_of_reached {db : Database} (reached : Reached bdk chain db) :
    AllRequests db PaymentRequestRow.Staged := by
  have both : Sound chain db ∧ AllRequests db PaymentRequestRow.Staged := by
    apply reached.invariant
    · rintro db rfl
      refine ⟨.ofEmpty chain, ?_⟩
      intro requestId row found
      cases found
    · intro db operation db' both taken
      obtain ⟨sound, staged⟩ := both
      refine ⟨sound_step db operation db' sound taken, ?_⟩
      obtain ⟨-, rfl⟩ := taken
      exact staged.staged_step sound.wellFormed operation
  exact both.2

/-- What was ordered, signed and sent stays so: along a run that does not delete its holding, a
    payment request keeps its order, its signed transaction, the transaction it was sent as, and a
    final status. -/
theorem requestGrows_of_run {db db' : Database} (reached : Reached bdk chain db)
    {operations : List Operation} (run : Run (SystemStep bdk chain) db operations db')
    {requestId : Uuid} {row : PaymentRequestRow}
    (stored : db.paymentRequests.get? requestId = some row)
    (spared : ∀ operation ∈ operations, operation.Spares row.holdingId) :
    ∃ row', db'.paymentRequests.get? requestId = some row' ∧ RequestGrows row row' := by
  have staged := staged_of_reached reached requestId row stored
  have sound := sound_of_reached reached
  clear reached
  induction run generalizing row with
  | stop db => exact ⟨row, stored, .refl row⟩
  | cons taken _ inductionHypothesis =>
      have next := sound_step _ _ _ sound taken
      obtain ⟨-, rfl⟩ := taken
      obtain ⟨middle, found, grown, stagedMiddle⟩ := RequestGrows.of_step sound.wellFormed
        stored staged (spared _ List.mem_cons_self)
      obtain ⟨row', found', grown'⟩ := inductionHypothesis found
        (fun operation later => by
          rw [grown.holdingId]
          exact spared operation (List.mem_cons_of_mem _ later)) stagedMiddle next
      exact ⟨row', found', grown.trans grown'⟩

/-- The listener confirms the transfer, and the other holding is deleted after it. -/
theorem requestGrows_of_confirmation :
    ∃ row row', (transferBroadcast 10 20).paymentRequests.rows = [row] ∧
      row.status = .broadcast ∧ row'.status = .confirmed ∧ RequestGrows row row' := by
  obtain ⟨row, rows⟩ : ∃ row, (transferBroadcast 10 20).paymentRequests.rows = [row] :=
    List.length_eq_one_iff.mp (by decide +kernel)
  have facts : ∀ row ∈ (transferBroadcast 10 20).paymentRequests.rows, row.status = .broadcast ∧
      row.holdingId = 10 ∧
      ∀ row' ∈ (step sampleBdk (step sampleBdk (transferBroadcast 10 20)
        (.handleTx sampleTransfer (sampleCall (some 101)))) (.deleteHolding 20 [])
          ).paymentRequests.rows, row'.id = row.id → row'.status = .confirmed := by
    decide +kernel
  obtain ⟨waits, own, confirmed⟩ := facts row (rows ▸ List.mem_singleton_self row)
  obtain ⟨row', found, grown⟩ := @requestGrows_of_run _ _ _ _ _ _
    (transferBroadcast_reached 10 20)
    [.handleTx sampleTransfer (sampleCall (some 101)), .deleteHolding 20 []]
    (.cons ⟨sampleChain_transfer, rfl⟩ (.single ⟨trivial, rfl⟩)) row.id row
    (Table.get?_of_mem (rows ▸ List.mem_singleton_self row)) (by
      rw [own]
      intro operation listed
      rcases List.mem_cons.mp listed with rfl | listed
      · trivial
      · obtain rfl := List.mem_singleton.mp listed
        change (20 : Nat) ≠ 10
        decide)
  exact ⟨row, row', rows, waits, confirmed row' (Table.mem_of_get? found) (Table.key_of_get? found),
    grown⟩

/-! ### Invoices -/

/-- The row of an invoice before and after an operation that deletes nothing, with the databases
    before and after it. -/
inductive InvoiceMove (db db' : Database) : Option InvoiceRow → Option InvoiceRow → Prop where
  | kept (found : Option InvoiceRow) : InvoiceMove db db' found found
  | issued {order : InvoiceOrder} {address : AddressRow}
      (reserved : addressToReserve db order.holdingId = .ok address) (invoiceId : Uuid) :
      InvoiceMove db db' none (some (order.invoice invoiceId address))
  | settled {row : InvoiceRow} (waits : row.status = .open) {entryId : Uuid}
      (stored : (db'.ledgerEntries.get? entryId).isSome) (overpaid : Bool) :
      InvoiceMove db db' (some row) (some (row.settled entryId overpaid))
  | cancelled {row : InvoiceRow} (waits : row.status = .open) :
      InvoiceMove db db' (some row) (some { row with status := .cancelled })

/-- Invoices that stay make no move. -/
theorem InvoiceMove.of_same {db db' : Database} (same : db'.invoices = db.invoices)
    (invoiceId : Uuid) :
    InvoiceMove db db' (db.invoices.get? invoiceId) (db'.invoices.get? invoiceId) := by
  rw [same]
  exact .kept _

/-- An invoice row that passes its checks is left as it is. -/
theorem InvoiceRow.postInit_ok {row row' : InvoiceRow} (run : row.postInit = .ok row') :
    row' = row := by
  rw [postInit] at run
  split at run
  · cases run
  · exact (Except.ok.inj run).symm

/-- The creation of an invoice moves that invoice only. -/
theorem createInvoice_move {db db' : Database} {order : InvoiceOrder}
    (run : createInvoice db order = .ok db') (invoiceId : Uuid) :
    InvoiceMove db db' (db.invoices.get? invoiceId) (db'.invoices.get? invoiceId) := by
  rw [createInvoice, bind_ok_iff] at run
  obtain ⟨address, reserved, run⟩ := run
  rw [bind_ok_iff] at run
  obtain ⟨invoice, valid, run⟩ := run
  cases run
  obtain rfl := InvoiceRow.postInit_ok valid
  have fresh := Table.get?_freshKey db.invoices
  change InvoiceMove _ _ _ ((db.invoices.insert _).get? invoiceId)
  rw [Table.get?_insert_of_fresh fresh]
  split
  · rename_i same
    rw [same]
    change InvoiceMove _ _ (db.invoices.get? db.invoices.freshKey) _
    rw [fresh]
    exact .issued reserved _
  · exact .kept _

/-- The cancellation of an invoice moves that invoice only. -/
theorem cancelInvoice_move {db db' : Database} {written : Uuid}
    (run : cancelInvoice db written = .ok db') (invoiceId : Uuid) :
    InvoiceMove db db' (db.invoices.get? invoiceId) (db'.invoices.get? invoiceId) := by
  rw [cancelInvoice] at run
  split at run
  · cases run
  · rename_i invoice found
    have sameId : invoice.id = written := Table.key_of_get? found
    rw [InvoiceRepo.cancel] at run
    split at run
    · cases run
    · rename_i waits
      cases run
      simp only [Table.get?_update]
      split
      · rename_i here
        rw [here, sameId, found]
        exact .cancelled (not_not.mp waits)
      · exact .kept _

section Named

variable {db db' : Database} {tx : DecodedTx} {ctx : TxContext} {direction : Direction}
  {postings : List Posting}

/-- The entries a transaction has before and gets now are stored after it. -/
theorem Handled.entry_stored (handled : Handled db tx ctx db' direction postings) {entryId : Uuid}
    (listed : entryId ∈ (LedgerEntryRepo.entriesFor db tx.txid).map LedgerEntryRow.id ++
      postings.map Posting.entryId) : (db'.ledgerEntries.get? entryId).isSome := by
  obtain ⟨chainDb, result, processed, tables⟩ := handled.processed
  rw [tables]
  change (chainDb.ledgerEntries.get? entryId).isSome = true
  rw [Table.get?_isSome_iff, processed.books.entries, List.map_append, List.map_map]
  rcases List.mem_append.mp listed with earlier | new
  · obtain ⟨entry, known, rfl⟩ := List.mem_map.mp earlier
    exact List.mem_append_left _ (List.mem_map_of_mem (Table.mem_select.mp known).1)
  · exact List.mem_append_right _ new

/-- The entry that a request is linked to is stored. -/
theorem Handled.linked_stored (handled : Handled db tx ctx db' direction postings) {entryId : Uuid}
    (linked : entryToLink db tx postings = some entryId) :
    (db'.ledgerEntries.get? entryId).isSome := by
  apply handled.entry_stored
  cases postings with
  | nil =>
      obtain ⟨entry, first, rfl⟩ := Option.map_eq_some_iff.mp linked
      exact List.mem_append_left _ (List.mem_map_of_mem (List.mem_of_head? first))
  | cons posting rest =>
      cases linked
      exact List.mem_append_right _ List.mem_cons_self

/-- The database phase moves an invoice by settling it, or not at all. -/
theorem Handled.invoiceMove (handled : Handled db tx ctx db' direction postings)
    (invoiceId : Uuid) :
    InvoiceMove db db' (db.invoices.get? invoiceId) (db'.invoices.get? invoiceId) := by
  rw [handled.invoices]
  split
  · unfold settledInvoices
    split
    · rename_i entryId invoice valueSats settles found
      obtain ⟨stored, waits⟩ := firstSettlement_open found
      simp only [InvoiceRepo.markPaid, Table.get?_update]
      split
      · rename_i here
        have present : db.invoices.get? invoice.id = some invoice := Table.get?_of_mem stored
        rw [here, present]
        exact .settled waits (handled.entry_stored (List.mem_of_head? settles)) _
      · exact .kept _
    · exact .kept _
  · exact .kept _

end Named

/-- The tables of the banking side that a scan leaves alone. -/
def Database.banking (db : Database) : Table InvoiceRow × Table BroadcastAttemptRow :=
  (db.invoices, db.broadcastAttempts)

/-- A scanned coin leaves the requests and the invoices. -/
theorem coinStage_banking (node : ScanNode) (descriptor : DescriptorRow) (address : AddressRow)
    (unspent : ScanUtxo) (db : Database) :
    (coinStage node descriptor address unspent db).banking = db.banking := by
  have upsertUnspent : ∀ db row, (UtxoRepo.upsertUnspent db row).banking = db.banking := by
    intro db row
    unfold UtxoRepo.upsertUnspent
    split <;> rfl
  have upsert : ∀ db txid rawHex height blockTime,
      (OnchainRepo.upsert db txid rawHex height blockTime).banking = db.banking := by
    intro db txid rawHex height blockTime
    unfold OnchainRepo.upsert
    split <;> rfl
  have applyFlags : ∀ db row context,
      (applyFlagsAndPropagateReuse db row context).banking = db.banking := by
    intro db row context
    simp only [applyFlagsAndPropagateReuse]
    split <;> rfl
  exact (applyFlags _ _ _).trans ((upsert _ _ _ _ _).trans (upsertUnspent _ _))

/-- A scan leaves the requests and the invoices. -/
theorem initialScan_banking {node : ScanNode} {db db' : Database} {descriptor : DescriptorRow}
    {report : ScanReport} (run : initialScan node db descriptor = .ok (db', report)) :
    db'.banking = db.banking := by
  have records : RecordKeeps (fun middle => middle.banking = db.banking) node descriptor := by
    intro before address unspent after same _ _ recorded
    change maybeCreateLedgerEntry (coinStage node descriptor address unspent before) descriptor
      unspent.txid unspent.amountSats node.now = .ok after at recorded
    obtain ⟨tables, -⟩ := maybeCreateLedgerEntry_kept recorded
    exact (congrArg Database.banking tables).trans
      ((coinStage_banking node descriptor address unspent before).trans same)
  obtain ⟨scanned, height, same, rfl⟩ := initialScan_invariant records run rfl
  exact same

/-- What an operation that deletes nothing makes of an invoice. -/
theorem invoiceMove_of_step (bdk : Bdk Psbt Tx) {db : Database} (wellFormed : ChainWellFormed db)
    {operation : Operation} (keeps : ¬operation.Deletes) (invoiceId : Uuid) :
    InvoiceMove db (step bdk db operation) (db.invoices.get? invoiceId)
      ((step bdk db operation).invoices.get? invoiceId) := by
  rw [step]
  have session : ∀ out : Except PyError Database,
      (∀ db', out = .ok db' → InvoiceMove db db' (db.invoices.get? invoiceId)
        (db'.invoices.get? invoiceId)) →
      InvoiceMove db (commitOrRollback db out).1 (db.invoices.get? invoiceId)
        ((commitOrRollback db out).1.invoices.get? invoiceId) := by
    intro out returned
    exact commitOrRollback_invariant
      (I := fun db' => InvoiceMove db db' (db.invoices.get? invoiceId)
        (db'.invoices.get? invoiceId)) (.kept _) returned
  cases operation with
  | deleteHolding holdingId policyIds => exact absurd trivial keeps
  | registerDescriptor holdingId spec =>
      apply session
      intro db' run
      simp only [registerDescriptor] at run
      split at run
      · cases run
      · split at run
        · cases run
        · cases run
          exact .kept _
  | scanDescriptor node descriptorId =>
      apply session
      intro db' run
      rw [scanDescriptor] at run
      split at run
      · cases run
      · obtain ⟨report, run⟩ := map_fst_ok run
        exact .of_same (congrArg Prod.fst (initialScan_banking run)) invoiceId
  | buildPaymentRequest node order now =>
      apply session
      intro db' run
      obtain ⟨out, run⟩ := map_fst_ok run
      rcases buildPaymentRequest_ok run with ⟨rfl, -⟩ | ⟨-, _, _, -, -, rfl⟩
      · exact .kept _
      · exact .kept _
  | submitSigned requestId psbtBase64 signedTransactionHex now =>
      apply session
      intro db' run
      obtain ⟨_, _, _, _, -, -, -, rfl, -⟩ := submitSignedPaymentRequest_ok run
      exact .kept _
  | broadcast node requestId now =>
      rcases broadcastPayment_cases bdk node db requestId now with ⟨_, _, run⟩ |
        ⟨_, _, _, _, -, -, -, -, run⟩
      · rw [run]
        exact .kept _
      · rw [run]
        exact .kept _
  | cancelPaymentRequest requestId now =>
      apply session
      intro db' run
      obtain ⟨_, -, -, rfl⟩ := cancelPaymentRequest_ok run
      exact .kept _
  | createInvoice order => exact session _ fun db' run => createInvoice_move run invoiceId
  | cancelInvoice written => exact session _ fun db' run => cancelInvoice_move run invoiceId
  | handleTx tx ctx =>
      apply session
      intro db' run
      obtain ⟨events, run⟩ := map_fst_ok run
      obtain ⟨-, direction, postings, handled⟩ := handled_of_ok wellFormed run
      exact handled.invoiceMove invoiceId
  | _ => exact .kept _

/-- What a later row of an invoice keeps: what was issued, and all of it once it is not OPEN. -/
structure InvoiceGrows (before after : InvoiceRow) : Prop where
  holdingId : after.holdingId = before.holdingId
  invoiceType : after.invoiceType = before.invoiceType
  amountSats : after.amountSats = before.amountSats
  description : after.description = before.description
  receivingAddress : after.receivingAddress = before.receivingAddress
  receivingAddressId : after.receivingAddressId = before.receivingAddressId
  bip21Uri : after.bip21Uri = before.bip21Uri
  closed : before.status ≠ .open → after = before

namespace InvoiceGrows

theorem refl (row : InvoiceRow) : InvoiceGrows row row :=
  ⟨rfl, rfl, rfl, rfl, rfl, rfl, rfl, fun _ => rfl⟩

/-- What an invoice keeps from stretch to stretch it keeps throughout. -/
theorem trans {before middle after : InvoiceRow} (first : InvoiceGrows before middle)
    (second : InvoiceGrows middle after) : InvoiceGrows before after where
  holdingId := second.holdingId.trans first.holdingId
  invoiceType := second.invoiceType.trans first.invoiceType
  amountSats := second.amountSats.trans first.amountSats
  description := second.description.trans first.description
  receivingAddress := second.receivingAddress.trans first.receivingAddress
  receivingAddressId := second.receivingAddressId.trans first.receivingAddressId
  bip21Uri := second.bip21Uri.trans first.bip21Uri
  closed isClosed := by
    have same := first.closed isClosed
    exact (second.closed (same ▸ isClosed)).trans same

end InvoiceGrows

/-- A move of an invoice that is stored lets it grow. -/
theorem InvoiceMove.grows {db db' : Database} {before : InvoiceRow}
    {after : Option InvoiceRow} (move : InvoiceMove db db' (some before) after) :
    ∃ row, after = some row ∧ InvoiceGrows before row := by
  cases move with
  | kept => exact ⟨before, rfl, .refl before⟩
  | settled waits stored overpaid =>
      exact ⟨_, rfl, rfl, rfl, rfl, rfl, rfl, rfl, rfl, fun isClosed => absurd waits isClosed⟩
  | cancelled waits =>
      exact ⟨_, rfl, rfl, rfl, rfl, rfl, rfl, rfl, rfl, fun isClosed => absurd waits isClosed⟩

/-- The deletion of another holding leaves an invoice. -/
theorem get?_invoice_deletionResult {db : Database} {other : Uuid} (policyIds : List Uuid)
    {invoiceId : Uuid} {row : InvoiceRow} (found : db.invoices.get? invoiceId = some row)
    (different : other ≠ row.holdingId) :
    (deletionResult db other policyIds).invoices.get? invoiceId = some row := by
  have own : decide (row.holdingId = other) = false :=
    decide_eq_false fun same => different same.symm
  simp only [deletionResult, Table.get?_delete, found, Option.filter_some, own, Bool.not_false,
    if_true]

/-- What an operation that spares the holding of an invoice makes of the invoice. -/
theorem InvoiceGrows.of_step {db : Database} (wellFormed : ChainWellFormed db)
    {operation : Operation} {invoiceId : Uuid} {row : InvoiceRow}
    (found : db.invoices.get? invoiceId = some row) (spares : operation.Spares row.holdingId) :
    ∃ row', (step bdk db operation).invoices.get? invoiceId = some row' ∧
      InvoiceGrows row row' := by
  by_cases deletes : operation.Deletes
  · cases operation with
    | deleteHolding other policyIds =>
        rcases step_deleteHolding bdk db other policyIds with same | ⟨-, after⟩
        · rw [same]
          exact ⟨row, found, .refl row⟩
        · rw [after]
          exact ⟨row, get?_invoice_deletionResult policyIds found spares, .refl row⟩
    | _ => exact deletes.elim
  · have move := invoiceMove_of_step bdk wellFormed deletes invoiceId
    rw [found] at move
    exact move.grows

/-- An invoice is settled or cancelled once: along a run that does not delete its holding it keeps
    what was issued, and it never changes again once it is no longer OPEN. -/
theorem invoiceGrows_of_run {db db' : Database} (reached : Reached bdk chain db)
    {operations : List Operation} (run : Run (SystemStep bdk chain) db operations db')
    {invoiceId : Uuid} {row : InvoiceRow} (stored : db.invoices.get? invoiceId = some row)
    (spared : ∀ operation ∈ operations, operation.Spares row.holdingId) :
    ∃ row', db'.invoices.get? invoiceId = some row' ∧ InvoiceGrows row row' := by
  have sound := sound_of_reached reached
  clear reached
  induction run generalizing row with
  | stop db => exact ⟨row, stored, .refl row⟩
  | cons taken _ inductionHypothesis =>
      have next := sound_step _ _ _ sound taken
      obtain ⟨-, rfl⟩ := taken
      obtain ⟨middle, found, grown⟩ := InvoiceGrows.of_step sound.wellFormed stored
        (spared _ List.mem_cons_self)
      obtain ⟨row', found', grown'⟩ := inductionHypothesis found
        (fun operation later => by
          rw [grown.holdingId]
          exact spared operation (List.mem_cons_of_mem _ later)) next
      exact ⟨row', found', grown.trans grown'⟩

/-- The sample payment settles the invoice, and the other holding is deleted after it. -/
theorem invoiceGrows_of_payment :
    ∃ row row', (invoiceWaiting 100000).invoices.rows = [row] ∧ row.status = .open ∧
      row'.status = .paid ∧ InvoiceGrows row row' := by
  obtain ⟨row, rows⟩ : ∃ row, (invoiceWaiting 100000).invoices.rows = [row] :=
    List.length_eq_one_iff.mp (by decide +kernel)
  have facts : ∀ row ∈ (invoiceWaiting 100000).invoices.rows, row.status = .open ∧
      row.holdingId = 10 ∧
      ∀ row' ∈ (step sampleBdk (step sampleBdk (invoiceWaiting 100000)
        (.handleTx samplePayment (sampleCall none))) (.deleteHolding 20 [])).invoices.rows,
          row'.status = .paid := by
    decide +kernel
  obtain ⟨waits, own, paid⟩ := facts row (rows ▸ List.mem_singleton_self row)
  obtain ⟨row', found, grown⟩ := @invoiceGrows_of_run _ _ _ _ _ _ (invoiceWaiting_reached 100000)
    [.handleTx samplePayment (sampleCall none), .deleteHolding 20 []]
    (.cons ⟨sampleChain_payment, rfl⟩ (.single ⟨trivial, rfl⟩)) row.id row
    (Table.get?_of_mem (rows ▸ List.mem_singleton_self row)) (by
      rw [own]
      intro operation listed
      rcases List.mem_cons.mp listed with rfl | listed
      · trivial
      · obtain rfl := List.mem_singleton.mp listed
        change (20 : Nat) ≠ 10
        decide)
  exact ⟨row, row', rows, waits, paid row' (Table.mem_of_get? found), grown⟩

/-! ### Ledger entries that are named -/

/-- What a request names after an operation: nothing, or what it named before. -/
def NamesAsBefore (db db' : Database) (requestId : Uuid) : Prop :=
  ∀ row', db'.paymentRequests.get? requestId = some row' →
    row'.resultingLedgerEntryId = none ∨ ∃ row, db.paymentRequests.get? requestId = some row ∧
      row'.resultingLedgerEntryId = row.resultingLedgerEntryId

namespace NamesAsBefore

variable {db db' : Database} {requestId : Uuid}

theorem of_same (same : db'.paymentRequests = db.paymentRequests) :
    NamesAsBefore db db' requestId := by
  intro row' found
  rw [same] at found
  exact .inr ⟨row', found, rfl⟩

/-- A rewrite that leaves the named entry names as before. -/
theorem of_modify {written : Uuid} {f : PaymentRequestRow → PaymentRequestRow}
    {keeps : ∀ row, (f row).id = row.id}
    (named : ∀ row, (f row).resultingLedgerEntryId = row.resultingLedgerEntryId) :
    NamesAsBefore db (PaymentRequestRepo.modify db written f keeps) requestId := by
  intro row' found
  rw [PaymentRequestRepo.modify, Table.get?_update] at found
  split at found
  · rename_i here
    obtain ⟨row, stored, rfl⟩ := Option.map_eq_some_iff.mp found
    exact .inr ⟨row, here ▸ stored, named row⟩
  · exact .inr ⟨row', found, rfl⟩

/-- A session names as before if what it returns does. -/
theorem of_session {out : Except PyError Database}
    (returned : ∀ after, out = .ok after → NamesAsBefore db after requestId) :
    NamesAsBefore db (commitOrRollback db out).1 requestId :=
  commitOrRollback_invariant (I := fun after => NamesAsBefore db after requestId) (.of_same rfl)
    returned

/-- Only the listener makes a request name an entry. -/
theorem of_step (bdk : Bdk Psbt Tx) (db : Database) {operation : Operation}
    (keeps : ¬operation.Deletes) (other : ∀ tx ctx, operation ≠ .handleTx tx ctx)
    (requestId : Uuid) : NamesAsBefore db (step bdk db operation) requestId := by
  rw [step]
  cases operation with
  | deleteHolding holdingId policyIds => exact absurd trivial keeps
  | handleTx tx ctx => exact absurd rfl (other tx ctx)
  | registerDescriptor holdingId spec =>
      exact .of_session fun _ run => .of_same (registerDescriptor_frame run).requests
  | scanDescriptor node descriptorId =>
      exact .of_session fun _ run => .of_same (scanDescriptor_frame run).requests
  | linkSweepExecution written executionId => exact .of_modify fun _ => rfl
  | buildPaymentRequest node order now =>
      apply NamesAsBefore.of_session
      intro after run
      obtain ⟨out, run⟩ := map_fst_ok run
      rcases buildPaymentRequest_ok run with ⟨rfl, -⟩ | ⟨-, _, _, -, -, rfl⟩
      · exact .of_same rfl
      · intro row' found
        simp only [PaymentRequestRepo.insert] at found
        rw [Table.get?_insert_of_fresh (Table.get?_freshKey db.paymentRequests)] at found
        split at found
        · cases found
          exact .inl rfl
        · exact .inr ⟨row', found, rfl⟩
  | submitSigned written psbtBase64 signedTransactionHex now =>
      apply NamesAsBefore.of_session
      intro after run
      obtain ⟨_, _, _, _, -, -, -, rfl, -⟩ := submitSignedPaymentRequest_ok run
      exact .of_modify fun _ => rfl
  | broadcast node written now =>
      rcases broadcastPayment_cases bdk node db written now with ⟨_, _, run⟩ |
        ⟨_, _, _, _, -, -, -, -, run⟩
      · rw [run]
        exact .of_same rfl
      · rw [run]
        exact .of_modify fun _ => rfl
  | cancelPaymentRequest written now =>
      apply NamesAsBefore.of_session
      intro after run
      obtain ⟨_, -, -, rfl⟩ := cancelPaymentRequest_ok run
      exact .of_modify fun _ => rfl
  | createInvoice order =>
      exact .of_session fun _ run => .of_same (createInvoice_frame run).requests
  | cancelInvoice invoiceId =>
      apply NamesAsBefore.of_session
      intro after run
      have same := congrArg Database.paymentRequests (cancelInvoice_tables run)
      exact .of_same same
  | _ => exact .of_same rfl

end NamesAsBefore

/-- The ledger entries that requests and invoices name are stored, and an invoice names one exactly
    when it is settled. -/
structure EntriesNamed (db : Database) : Prop where
  requests : ∀ requestId row entryId, db.paymentRequests.get? requestId = some row →
    row.resultingLedgerEntryId = some entryId → (db.ledgerEntries.get? entryId).isSome
  invoices : ∀ invoiceId row entryId, db.invoices.get? invoiceId = some row →
    row.resultingLedgerEntryId = some entryId → (db.ledgerEntries.get? entryId).isSome
  settled : ∀ invoiceId row, db.invoices.get? invoiceId = some row →
    (row.resultingLedgerEntryId.isSome ↔ row.status = .paid ∨ row.status = .overpaid)

namespace EntriesNamed

variable {db : Database}

/-- No row of the empty database names an entry. -/
theorem ofEmpty : EntriesNamed Database.empty := by
  refine ⟨?_, ?_, ?_⟩
  · intro requestId row entryId found
    cases found
  · intro invoiceId row entryId found
    cases found
  · intro invoiceId row found
    cases found

/-- The entries that are named are none of the deleted ones. -/
theorem of_deletionResult (named : EntriesNamed db) {other : Uuid}
    (unreferenced : entryStillReferenced db other = false) (policyIds : List Uuid) :
    EntriesNamed (deletionResult db other policyIds) := by
  have left : ∀ entryId, (db.ledgerEntries.get? entryId).isSome →
      orphaned db other entryId = false →
      ((deletionResult db other policyIds).ledgerEntries.get? entryId).isSome := by
    intro entryId stored shared
    obtain ⟨entry, found⟩ := Option.isSome_iff_exists.mp stored
    have sameId : entry.id = entryId := Table.key_of_get? found
    simp only [deletionResult, Table.get?_delete, found, Option.filter_some, sameId, shared]
    rfl
  have earlierInvoice : ∀ invoiceId row,
      (deletionResult db other policyIds).invoices.get? invoiceId = some row →
        db.invoices.get? invoiceId = some row ∧ row.holdingId ≠ other := by
    intro invoiceId row found
    simp only [deletionResult, Table.get?_delete] at found
    obtain ⟨stored, kept⟩ := Option.filter_eq_some_iff.mp found
    exact ⟨stored, by simpa using kept⟩
  refine ⟨?_, ?_, ?_⟩
  · intro requestId row entryId found names
    simp only [deletionResult, Table.get?_updateAll, Table.get?_delete] at found
    obtain ⟨before, kept, rfl⟩ := Option.map_eq_some_iff.mp found
    have stored := (Option.filter_eq_some_iff.mp kept).1
    -- The request has forgotten every candidate.
    obtain ⟨named', spared⟩ := Option.filter_eq_some_iff.mp names
    apply left entryId (named.requests requestId before entryId stored named')
    rw [orphaned, decide_eq_false (of_decide_eq_true spared), Bool.false_and]
  · intro invoiceId row entryId found names
    obtain ⟨stored, different⟩ := earlierInvoice invoiceId row found
    apply left entryId (named.invoices invoiceId row entryId stored names)
    have refuses := List.any_eq_false.mp unreferenced row (Table.mem_of_get? stored)
    simpa [different, names] using refuses
  · intro invoiceId row found
    exact named.settled invoiceId row (earlierInvoice invoiceId row found).1

/-- A request that the listener confirms names an entry that the listener has booked. -/
theorem handled_requests {bdk : Bdk Psbt Tx} (wellFormed : ChainWellFormed db)
    (named : ∀ requestId row entryId, db.paymentRequests.get? requestId = some row →
      row.resultingLedgerEntryId = some entryId → (db.ledgerEntries.get? entryId).isSome)
    (tx : DecodedTx) (ctx : TxContext) (requestId : Uuid) (row : PaymentRequestRow)
    (entryId : Uuid)
    (found : (step bdk db (.handleTx tx ctx)).paymentRequests.get? requestId = some row)
    (names : row.resultingLedgerEntryId = some entryId) :
    ((step bdk db (.handleTx tx ctx)).ledgerEntries.get? entryId).isSome := by
  revert found
  rw [step]
  apply commitOrRollback_invariant (I := fun after =>
    after.paymentRequests.get? requestId = some row → (after.ledgerEntries.get? entryId).isSome)
  · exact fun found => named requestId row entryId found names
  · intro after run found
    obtain ⟨events, run⟩ := map_fst_ok run
    obtain ⟨-, direction, postings, handled⟩ := handled_of_ok wellFormed run
    rcases handled.get?_request requestId with
      same | ⟨request, linkedId, -, -, linked, -, -, confirmed⟩
    · rw [same] at found
      obtain ⟨entry, stored⟩ :=
        Option.isSome_iff_exists.mp (named requestId row entryId found names)
      obtain ⟨chainDb, result, processed, tables⟩ := handled.processed
      rw [tables]
      change (chainDb.ledgerEntries.get? entryId).isSome = true
      rw [Table.get?_isSome_iff, processed.books.entries, List.map_append]
      apply List.mem_append_left
      exact Table.get?_isSome_iff.mp (stored ▸ rfl)
    · rw [confirmed] at found
      cases found
      cases names
      exact handled.linked_stored linked

/-- Every step keeps that named entries are stored. -/
theorem of_step {bdk : Bdk Psbt Tx} (wellFormed : ChainWellFormed db) (named : EntriesNamed db)
    (operation : Operation) : EntriesNamed (step bdk db operation) := by
  by_cases deletes : operation.Deletes
  · cases operation with
    | deleteHolding other policyIds =>
        rcases step_deleteHolding bdk db other policyIds with same | ⟨unreferenced, after⟩
        · rw [same]
          exact named
        · rw [after]
          exact named.of_deletionResult unreferenced policyIds
    | _ => exact deletes.elim
  have grows : RecordsGrow db (step bdk db operation) := .of_step wellFormed deletes
  have kept := grows.entries
  have stays : ∀ entryId, (db.ledgerEntries.get? entryId).isSome →
      ((step bdk db operation).ledgerEntries.get? entryId).isSome := by
    intro entryId stored
    obtain ⟨entry, found⟩ := Option.isSome_iff_exists.mp stored
    rw [kept entryId entry found]
    rfl
  refine ⟨?_, ?_, ?_⟩
  · intro requestId row entryId found names
    by_cases handles : ∃ tx ctx, operation = .handleTx tx ctx
    · obtain ⟨tx, ctx, rfl⟩ := handles
      exact handled_requests wellFormed named.requests tx ctx requestId row entryId found names
    · have asBefore := NamesAsBefore.of_step bdk db deletes
        (fun tx ctx same => handles ⟨tx, ctx, same⟩) requestId
      rcases asBefore row found with unnamed | ⟨before, stored, same⟩
      · cases unnamed.symm.trans names
      · exact stays entryId (named.requests requestId before entryId stored (same ▸ names))
  · intro invoiceId row entryId found names
    have move := invoiceMove_of_step bdk wellFormed deletes invoiceId
    rw [found] at move
    generalize earlier : db.invoices.get? invoiceId = before at move
    cases move with
    | kept => exact stays entryId (named.invoices invoiceId row entryId earlier names)
    | issued => cases names
    | settled waits stored =>
        cases names
        exact stored
    | cancelled => exact stays entryId (named.invoices invoiceId _ entryId earlier names)
  · intro invoiceId row found
    have move := invoiceMove_of_step bdk wellFormed deletes invoiceId
    rw [found] at move
    generalize earlier : db.invoices.get? invoiceId = before at move
    cases move with
    | kept => exact named.settled invoiceId row earlier
    | issued => exact iff_of_false Bool.false_ne_true (by rintro (same | same) <;> cases same)
    | settled waits stored overpaid => cases overpaid <;> simp [InvoiceRow.settled]
    | cancelled waits =>
        have unsettled := named.settled invoiceId _ earlier
        rw [waits] at unsettled
        refine unsettled.trans (iff_of_false ?_ ?_) <;> rintro (same | same) <;> cases same

end EntriesNamed

/-- No entry that is named is ever missing: in every reachable state the ledger entry that a
    payment request or an invoice names is stored, and an invoice names one exactly when it is PAID
    or OVERPAID. -/
theorem entriesNamed_of_reached {db : Database} (reached : Reached bdk chain db) :
    EntriesNamed db := by
  have both : Sound chain db ∧ EntriesNamed db := by
    apply reached.invariant
    · rintro db rfl
      exact ⟨.ofEmpty chain, .ofEmpty⟩
    · intro db operation db' both taken
      obtain ⟨sound, named⟩ := both
      refine ⟨sound_step db operation db' sound taken, ?_⟩
      obtain ⟨-, rfl⟩ := taken
      exact named.of_step sound.wellFormed operation
  exact both.2

/-- Where the sample payment has settled the invoice, the entry it names is stored. -/
theorem entriesNamed_of_payment : EntriesNamed (step sampleBdk (invoiceWaiting 100000)
    (.handleTx samplePayment (sampleCall none))) := by
  have taken : SystemStep sampleBdk sampleChain (invoiceWaiting 100000)
      (.handleTx samplePayment (sampleCall none)) (step sampleBdk (invoiceWaiting 100000)
        (.handleTx samplePayment (sampleCall none))) := ⟨sampleChain_payment, rfl⟩
  exact entriesNamed_of_reached ((invoiceWaiting_reached 100000).snoc taken)

end TallyKeep
