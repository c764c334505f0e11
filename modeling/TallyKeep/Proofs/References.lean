/-
Module: TallyKeep.Proofs.References
Layer: Proofs
Purpose: No operation leaves a reference open: in every reachable state the rows of the chain and
  banking tables refer to rows that are stored, coins lie at addresses of their own descriptors, and
  no ledger entry is without a link.
Trusted boundary: none
Main exports: Database.recordsIn, Column.ofTreasury, Referential, referential_of_reached
-/
import TallyKeep.Models.Schema
import TallyKeep.Proofs.BankingHistory
import TallyKeep.Proofs.FreshAddress
import TallyKeep.Proofs.RecordIds
import TallyKeep.Proofs.Redelivery
import TallyKeep.Proofs.ReuseFlags

namespace TallyKeep

open Relational Transition

variable {Psbt Tx : Type} {bdk : Bdk Psbt Tx} {chain : Chain}

/-! ### Rows as records -/

/-- The rows of a table as records; those of the treasury and of the custodial side are not in this
    database. -/
def Database.recordsIn (db : Database) : TableName → List Record
  | .holding => db.holdings.rows.map .holding
  | .descriptor => db.descriptors.rows.map .descriptor
  | .address => db.addresses.rows.map .address
  | .utxo => db.utxos.rows.map .utxo
  | .ledgerEntry => db.ledgerEntries.rows.map .ledgerEntry
  | .ledgerEntryHoldingLink => db.ledgerLinks.rows.map .ledgerEntryHoldingLink
  | .paymentRequest => db.paymentRequests.rows.map .paymentRequest
  | .broadcastAttempt => db.broadcastAttempts.rows.map .broadcastAttempt
  | .invoice => db.invoices.rows.map .invoice
  | .sweepExecution => db.sweepExecutions.rows.map .sweepExecution
  | _ => []

/-- The columns whose values the treasury chooses. -/
def Column.ofTreasury : Column → Bool
  | requestSweepExecution | executionPolicy => true
  | _ => false

/-- No reference is open, and nothing is left behind. -/
structure Referential (db : Database) : Prop where
  references : ∀ table, ∀ row ∈ db.recordsIn table, ∀ ref ∈ row.references,
    ref.1.ofTreasury = false → ∃ target ∈ db.recordsIn ref.1.target, target.id = ref.2
  coins : ∀ coin ∈ db.utxos.rows, AddressRowOf db coin.addressId coin.descriptorId
  entries : ∀ entry ∈ db.ledgerEntries.rows, ∃ link ∈ db.ledgerLinks.rows,
    link.ledgerEntryId = entry.id

/-- The part of it that is an invariant of its own. -/
structure Anchored (db : Database) : Prop where
  descriptors : ∀ descriptorId holdingId, db.holdingOf descriptorId = some holdingId →
    (db.holdings.get? holdingId).isSome
  links : ∀ link ∈ db.ledgerLinks.rows, (db.holdings.get? link.holdingId).isSome
  entries : ∀ entry ∈ db.ledgerEntries.rows, ∃ link ∈ db.ledgerLinks.rows,
    link.ledgerEntryId = entry.id
  requests : ∀ requestId row, db.paymentRequests.get? requestId = some row →
    (db.holdings.get? row.holdingId).isSome
  attempts : ∀ attempt ∈ db.broadcastAttempts.rows,
    (db.paymentRequests.get? attempt.paymentRequestId).isSome
  issuers : ∀ invoiceId row, db.invoices.get? invoiceId = some row →
    (db.holdings.get? row.holdingId).isSome
  reserved : ∀ invoiceId row addressId, db.invoices.get? invoiceId = some row →
    row.receivingAddressId = some addressId → (db.addresses.get? addressId).isSome

/-! ### What operations other than deletions keep -/

/-- A holding stays unless it is deleted. -/
theorem holding_kept (bdk : Bdk Psbt Tx) {db : Database} (wellFormed : ChainWellFormed db)
    {operation : Operation} (keeps : ¬operation.Deletes) {holdingId : Uuid}
    (there : (db.holdings.get? holdingId).isSome) :
    ((step bdk db operation).holdings.get? holdingId).isSome := by
  by_cases leaves : operation.LeavesRoster
  · rw [(roster_of_step bdk db leaves).1]
    exact there
  · cases operation with
    | registerHolding row =>
        obtain ⟨holding, found⟩ := Option.isSome_iff_exists.mp there
        have same := Table.get?_insert_of_get? (r := row) found
        exact Option.isSome_iff_exists.mpr ⟨holding, same⟩
    | changeHolding changed holdingType purpose declaredSigningModel =>
        simp only [step, perform, changeHolding, Table.get?_update]
        split
        · rename_i same
          rw [Option.isSome_map, ← same]
          exact there
        · exact there
    | deleteHolding deleted policyIds => exact absurd trivial keeps
    | createSweepExecution row => exact there
    | updateSweepExecution executionId status withdrawalId expectedTxid confirmedTxid error
        completedAt => exact there
    | handleTx tx ctx =>
        apply commitOrRollback_invariant (I := fun db' => (db'.holdings.get? holdingId).isSome) there
        intro db' run
        obtain ⟨events, run⟩ := map_fst_ok run
        obtain ⟨-, direction, postings, handled⟩ := handled_of_ok wellFormed run
        obtain ⟨chainDb, result, processed, tables⟩ := handled.processed
        rw [tables, processed.tables]
        exact there
    | _ => exact absurd trivial leaves

/-- A request that makes a move stays with its holding. -/
theorem RequestMove.of_some {before : PaymentRequestRow} {after : Option PaymentRequestRow}
    (move : RequestMove bdk operation (some before) after) :
    ∃ row, after = some row ∧ row.holdingId = before.holdingId := by
  cases move with
  | kept => exact ⟨before, rfl, rfl⟩
  | _ => exact ⟨_, rfl, rfl⟩

/-- A request stays unless it is deleted. -/
theorem request_kept (bdk : Bdk Psbt Tx) {db : Database} (wellFormed : ChainWellFormed db)
    {operation : Operation} (keeps : ¬operation.Deletes) {requestId : Uuid}
    (there : (db.paymentRequests.get? requestId).isSome) :
    ((step bdk db operation).paymentRequests.get? requestId).isSome := by
  obtain ⟨row, found⟩ := Option.isSome_iff_exists.mp there
  have change := requestChange_of_step bdk wellFormed operation requestId
  rw [found] at change
  cases change with
  | moved move =>
      obtain ⟨row', after, -⟩ := move.of_some
      rw [after]
      rfl
  | built builds new => cases new
  | deleted deletes gone => exact absurd deletes keeps

/-- An address stays when the watched part of the addresses does. -/
theorem address_kept_of_watched {db db' : Database}
    (same : db'.addresses.rows.map AddressRow.watched = db.addresses.rows.map AddressRow.watched)
    {addressId : Uuid} (there : (db.addresses.get? addressId).isSome) :
    (db'.addresses.get? addressId).isSome := by
  have ids : db'.addresses.rows.map AddressRow.id = db.addresses.rows.map AddressRow.id := by
    have projected := congrArg (List.map Prod.fst) same
    rw [List.map_map, List.map_map] at projected
    exact projected
  rw [Table.get?_isSome_iff] at there ⊢
  change addressId ∈ db'.addresses.rows.map AddressRow.id
  rw [ids]
  exact there

/-- An address stays unless it is deleted. -/
theorem address_kept (bdk : Bdk Psbt Tx) {db : Database} (wellFormed : ChainWellFormed db)
    {operation : Operation} (keeps : ¬operation.Deletes) {addressId : Uuid}
    (there : (db.addresses.get? addressId).isSome) :
    ((step bdk db operation).addresses.get? addressId).isSome := by
  cases operation with
  | deleteHolding deleted policyIds => exact absurd trivial keeps
  | registerDescriptor holdingId spec =>
      apply commitOrRollback_invariant (I := fun db' => (db'.addresses.get? addressId).isSome) there
      intro db' run
      have appended : ∀ address ∈ db.addresses.rows, address ∈ db'.addresses.rows := by
        intro address stored
        simp only [registerDescriptor] at run
        split at run
        · cases run
        · split at run
          · cases run
          · cases run
            simp only
            split
            · exact mem_registerAddresses (mem_registerAddresses stored _ _ _) _ _ _
            · exact mem_registerAddresses stored _ _ _
      obtain ⟨address, found⟩ := Option.isSome_iff_exists.mp there
      have stored := appended address (Table.mem_of_get? found)
      rw [← Table.key_of_get? found, Table.get?_of_mem stored]
      rfl
  | _ =>
      refine address_kept_of_watched (WatchKept.of_step wellFormed ?_).addresses there
      trivial

/-! ### The ledger -/

/-- What is added to a ledger: links to the holdings listed, and entries with their links. -/
structure LedgerGrows (db db' : Database) (holders : Uuid → Prop) : Prop where
  kept : ∀ link ∈ db.ledgerLinks.rows, link ∈ db'.ledgerLinks.rows
  links : ∀ link ∈ db'.ledgerLinks.rows, link ∈ db.ledgerLinks.rows ∨ holders link.holdingId
  entries : ∀ entry ∈ db'.ledgerEntries.rows, entry ∈ db.ledgerEntries.rows ∨
    ∃ link ∈ db'.ledgerLinks.rows, link.ledgerEntryId = entry.id

namespace LedgerGrows

variable {db db' db'' : Database} {holders : Uuid → Prop}

theorem of_same (entries : db'.ledgerEntries = db.ledgerEntries)
    (links : db'.ledgerLinks = db.ledgerLinks) : LedgerGrows db db' holders := by
  refine ⟨?_, ?_, ?_⟩
  · rw [links]
    exact fun _ => id
  · rw [links]
    exact fun _ => Or.inl
  · rw [entries]
    exact fun _ => Or.inl

/-- What two stretches add to the ledger is added by both. -/
theorem trans (first : LedgerGrows db db' holders) (second : LedgerGrows db' db'' holders) :
    LedgerGrows db db'' holders where
  kept link stored := second.kept link (first.kept link stored)
  links link stored := (second.links link stored).elim (first.links link) Or.inr
  entries entry stored := by
    rcases second.entries entry stored with earlier | linked
    · rcases first.entries entry earlier with known | ⟨link, linked, same⟩
      · exact .inl known
      · exact .inr ⟨link, second.kept link linked, same⟩
    · exact .inr linked

theorem mem_insert {table : Table LedgerEntryHoldingLinkRow}
    {row link : LedgerEntryHoldingLinkRow} (stored : link ∈ table.rows) :
    link ∈ (table.insert row).rows := by
  have found := Table.get?_insert_of_get? (r := row) (Table.get?_of_mem stored)
  exact Table.mem_of_get? found

/-- A member of a table after an insertion is an old one or the row. -/
theorem of_mem_insert {α κ : Type} [DecidableEq κ] [Keyed α κ] {table : Table α} {row member : α}
    (stored : member ∈ (table.insert row).rows) : member ∈ table.rows ∨ member = row := by
  rw [Table.insert] at stored
  split at stored
  · exact .inl stored
  · rcases List.mem_append.mp stored with old | new
    · exact .inl old
    · exact .inr (List.mem_singleton.mp new)

/-- A link that is inserted is there, or another of its key. -/
theorem exists_linked (table : Table LedgerEntryHoldingLinkRow) (row : LedgerEntryHoldingLinkRow) :
    ∃ link ∈ (table.insert row).rows, link.ledgerEntryId = row.ledgerEntryId := by
  cases found : table.get? (key row) with
  | none =>
      refine ⟨row, ?_, rfl⟩
      rw [Table.rows_insert_of_fresh found]
      exact List.mem_append_right _ (List.mem_singleton_self row)
  | some link =>
      have same := congrArg Prod.fst (Table.key_of_get? found)
      exact ⟨link, mem_insert (Table.mem_of_get? found), same⟩

/-- The ledger step of a scan links the holding of its descriptor. -/
theorem of_maybeCreateLedgerEntry {descriptor : DescriptorRow} {txid : Txid} {valueSats : Nat}
    {now : Timestamp}
    (run : TallyKeep.maybeCreateLedgerEntry db descriptor txid valueSats now = .ok db') :
    LedgerGrows db db' fun holdingId => holdingId = descriptor.holdingId := by
  rw [TallyKeep.maybeCreateLedgerEntry, bind_ok_iff] at run
  obtain ⟨found, -, run⟩ := run
  cases found with
  | none =>
      simp only [bind_ok_iff] at run
      obtain ⟨entry, valid, run⟩ := run
      cases run
      refine ⟨fun _ => mem_insert, ?_, ?_⟩
      · intro link stored
        rcases of_mem_insert stored with old | rfl
        · exact .inl old
        · exact .inr rfl
      · intro other stored
        rcases of_mem_insert stored with old | rfl
        · exact .inl old
        · right
          rw [RecordsExtended.entry_postInit_ok valid]
          exact exists_linked db.ledgerLinks _
  | some existing =>
      simp only at run
      split at run
      · cases run
        exact of_same rfl rfl
      · cases run
        refine ⟨fun _ => mem_insert, ?_, fun _ => Or.inl⟩
        intro link stored
        rcases of_mem_insert stored with old | rfl
        · exact .inl old
        · exact .inr rfl

/-- A scan adds to the ledger of the scanned holding. -/
theorem of_initialScan {node : ScanNode} {descriptor : DescriptorRow} {report : ScanReport}
    (run : initialScan node db descriptor = .ok (db', report)) :
    LedgerGrows db db' fun holdingId => holdingId = descriptor.holdingId := by
  obtain ⟨scanned, height, grown, rfl⟩ := initialScan_invariant
    (I := fun middle => LedgerGrows db middle fun holdingId => holdingId = descriptor.holdingId)
    (by
      intro middle address unspent after before unknown _ recorded
      obtain ⟨-, -, sameEntries, sameLinks⟩ :=
        @coinStage_tables node descriptor address unspent middle unknown
      exact (before.trans (of_same sameEntries sameLinks)).trans
        (of_maybeCreateLedgerEntry recorded))
    run (of_same rfl rfl)
  exact grown.trans (of_same rfl rfl)

/-- The database phase adds to the ledger of holdings with descriptors. -/
theorem of_handled {tx : DecodedTx} {ctx : TxContext} {direction : Direction}
    {postings : List Posting} (handled : Handled db tx ctx db' direction postings) :
    LedgerGrows db db' fun holdingId => ∃ descriptorId, db.holdingOf descriptorId = some holdingId := by
  obtain ⟨chainDb, result, processed, tables⟩ := handled.processed
  have links : db'.ledgerLinks.rows = db.ledgerLinks.rows ++ postings.map Posting.link := by
    rw [tables]
    exact processed.books.links
  have entries : db'.ledgerEntries.rows = db.ledgerEntries.rows ++
      postings.map fun posting => posting.entry tx ctx direction := by
    rw [tables]
    exact processed.books.entries
  refine ⟨?_, ?_, ?_⟩
  · intro link stored
    rw [links]
    exact List.mem_append_left _ stored
  · intro link stored
    rw [links] at stored
    refine (List.mem_append.mp stored).imp_right fun new => ?_
    obtain ⟨posting, listed, rfl⟩ := List.mem_map.mp new
    obtain ⟨affected, -⟩ := (processed.posted_iff posting.holdingId).mp ⟨posting, listed, rfl⟩
    rcases Finset.mem_union.mp affected with spends | receives
    · obtain ⟨row, -, held⟩ := List.mem_filterMap.mp (List.mem_toFinset.mp spends)
      exact ⟨row.descriptorId, held⟩
    · obtain ⟨found, watched, same⟩ := List.mem_map.mp (List.mem_toFinset.mp receives)
      obtain ⟨row, -, held, -⟩ := mem_watchedOutputs.mp watched
      exact ⟨row.descriptorId, held.trans (congrArg some same)⟩
  · intro entry stored
    rw [entries] at stored
    refine (List.mem_append.mp stored).imp_right fun new => ?_
    obtain ⟨posting, listed, rfl⟩ := List.mem_map.mp new
    refine ⟨posting.link, ?_, rfl⟩
    rw [links]
    exact List.mem_append_right _ (List.mem_map_of_mem listed)

end LedgerGrows

/-- Links are added for holdings of descriptors. -/
theorem ledgerGrows_of_step (bdk : Bdk Psbt Tx) {db : Database} (wellFormed : ChainWellFormed db)
    {operation : Operation} (keeps : ¬operation.Deletes) :
    LedgerGrows db (step bdk db operation) fun holdingId =>
      ∃ descriptorId, db.holdingOf descriptorId = some holdingId := by
  have effect := chainEffect_of_step bdk wellFormed operation
  generalize step bdk db operation = db' at effect
  cases effect with
  | kept _ _ _ _ entries links => exact .of_same entries links
  | registered run =>
      simp only [registerDescriptor] at run
      split at run
      · cases run
      · split at run
        · cases run
        · cases run
          exact .of_same rfl rfl
  | deleted deleted policyIds => exact absurd trivial keeps
  | @scanned _ descriptor _ _ found run =>
      have grows := LedgerGrows.of_initialScan run
      refine ⟨grows.kept, ?_, grows.entries⟩
      intro link stored
      refine (grows.links link stored).imp_right fun same => ⟨descriptor.id, ?_⟩
      rw [Database.holdingOf, found, same]
      rfl
  | frozen outpoint frozen => exact .of_same rfl rfl
  | invoiced run =>
      rw [createInvoice, bind_ok_iff] at run
      obtain ⟨address, -, run⟩ := run
      rw [bind_ok_iff] at run
      obtain ⟨invoice, -, run⟩ := run
      cases run
      exact .of_same rfl rfl
  | handled handled => exact .of_handled handled

/-! ### New references -/

/-- A descriptor has the holder it had, or is registered for a holding that is there. -/
theorem holder_of_step (bdk : Bdk Psbt Tx) {db : Database} (wellFormed : ChainWellFormed db)
    {operation : Operation} (keeps : ¬operation.Deletes) {descriptorId holdingId : Uuid}
    (held : (step bdk db operation).holdingOf descriptorId = some holdingId) :
    db.holdingOf descriptorId = some holdingId ∨ (db.holdings.get? holdingId).isSome := by
  cases operation with
  | deleteHolding deleted policyIds => exact absurd trivial keeps
  | registerDescriptor registered spec =>
      revert held
      apply commitOrRollback_invariant (I := fun db' => db'.holdingOf descriptorId = some holdingId →
        db.holdingOf descriptorId = some holdingId ∨ (db.holdings.get? holdingId).isSome) Or.inl
      intro db' run held
      simp only [registerDescriptor] at run
      split at run
      · cases run
      · rename_i there
        split at run
        · cases run
        · cases run
          simp only [Database.holdingOf] at held ⊢
          rw [Table.get?_insert_of_fresh (Table.get?_freshKey db.descriptors)] at held
          split at held
          · obtain rfl := Option.some.inj held
            exact .inr (Option.isSome_iff_ne_none.mpr there)
          · exact .inl held
  | _ =>
      left
      rw [← (WatchKept.of_step wellFormed ?_).holders]
      · exact held
      · trivial

/-- A payment is admitted for a stored holding only. -/
theorem admitPayment_holding {db : Database} {order : PaymentOrder} {admission : Admission}
    (run : admitPayment db order = .ok admission) : (db.holdings.get? order.holdingId).isSome := by
  rw [admitPayment] at run
  split at run
  · cases run
  · rename_i found
    rw [found]
    rfl

/-- A request is of the holding it was of, or is built for a holding that is there. -/
theorem request_of_step (bdk : Bdk Psbt Tx) {db : Database} (wellFormed : ChainWellFormed db)
    {operation : Operation} (keeps : ¬operation.Deletes) {requestId : Uuid} {row : PaymentRequestRow}
    (found : (step bdk db operation).paymentRequests.get? requestId = some row) :
    (∃ before, db.paymentRequests.get? requestId = some before ∧
        row.holdingId = before.holdingId) ∨ (db.holdings.get? row.holdingId).isSome := by
  have change := requestChange_of_step bdk wellFormed operation requestId
  rw [found] at change
  cases known : db.paymentRequests.get? requestId with
  | some before =>
      rw [known] at change
      cases change with
      | moved move =>
          obtain ⟨row', after, same⟩ := move.of_some
          cases after
          exact .inl ⟨before, rfl, same⟩
      | built builds new => cases new
      | deleted deletes gone => exact absurd deletes keeps
  | none =>
      right
      rw [known] at change
      cases change with
      | moved move => cases move
      | deleted deletes gone => exact absurd deletes keeps
      | built builds new =>
          cases operation with
          | buildPaymentRequest node order now =>
              revert found
              apply commitOrRollback_invariant (I := fun db' =>
                db'.paymentRequests.get? requestId = some row →
                  (db.holdings.get? row.holdingId).isSome)
              · rw [known]
                exact fun found => by cases found
              · intro db' run found
                obtain ⟨out, run⟩ := map_fst_ok run
                have composed := buildPaymentRequest_ok run
                rw [buildPaymentRequest, bind_ok_iff] at run
                obtain ⟨admission, admitted, -⟩ := run
                have there := admitPayment_holding admitted
                rcases composed with ⟨rfl, -⟩ | ⟨-, _, _, -, -, rfl⟩
                · rw [known] at found
                  cases found
                · rw [PaymentRequestRepo.insert,
                    Table.get?_insert_of_fresh (Table.get?_freshKey db.paymentRequests)] at found
                  split at found
                  · cases found
                    exact there
                  · rw [known] at found
                    cases found
          | _ => exact builds.elim

/-- An attempt of the second database: for a request of an earlier one, or of a request that is
    there. -/
def AttemptPlaced (db db' : Database) : Prop :=
  ∀ attempt ∈ db'.broadcastAttempts.rows,
    (∃ before ∈ db.broadcastAttempts.rows,
        before.paymentRequestId = attempt.paymentRequestId) ∨
      (db.paymentRequests.get? attempt.paymentRequestId).isSome

namespace AttemptPlaced

variable {db db' : Database}

theorem of_same (same : db'.broadcastAttempts = db.broadcastAttempts) : AttemptPlaced db db' := by
  intro attempt stored
  rw [same] at stored
  exact .inl ⟨attempt, stored, rfl⟩

theorem of_session {out : Except PyError Database}
    (returned : ∀ after, out = .ok after → after.broadcastAttempts = db.broadcastAttempts) :
    AttemptPlaced db (commitOrRollback db out).1 :=
  commitOrRollback_invariant (I := AttemptPlaced db) (.of_same rfl) fun after run =>
    .of_same (returned after run)

/-- An inserted attempt is placed with its request. -/
theorem of_insertBroadcastAttempt {requestId : Uuid} (there : (db.paymentRequests.get? requestId).isSome)
    (attemptId : Uuid) (transactionHex txid : String) :
    AttemptPlaced db
      (PaymentRequestRepo.insertBroadcastAttempt db attemptId requestId transactionHex txid) := by
  intro attempt stored
  rcases LedgerGrows.of_mem_insert stored with old | rfl
  · exact .inl ⟨attempt, old, rfl⟩
  · exact .inr there

/-- Updated attempts are placed where they were. -/
theorem of_updateBroadcastAttempt (placed : AttemptPlaced db db') (attemptId : Uuid)
    (status : BroadcastAttemptStatus) (reason : Option String) (now : Timestamp) :
    AttemptPlaced db
      (PaymentRequestRepo.updateBroadcastAttempt db' attemptId status reason now) := by
  intro attempt stored
  obtain ⟨before, present, rfl⟩ := List.mem_map.mp stored
  split
  · exact placed before present
  · exact placed before present

/-- A broadcast adds an attempt for the request that it sends. -/
theorem of_broadcast (bdk : Bdk Psbt Tx) (db : Database) (node : PaymentNode) (requestId : Uuid)
    (now : Timestamp) : AttemptPlaced db (step bdk db (.broadcast node requestId now)) := by
  rw [step, perform, broadcastPaymentRequest]
  cases ready : broadcastable bdk db requestId with
  | error error =>
      simp only [commitBroadcast, ite_self]
      exact .of_same rfl
  | ok sent =>
      obtain ⟨transactionHex, txid⟩ := sent
      obtain ⟨request, found, -⟩ := broadcastable_ok ready
      have there : (db.paymentRequests.get? requestId).isSome := by
        rw [found]
        rfl
      have inserted :=
        of_insertBroadcastAttempt there db.broadcastAttempts.freshKey transactionHex txid
      have tried := inserted.of_updateBroadcastAttempt db.broadcastAttempts.freshKey
      simp only
      cases node.sendRawTransaction transactionHex with
      | error error =>
          cases error with
          | rpc code message => exact tried _ _ _
          | unavailable message => exact .of_same rfl
      | ok broadcastTxid => exact tried _ _ _

/-- Only a broadcast adds attempts, for the request that it sends. -/
theorem of_step (bdk : Bdk Psbt Tx) {db : Database} (wellFormed : ChainWellFormed db)
    {operation : Operation} (keeps : ¬operation.Deletes) :
    AttemptPlaced db (step bdk db operation) := by
  rw [step]
  cases operation with
  | deleteHolding holdingId policyIds => exact absurd trivial keeps
  | registerDescriptor holdingId spec =>
      apply AttemptPlaced.of_session
      intro after run
      simp only [registerDescriptor] at run
      split at run
      · cases run
      · split at run
        · cases run
        · cases run
          rfl
  | scanDescriptor node descriptorId =>
      apply AttemptPlaced.of_session
      intro after run
      rw [scanDescriptor] at run
      split at run
      · cases run
      · obtain ⟨report, run⟩ := map_fst_ok run
        exact congrArg Prod.snd (initialScan_banking run)
  | buildPaymentRequest node order now =>
      apply AttemptPlaced.of_session
      intro after run
      obtain ⟨out, run⟩ := map_fst_ok run
      rcases buildPaymentRequest_ok run with ⟨rfl, -⟩ | ⟨-, _, _, -, -, rfl⟩
      · rfl
      · rfl
  | submitSigned requestId psbtBase64 signedTransactionHex now =>
      apply AttemptPlaced.of_session
      intro after run
      obtain ⟨_, _, _, _, -, -, -, rfl, -⟩ := submitSignedPaymentRequest_ok run
      rfl
  | broadcast node requestId now => exact of_broadcast bdk db node requestId now
  | cancelPaymentRequest requestId now =>
      apply AttemptPlaced.of_session
      intro after run
      obtain ⟨_, -, -, rfl⟩ := cancelPaymentRequest_ok run
      rfl
  | createInvoice order =>
      apply AttemptPlaced.of_session
      intro after run
      rw [createInvoice, bind_ok_iff] at run
      obtain ⟨address, -, run⟩ := run
      rw [bind_ok_iff] at run
      obtain ⟨invoice, -, run⟩ := run
      cases run
      rfl
  | cancelInvoice invoiceId =>
      apply AttemptPlaced.of_session
      intro after run
      rw [cancelInvoice_tables run]
  | handleTx tx ctx =>
      apply AttemptPlaced.of_session
      intro after run
      obtain ⟨events, run⟩ := map_fst_ok run
      obtain ⟨-, direction, postings, handled⟩ := handled_of_ok wellFormed run
      obtain ⟨chainDb, result, processed, tables⟩ := handled.processed
      rw [tables, processed.tables]
  | _ => exact .of_same rfl

end AttemptPlaced

/-- The address that is reserved is stored, and so is the holding it is reserved for. -/
theorem addressToReserve_ok {db : Database} {holdingId : Uuid} {address : AddressRow}
    (run : addressToReserve db holdingId = .ok address) :
    (db.holdings.get? holdingId).isSome ∧ address ∈ db.addresses.rows := by
  rw [addressToReserve] at run
  split at run
  · cases run
  · rename_i holding found
    refine ⟨by rw [found]; rfl, ?_⟩
    split at run
    · cases run
    · split at run
      · cases run
      · split at run
        · cases run
        · rename_i chosen
          cases run
          have listed := (List.mem_filter.mp (List.mem_of_find?_eq_some chosen)).1
          exact (Table.mem_select.mp listed).1

/-! ### The invariant -/

namespace Anchored

variable {db : Database}

/-- The empty database is anchored. -/
theorem ofEmpty : Anchored Database.empty := by
  refine ⟨?_, ?_, ?_, ?_, ?_, ?_, ?_⟩
  · intro descriptorId holdingId held
    cases held
  · intro link stored
    cases stored
  · intro entry stored
    cases stored
  · intro requestId row found
    cases found
  · intro attempt stored
    cases stored
  · intro invoiceId row found
    cases found
  · intro invoiceId row addressId found
    cases found

/-- A step that deletes nothing keeps what is anchored. -/
theorem of_step_of_not_deletes {bdk : Bdk Psbt Tx} (anchored : Anchored db)
    (wellFormed : ChainWellFormed db) {operation : Operation} (keeps : ¬operation.Deletes) :
    Anchored (step bdk db operation) where
  descriptors descriptorId holdingId held := by
    rcases holder_of_step bdk wellFormed keeps held with before | there
    · exact holding_kept bdk wellFormed keeps
        (anchored.descriptors descriptorId holdingId before)
    · exact holding_kept bdk wellFormed keeps there
  links link stored := by
    rcases (ledgerGrows_of_step bdk wellFormed keeps).links link stored with
      before | ⟨descriptorId, held⟩
    · exact holding_kept bdk wellFormed keeps (anchored.links link before)
    · exact holding_kept bdk wellFormed keeps (anchored.descriptors descriptorId _ held)
  entries entry stored := by
    have ledger := ledgerGrows_of_step bdk wellFormed keeps
    rcases ledger.entries entry stored with before | linked
    · obtain ⟨link, present, same⟩ := anchored.entries entry before
      exact ⟨link, ledger.kept link present, same⟩
    · exact linked
  requests requestId row found := by
    rcases request_of_step bdk wellFormed keeps found with ⟨before, known, same⟩ | there
    · rw [same]
      exact holding_kept bdk wellFormed keeps (anchored.requests requestId before known)
    · exact holding_kept bdk wellFormed keeps there
  attempts attempt stored := by
    rcases AttemptPlaced.of_step bdk wellFormed keeps attempt stored with
      ⟨before, present, same⟩ | there
    · rw [← same]
      exact request_kept bdk wellFormed keeps (anchored.attempts before present)
    · exact request_kept bdk wellFormed keeps there
  issuers invoiceId row found := by
    have move := invoiceMove_of_step bdk wellFormed keeps invoiceId
    rw [found] at move
    apply holding_kept bdk wellFormed keeps
    generalize earlier : db.invoices.get? invoiceId = before at move
    cases move with
    | kept => exact anchored.issuers invoiceId row earlier
    | issued reserved => exact (addressToReserve_ok reserved).1
    | @settled before => exact anchored.issuers invoiceId before earlier
    | @cancelled before => exact anchored.issuers invoiceId before earlier
  reserved invoiceId row addressId found reserves := by
    apply address_kept bdk wellFormed keeps
    have move := invoiceMove_of_step bdk wellFormed keeps invoiceId
    rw [found] at move
    generalize earlier : db.invoices.get? invoiceId = before at move
    cases move with
    | kept => exact anchored.reserved invoiceId row addressId earlier reserves
    | issued reserved =>
        cases reserves
        exact Option.isSome_iff_exists.mpr ⟨_, Table.get?_of_mem (addressToReserve_ok reserved).2⟩
    | @settled before => exact anchored.reserved invoiceId before addressId earlier reserves
    | @cancelled before => exact anchored.reserved invoiceId before addressId earlier reserves

section Deletion

variable {deleted : Uuid} (policyIds : List Uuid)

/-- Another holding is left. -/
theorem get?_holding_left {holdingId : Uuid} (there : (db.holdings.get? holdingId).isSome)
    (other : holdingId ≠ deleted) :
    ((deletionResult db deleted policyIds).holdings.get? holdingId).isSome := by
  obtain ⟨holding, found⟩ := Option.isSome_iff_exists.mp there
  have sameId : holding.id = holdingId := Table.key_of_get? found
  simp only [deletionResult, Table.get?_delete, found, Option.filter_some, sameId,
    decide_eq_false other]
  rfl

/-- A link of another holding is left. -/
theorem mem_links_left {link : LedgerEntryHoldingLinkRow} (stored : link ∈ db.ledgerLinks.rows)
    (other : link.holdingId ≠ deleted) :
    link ∈ (deletionResult db deleted policyIds).ledgerLinks.rows :=
  List.mem_filter.mpr ⟨stored, by simpa using other⟩

/-- An invoice that is left is one of another holding. -/
theorem invoice_of_left {invoiceId : Uuid} {row : InvoiceRow}
    (found : (deletionResult db deleted policyIds).invoices.get? invoiceId = some row) :
    db.invoices.get? invoiceId = some row ∧ row.holdingId ≠ deleted := by
  simp only [deletionResult, Table.get?_delete] at found
  obtain ⟨stored, other⟩ := Option.filter_eq_some_iff.mp found
  exact ⟨stored, by simpa using other⟩

/-- A request of another holding is left. -/
theorem get?_request_left {requestId : Uuid} {row : PaymentRequestRow}
    (found : db.paymentRequests.get? requestId = some row) (other : row.holdingId ≠ deleted) :
    ((deletionResult db deleted policyIds).paymentRequests.get? requestId).isSome := by
  obtain ⟨executionIds, forgotten⟩ := get?_request_deletionResult policyIds found other.symm
  rw [forgotten]
  rfl

/-- An entry that is left has a link that is left. -/
theorem linked_of_left (anchored : Anchored db) {entry : LedgerEntryRow}
    (stored : entry ∈ (deletionResult db deleted policyIds).ledgerEntries.rows) :
    ∃ link ∈ (deletionResult db deleted policyIds).ledgerLinks.rows,
      link.ledgerEntryId = entry.id := by
  obtain ⟨before, shared⟩ := List.mem_filter.mp stored
  obtain ⟨link, present, same⟩ := anchored.entries entry before
  by_cases own : link.holdingId = deleted
  · -- A candidate stays for the link of another holding.
    have candidate : entry.id ∈ candidateIds db deleted := by
      rw [← same]
      exact List.mem_map_of_mem (Table.mem_select.mpr ⟨present, decide_eq_true own⟩)
    simp only [orphaned, decide_eq_true candidate, Bool.true_and, Bool.not_not,
      List.any_eq_true] at shared
    obtain ⟨linked, there, elsewhere⟩ := shared
    obtain ⟨same, other⟩ := of_decide_eq_true elsewhere
    exact ⟨linked, mem_links_left policyIds there other, same⟩
  · exact ⟨link, mem_links_left policyIds present own, same⟩

/-- The request of an attempt that is left is left. -/
theorem request_of_attempt_left (anchored : Anchored db) {attempt : BroadcastAttemptRow}
    (stored : attempt ∈ (deletionResult db deleted policyIds).broadcastAttempts.rows) :
    ((deletionResult db deleted policyIds).paymentRequests.get?
      attempt.paymentRequestId).isSome := by
  obtain ⟨before, spared⟩ := List.mem_filter.mp stored
  obtain ⟨row, found⟩ := Option.isSome_iff_exists.mp (anchored.attempts attempt before)
  apply get?_request_left policyIds found
  intro own
  have gone : attempt.paymentRequestId ∈ (db.paymentRequests.select fun row =>
      decide (row.holdingId = deleted)).map PaymentRequestRow.id := by
    have sameId : row.id = attempt.paymentRequestId := Table.key_of_get? found
    rw [← sameId]
    exact List.mem_map_of_mem
      (Table.mem_select.mpr ⟨Table.mem_of_get? found, decide_eq_true own⟩)
  simp only [gone, decide_true, Bool.not_true] at spared
  cases spared

/-- Nothing that is left names the deleted holding. -/
theorem of_deletionResult (anchored : Anchored db)
    (free : invoiceBlocksDeletion db deleted = false) :
    Anchored (deletionResult db deleted policyIds) where
  descriptors descriptorId holdingId held := by
    rw [holdingOf_deletionResult] at held
    split at held
    · cases held
    · rename_i notHeld
      refine get?_holding_left policyIds (anchored.descriptors descriptorId holdingId held) ?_
      rintro rfl
      exact notHeld (decide_eq_true held)
  links link stored := by
    obtain ⟨before, other⟩ := List.mem_filter.mp stored
    exact get?_holding_left policyIds (anchored.links link before) (by simpa using other)
  entries _ stored := linked_of_left policyIds anchored stored
  requests requestId row found := by
    simp only [deletionResult, Table.get?_updateAll, Table.get?_delete] at found
    obtain ⟨before, left, rfl⟩ := Option.map_eq_some_iff.mp found
    obtain ⟨stored, other⟩ := Option.filter_eq_some_iff.mp left
    have apart : before.holdingId ≠ deleted := by simpa using other
    exact get?_holding_left policyIds (anchored.requests requestId before stored) apart
  attempts _ stored := request_of_attempt_left policyIds anchored stored
  issuers invoiceId row found := by
    obtain ⟨stored, other⟩ := invoice_of_left policyIds found
    exact get?_holding_left policyIds (anchored.issuers invoiceId row stored) other
  reserved invoiceId row addressId found reserves := by
    obtain ⟨stored, -⟩ := invoice_of_left policyIds found
    obtain ⟨address, there⟩ :=
      Option.isSome_iff_exists.mp (anchored.reserved invoiceId row addressId stored reserves)
    have spared : db.heldBy deleted address.descriptorId = false := by
      have unblocked := List.any_eq_false.mp free row (Table.mem_of_get? stored)
      simpa only [reserves, Option.bind_some, there, Option.any_some, Bool.not_eq_true]
        using unblocked
    simp only [deletionResult, Table.get?_delete, there, Option.filter_some, spared]
    rfl

end Deletion

/-- Every step keeps what is anchored. -/
theorem of_step {bdk : Bdk Psbt Tx} (anchored : Anchored db) (wellFormed : ChainWellFormed db)
    (operation : Operation) : Anchored (step bdk db operation) := by
  by_cases deletes : operation.Deletes
  · cases operation with
    | deleteHolding holdingId policyIds =>
        rw [step, perform, deleteHolding]
        split
        · exact anchored
        · split
          · exact anchored
          · rename_i free
            split
            · exact anchored
            · exact of_deletionResult policyIds anchored (by simpa using free)
    | _ => exact deletes.elim
  · exact anchored.of_step_of_not_deletes wellFormed deletes

end Anchored

/-! ### All references -/

/-- A row that a key finds is one of its table's records. -/
theorem exists_record {α : Type} [Keyed α Uuid] {table : Table α} {record : α → Record}
    (ids : ∀ row, (record row).id = key row) {i : Uuid} (there : (table.get? i).isSome) :
    ∃ target ∈ table.rows.map record, target.id = i := by
  obtain ⟨row, found⟩ := Option.isSome_iff_exists.mp there
  exact ⟨record row, List.mem_map_of_mem (Table.mem_of_get? found),
    (ids row).trans (Table.key_of_get? found)⟩

/-- The address of a coin is a record of the addresses. -/
theorem AddressRowOf.exists_record {db : Database} {addressId descriptorId : Uuid}
    (placed : AddressRowOf db addressId descriptorId) :
    ∃ target ∈ db.recordsIn .address, target.id = addressId := by
  obtain ⟨address, stored, same, -⟩ := placed
  exact ⟨.address address, List.mem_map_of_mem stored, same⟩

/-- The references of all tables, from the invariants that have them. -/
theorem Anchored.references {db : Database} (anchored : Anchored db) (sound : Sound chain db)
    (book : AddressBook db) (exact : ReuseExact db) (named : EntriesNamed db) (table : TableName) :
    ∀ row ∈ db.recordsIn table, ∀ ref ∈ row.references, ref.1.ofTreasury = false →
      ∃ target ∈ db.recordsIn ref.1.target, target.id = ref.2 := by
  intro row listed ref refers chosen
  have descriptorThere : ∀ descriptorId, (db.holdingOf descriptorId).isSome →
      ∃ target ∈ db.recordsIn .descriptor, target.id = descriptorId := by
    intro descriptorId held
    rw [Database.holdingOf, Option.isSome_map] at held
    exact exists_record (fun _ => rfl) held
  cases table with
  | descriptor =>
      obtain ⟨descriptor, stored, rfl⟩ := List.mem_map.mp listed
      obtain rfl := List.mem_singleton.mp refers
      have found : db.descriptors.get? descriptor.id = some descriptor := Table.get?_of_mem stored
      have held : db.holdingOf descriptor.id = some descriptor.holdingId := by
        rw [Database.holdingOf, found]
        rfl
      exact exists_record (fun _ => rfl) (anchored.descriptors _ _ held)
  | address =>
      obtain ⟨address, stored, rfl⟩ := List.mem_map.mp listed
      obtain rfl := List.mem_singleton.mp refers
      exact exists_record (fun _ => rfl) (book.holders address stored)
  | utxo =>
      obtain ⟨coin, stored, rfl⟩ := List.mem_map.mp listed
      rcases List.mem_cons.mp refers with rfl | second
      · exact descriptorThere _ (sound.wellFormed.holderOfCoin coin stored)
      · obtain rfl := List.mem_singleton.mp second
        exact (exact.placed coin stored).exists_record
  | ledgerEntryHoldingLink =>
      obtain ⟨link, stored, rfl⟩ := List.mem_map.mp listed
      rcases List.mem_cons.mp refers with rfl | second
      · exact exists_record (fun _ => rfl) (sound.wellFormed.ledger.entryOfLink link stored)
      · obtain rfl := List.mem_singleton.mp second
        exact exists_record (fun _ => rfl) (anchored.links link stored)
  | paymentRequest =>
      obtain ⟨request, stored, rfl⟩ := List.mem_map.mp listed
      have found := Table.get?_of_mem stored
      simp only [Record.references, List.mem_cons, List.mem_append, Column.mem_ref?] at refers
      rcases refers with rfl | ⟨i, names, rfl⟩ | ⟨i, names, rfl⟩
      · exact exists_record (fun _ => rfl) (anchored.requests _ request found)
      · exact exists_record (fun _ => rfl) (named.requests _ request i found names)
      · cases chosen
  | broadcastAttempt =>
      obtain ⟨attempt, stored, rfl⟩ := List.mem_map.mp listed
      obtain rfl := List.mem_singleton.mp refers
      exact exists_record (fun _ => rfl) (anchored.attempts attempt stored)
  | invoice =>
      obtain ⟨invoice, stored, rfl⟩ := List.mem_map.mp listed
      have found := Table.get?_of_mem stored
      simp only [Record.references, List.mem_cons, List.mem_append, Column.mem_ref?] at refers
      rcases refers with rfl | ⟨i, names, rfl⟩ | ⟨i, names, rfl⟩
      · exact exists_record (fun _ => rfl) (anchored.issuers _ invoice found)
      · exact exists_record (fun _ => rfl) (anchored.reserved _ invoice i found names)
      · exact exists_record (fun _ => rfl) (named.invoices _ invoice i found names)
  | sweepExecution =>
      obtain ⟨execution, stored, rfl⟩ := List.mem_map.mp listed
      obtain rfl := List.mem_singleton.mp refers
      cases chosen
  | holding =>
      obtain ⟨holding, stored, rfl⟩ := List.mem_map.mp listed
      cases refers
  | ledgerEntry =>
      obtain ⟨entry, stored, rfl⟩ := List.mem_map.mp listed
      cases refers
  | _ => cases listed

/-- What holds of every reachable state for the references to be closed. -/
structure Closed (chain : Chain) (db : Database) : Prop where
  sound : Sound chain db
  book : AddressBook db
  exact : ReuseExact db
  named : EntriesNamed db
  anchored : Anchored db

/-- Every state reached is closed under references. -/
theorem closed_of_reached {db : Database} (reached : Reached bdk chain db) : Closed chain db := by
  apply reached.invariant
  · rintro db rfl
    refine ⟨.ofEmpty chain, ⟨?_, List.nodup_nil, ?_⟩, .ofEmpty, .ofEmpty, .ofEmpty⟩
    · intro row stored
      cases stored
    · intro row stored
      cases stored
  · intro db operation db' closed taken
    have sound := sound_step db operation db' closed.sound taken
    obtain ⟨-, rfl⟩ := taken
    exact
      { sound := sound
        book := closed.book.step bdk closed.sound.wellFormed operation
        exact := ReuseExact.of_step db (.inl operation) _ closed.exact (.operation db operation)
        named := closed.named.of_step closed.sound.wellFormed operation
        anchored := closed.anchored.of_step closed.sound.wellFormed operation }

/-- What is closed satisfies the references of the schema. -/
theorem Closed.referential {db : Database} (closed : Closed chain db) : Referential db where
  references := closed.anchored.references closed.sound closed.book closed.exact closed.named
  coins := closed.exact.placed
  entries := closed.anchored.entries

/-- No reference is ever open: in every reachable state each foreign key of the chain and banking
    tables points to a stored row, every coin is at an address of its own descriptor, and every
    ledger entry is linked to a holding. -/
theorem referential_of_reached {db : Database} (reached : Reached bdk chain db) :
    Referential db :=
  (closed_of_reached reached).referential

/-- Where the transfer between the two holdings is confirmed. -/
def transferSettled : Database :=
  step sampleBdk (transferBroadcast 10 20) (.handleTx sampleTransfer (sampleCall (some 101)))

/-- The settled transfer is reached. -/
theorem transferSettled_reached : Reached sampleBdk sampleChain transferSettled := by
  have taken : SystemStep sampleBdk sampleChain (transferBroadcast 10 20)
      (.handleTx sampleTransfer (sampleCall (some 101))) transferSettled :=
    ⟨sampleChain_transfer, rfl⟩
  exact (transferBroadcast_reached 10 20).snoc taken

/-- The payer is deleted: the entries of the receiver are left, with their references. -/
theorem referential_of_transfer :
    (step sampleBdk transferSettled (.deleteHolding 10 [])).holdings.rows.length = 1 ∧
      (step sampleBdk transferSettled (.deleteHolding 10 [])).ledgerEntries.rows ≠ [] ∧
      Referential (step sampleBdk transferSettled (.deleteHolding 10 [])) := by
  have taken : SystemStep sampleBdk sampleChain transferSettled (.deleteHolding 10 [])
      (step sampleBdk transferSettled (.deleteHolding 10 [])) := ⟨trivial, rfl⟩
  refine ⟨by decide +kernel, by decide +kernel, ?_⟩
  exact referential_of_reached (transferSettled_reached.snoc taken)

end TallyKeep
