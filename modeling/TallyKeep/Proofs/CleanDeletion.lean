/-
Module: TallyKeep.Proofs.CleanDeletion
Layer: Proofs
Purpose: `delete_cascade` takes a holding with all that belongs to it, and leaves everything else as
  it was, exactly where the rows of others refer to the holding's in ways its statements look after.
Trusted boundary: none
Main exports: unlinked, DeletedCleanly, Deletable, deletesCleanly_iff
-/
import TallyKeep.Proofs.DeletionStatements

namespace TallyKeep

open ForeignKeys

/-- What is left of another holding's row: its nullable references to deleted rows are null. -/
def unlinked (db : LinkedStore) (holdingId : Uuid) (row : Record) : Record :=
  row.without fun column => column.nullable &&
    columnIn column (db.idsWhere column.target (belongsTo db holdingId)) row

/-- The deletion is complete and local. -/
structure DeletedCleanly (db : LinkedStore) (holdingId : Uuid) (final : LinkedStore) : Prop where
  others : final.rows =
    (db.rows.filter fun row => !belongsTo db holdingId row).map (unlinked db holdingId)
  noReferences : ∀ row ∈ final.rows, ∀ ref ∈ row.references,
    ref.2 ∉ db.idsWhere ref.1.target (belongsTo db holdingId)

/-- What `delete_cascade` takes for granted of the rows that refer to a holding's. -/
structure Deletable (db : LinkedStore) (holdingId : Uuid) : Prop where
  /-- Coins at the holding's addresses are coins of its descriptors. -/
  coins : ∀ coin, .utxo coin ∈ db.rows → coin.addressId ∈ addressIds db holdingId →
    coin.descriptorId ∈ descSubq db holdingId
  /-- No invoice reserves an address of the holding. -/
  reservations : ∀ invoice, .invoice invoice ∈ db.rows →
    ∀ addressId, invoice.receivingAddressId = some addressId → addressId ∉ addressIds db holdingId
  /-- No provider withdraws to a descriptor of the holding. -/
  whitelists : ∀ provider, .custodialProvider provider ∈ db.rows →
    ∀ descriptorId, provider.whitelistAddressDescriptorId = some descriptorId →
      descriptorId ∉ descSubq db holdingId
  /-- No invoice of another holding resulted in an entry that only the holding is linked to. -/
  results : ∀ invoice, .invoice invoice ∈ db.rows → invoice.holdingId ≠ holdingId →
    ∀ entryId, invoice.resultingLedgerEntryId = some entryId →
      linkedOnlyTo db holdingId entryId = false
  /-- A custodial entry and its provider are of one holding. -/
  mirrors : ∀ entry, .custodialLedgerEntry entry ∈ db.rows →
    (entry.holdingId = holdingId ↔ entry.custodialProviderId ∈ providerIds db holdingId)
  /-- No request of another holding resulted in an entry that both are linked to. -/
  sharedRequests : ∀ request, .paymentRequest request ∈ db.rows → request.holdingId ≠ holdingId →
    ∀ entryId, request.resultingLedgerEntryId = some entryId →
      entryId ∈ linkedEntryIds db holdingId → linkedOnlyTo db holdingId entryId = true
  /-- Nor does a custodial entry of another holding go with such an entry. -/
  sharedEntries : ∀ entry, .custodialLedgerEntry entry ∈ db.rows → entry.holdingId ≠ holdingId →
    ∀ entryId, entry.linkedChainLedgerEntryId = some entryId →
      entryId ∈ linkedEntryIds db holdingId → linkedOnlyTo db holdingId entryId = true

variable {db final : LinkedStore} {holdingId : Uuid} {row : Record}

/-! ### The restrictions, table by table -/

/-- What lets the addresses be deleted. -/
theorem unrestricted_address :
    Unrestricted db holdingId 5 .address ↔
      (∀ coin, .utxo coin ∈ db.rows → coin.addressId ∈ addressIds db holdingId →
        coin.descriptorId ∈ descSubq db holdingId) ∧
      ∀ invoice, .invoice invoice ∈ db.rows → ∀ addressId,
        invoice.receivingAddressId = some addressId → addressId ∉ addressIds db holdingId := by
  rw [Unrestricted, unrestricted_iff rfl]
  constructor
  · intro free
    constructor
    · intro coin stored leaves
      by_contra elsewhere
      exact free _ stored (keepsAt_of_stays (decide_eq_false elsewhere)) .utxoAddress rfl rfl _
        (Record.mem_utxoAddress.mpr ⟨coin, rfl, rfl⟩) leaves
    · intro invoice stored addressId reserves
      exact free _ stored (keepsAt_of_later (Nat.lt_of_sub_eq_succ rfl)) .invoiceAddress rfl rfl _
        (Record.mem_invoiceAddress.mpr ⟨invoice, rfl, reserves⟩)
  · rintro ⟨coins, reservations⟩ row stored keeps column exposed targets i refers leaves
    have exposedTo : column = .utxoAddress ∨ column = .invoiceAddress := by
      cases column <;> cases exposed <;> cases targets <;> decide
    rcases exposedTo with rfl | rfl
    · obtain ⟨coin, rfl, rfl⟩ := Record.mem_utxoAddress.mp refers
      exact of_decide_eq_false (stays_of_keepsAt (Nat.le_refl 5) keeps) (coins coin stored leaves)
    · obtain ⟨invoice, rfl, reserves⟩ := Record.mem_invoiceAddress.mp refers
      exact reservations invoice stored i reserves leaves

/-- What lets the descriptors be deleted. -/
theorem unrestricted_descriptor :
    Unrestricted db holdingId 6 .descriptor ↔
      ∀ provider, .custodialProvider provider ∈ db.rows → ∀ descriptorId,
        provider.whitelistAddressDescriptorId = some descriptorId →
          descriptorId ∉ descSubq db holdingId := by
  rw [Unrestricted, unrestricted_iff rfl]
  constructor
  · intro free provider stored descriptorId whitelists
    exact free _ stored (keepsAt_of_later (Nat.lt_of_sub_eq_succ rfl)) .providerWhitelistDescriptor
      rfl rfl _ (Record.mem_providerWhitelistDescriptor.mpr ⟨provider, rfl, whitelists⟩)
  · intro whitelists row stored _ column exposed targets i refers
    have exposedTo : column = .providerWhitelistDescriptor := by
      cases column <;> cases exposed <;> cases targets
      rfl
    subst exposedTo
    obtain ⟨provider, rfl, set⟩ := Record.mem_providerWhitelistDescriptor.mp refers
    exact whitelists provider stored i set

/-- What lets the ledger entries be deleted. -/
theorem unrestricted_ledgerEntry :
    Unrestricted db holdingId 13 .ledgerEntry ↔
      ∀ invoice, .invoice invoice ∈ db.rows → invoice.holdingId ≠ holdingId → ∀ entryId,
        invoice.resultingLedgerEntryId = some entryId →
          linkedOnlyTo db holdingId entryId = false := by
  rw [Unrestricted, unrestricted_iff rfl]
  constructor
  · intro free invoice stored other entryId results
    have kept := free _ stored (keepsAt_of_stays (decide_eq_false other)) .invoiceLedgerEntry rfl
      rfl _ (Record.mem_invoiceLedgerEntry.mpr ⟨invoice, rfl, results⟩)
    rwa [mem_goneIds_ledgerEntry, Bool.not_eq_true] at kept
  · intro results row stored keeps column exposed targets i refers leaves
    have exposedTo : column = .invoiceLedgerEntry := by
      cases column <;> cases exposed <;> cases targets
      rfl
    subst exposedTo
    obtain ⟨invoice, rfl, result⟩ := Record.mem_invoiceLedgerEntry.mp refers
    have other := of_decide_eq_false (stays_of_keepsAt (Nat.le_add_right 10 3) keeps)
    rw [mem_goneIds_ledgerEntry, results invoice stored other i result] at leaves
    cases leaves

/-- What lets the holding be deleted. -/
theorem unrestricted_holding :
    Unrestricted db holdingId 15 .holding ↔
      ∀ entry, .custodialLedgerEntry entry ∈ db.rows → entry.holdingId = holdingId →
        entry.custodialProviderId ∈ providerIds db holdingId := by
  rw [Unrestricted, unrestricted_iff rfl]
  constructor
  · intro free entry stored own
    by_contra elsewhere
    exact free _ stored (keepsAt_of_stays (decide_eq_false elsewhere)) .entryHolding rfl rfl _
      (Record.mem_entryHolding.mpr ⟨entry, rfl, own⟩) (List.mem_singleton_self holdingId)
  · intro mirrors row stored keeps column exposed targets i refers leaves
    have exposedTo : column = .entryHolding := by
      cases column <;> cases exposed <;> cases targets
      rfl
    subst exposedTo
    obtain ⟨entry, rfl, own⟩ := Record.mem_entryHolding.mp refers
    exact of_decide_eq_false (stays_of_keepsAt (Nat.le_refl 15) keeps)
      (mirrors entry stored (own.trans (List.mem_singleton.mp leaves)))

/-! ### What is left -/

/-- A row of another holding belongs with the holding's rows only by its provider. -/
theorem taken_eq_belongsTo (noEntry : row.table ≠ .custodialLedgerEntry) :
    taken db holdingId row = belongsTo db holdingId row := by
  cases row <;> first | rfl | exact absurd rfl noEntry

/-- No column points at the custodial ledger. -/
theorem column_target_ne (column : Column) : column.target ≠ .custodialLedgerEntry := by
  cases column <;> decide

/-- What belongs to the holding in a table is what the plan takes of it. -/
theorem idsWhere_belongsTo (column : Column) :
    db.idsWhere column.target (belongsTo db holdingId) =
      (deletionPlan db holdingId).gone db column.target :=
  (gone_eq column.target fun _ _ inTable =>
    taken_eq_belongsTo (inTable ▸ column_target_ne column)).symm

theorem columnIn_iff_mem {column : Column} {i : Uuid} (refers : (column, i) ∈ row.references)
    (values : List Uuid) : columnIn column values row = true ↔ i ∈ values := by
  rw [columnIn_iff]
  constructor
  · rintro ⟨i', listed, refers'⟩
    rwa [references_functional refers refers']
  · exact fun listed => ⟨i, listed, refers⟩

/-- The references that `unlinked` sets to null. -/
theorem unlinked_iff {column : Column} {i : Uuid} (stored : row ∈ db.rows)
    (refers : (column, i) ∈ row.references) :
    columnIn column (db.idsWhere column.target (belongsTo db holdingId)) row = true ↔
      i ∈ goneIds db holdingId column.target := by
  rw [columnIn_iff_mem refers, idsWhere_belongsTo, mem_gone stored refers]

/-- A reference that is not set to null is left. -/
theorem mem_references_unlinked {column : Column} {i : Uuid} (stored : row ∈ db.rows)
    (refers : (column, i) ∈ row.references)
    (stays : column.nullable = false ∨ i ∉ goneIds db holdingId column.target) :
    (column, i) ∈ (unlinked db holdingId row).references := by
  rw [unlinked, Record.references_without _ _ fun _ clears => (Bool.and_eq_true_iff.mp clears).1,
    List.mem_filter]
  refine ⟨refers, (Bool.not_eq_true' _).mpr (Bool.and_eq_false_iff.mpr ?_)⟩
  refine stays.imp_right fun kept => ?_
  rw [← Bool.not_eq_true, unlinked_iff stored refers]
  exact kept

/-- Which columns are cleared at the end. -/
theorem clearsAt_last (column : Column) (row : Record) :
    (deletionPlan db holdingId).clearsAt 16 row column =
      columnIn column (lostValues db holdingId column) row := by
  cases column <;> first
    | exact (clearsAt_of_keeps rfl row).trans (columnIn_nil _ row).symm
    | exact Bool.true_and _

/-- Which rows are kept at the end. -/
theorem keepsAt_last (row : Record) :
    (deletionPlan db holdingId).keepsAt 16 row = !taken db holdingId row := by
  have past : row.table.stage ≤ 16 := by
    cases row <;> exact Nat.le_of_ble_eq_true rfl
  rw [keepsAt_eq, decide_eq_false (Nat.not_lt.mpr past), Bool.false_or]

/-- The two accounts of a row that stays agree on its columns. -/
theorem unlinked_eq_rowAt (deletable : Deletable db holdingId) (stored : row ∈ db.rows)
    (stays : taken db holdingId row = false) :
    unlinked db holdingId row = (deletionPlan db holdingId).rowAt 16 row := by
  refine Record.without_congr _ _ row ?_
  rintro ⟨column, i⟩ refers
  rw [clearsAt_last, Bool.eq_iff_iff, Bool.and_eq_true, unlinked_iff stored refers,
    columnIn_iff_mem refers]
  -- where the statements look after a column, they clear what goes; the others never meet it
  cases column <;> first
    | exact iff_of_false (fun leaves => Bool.false_ne_true leaves.1) List.not_mem_nil
    | exact and_iff_right rfl
    | skip
  case requestLedgerEntry =>
    obtain ⟨request, rfl, result⟩ := Record.mem_requestLedgerEntry.mp refers
    rw [Column.target, mem_goneIds_ledgerEntry]
    refine (and_iff_right rfl).trans ⟨lost_of_linkedOnlyTo, ?_⟩
    exact deletable.sharedRequests request stored (of_decide_eq_false stays) i result
  case entryChainEntry =>
    obtain ⟨entry, rfl, result⟩ := Record.mem_entryChainEntry.mp refers
    rw [Column.target, mem_goneIds_ledgerEntry]
    refine (and_iff_right rfl).trans ⟨lost_of_linkedOnlyTo, ?_⟩
    have other := mt (deletable.mirrors entry stored).mp (of_decide_eq_false stays)
    exact deletable.sharedEntries entry stored other i result
  case invoiceAddress =>
    obtain ⟨invoice, rfl, reserves⟩ := Record.mem_invoiceAddress.mp refers
    exact iff_of_false (fun leaves => deletable.reservations invoice stored i reserves leaves.2)
      List.not_mem_nil
  case invoiceLedgerEntry =>
    obtain ⟨invoice, rfl, result⟩ := Record.mem_invoiceLedgerEntry.mp refers
    have kept := deletable.results invoice stored (of_decide_eq_false stays) i result
    rw [Column.target, mem_goneIds_ledgerEntry, kept]
    exact iff_of_false (fun leaves => Bool.false_ne_true leaves.2) List.not_mem_nil
  case providerWhitelistDescriptor =>
    obtain ⟨provider, rfl, set⟩ := Record.mem_providerWhitelistDescriptor.mp refers
    exact iff_of_false (fun leaves => deletable.whitelists provider stored i set leaves.2)
      List.not_mem_nil
  case healthItemHolding =>
    obtain ⟨item, rfl, ofHolding⟩ := Record.mem_healthItemHolding.mp refers
    refine iff_of_false (fun leaves => of_decide_eq_false stays ?_) List.not_mem_nil
    rw [ofHolding, List.mem_singleton.mp leaves.2]

/-- The rows that the statements leave, where the holding can be deleted. -/
theorem rows_of_deletable (deletable : Deletable db holdingId)
    (reached : (deletionPlan db holdingId).At db 16 final) :
    final.rows =
      (db.rows.filter fun row => !belongsTo db holdingId row).map (unlinked db holdingId) := by
  have sameTaken : ∀ row ∈ db.rows, taken db holdingId row = belongsTo db holdingId row := by
    intro row stored
    cases row with
    | custodialLedgerEntry entry => exact decide_eq_decide.mpr (deletable.mirrors entry stored).symm
    | _ => rfl
  have sameRows : db.rows.filter ((deletionPlan db holdingId).keepsAt 16) =
      db.rows.filter fun row => !belongsTo db holdingId row := by
    apply List.filter_congr
    intro row stored
    rw [keepsAt_last, sameTaken row stored]
  rw [reached, sameRows]
  apply List.map_congr_left
  intro row member
  obtain ⟨stored, other⟩ := List.mem_filter.mp member
  rw [Bool.not_eq_true', ← sameTaken row stored] at other
  exact (unlinked_eq_rowAt deletable stored other).symm

/-- No row of the final store refers to what was taken. -/
theorem noReferences_of_reached (reached : (deletionPlan db holdingId).At db 16 final) :
    ∀ row ∈ final.rows, ∀ ref ∈ row.references,
      ref.2 ∉ db.idsWhere ref.1.target (belongsTo db holdingId) := by
  intro row member ref refers
  have tables : ∀ table : TableName, table.stage ≤ 16 := by
    intro table
    cases table <;> decide
  rw [idsWhere_belongsTo]
  exact reached.not_referenced tables row member ref refers

/-- A reference that stays is in a row that was there, in a column that has not been set to null. -/
theorem exists_kept (clean : DeletedCleanly db holdingId final)
    (reached : (deletionPlan db holdingId).At db 16 final) {column : Column} {i : Uuid}
    (stored : row ∈ db.rows) (other : belongsTo db holdingId row = false)
    (refers : (column, i) ∈ row.references)
    (stays : column.nullable = false ∨ i ∉ goneIds db holdingId column.target) :
    ∃ row' ∈ db.rows, taken db holdingId row' = false ∧ (column, i) ∈ row'.references ∧
      i ∉ lostValues db holdingId column := by
  have left : unlinked db holdingId row ∈ final.rows := by
    rw [clean.others]
    exact List.mem_map_of_mem (List.mem_filter.mpr ⟨stored, (Bool.not_eq_true' _).mpr other⟩)
  obtain ⟨row', stored', keeps, same⟩ := reached.mem_iff.mp left
  have refers' : (column, i) ∈ schema.refs (unlinked db holdingId row) :=
    mem_references_unlinked stored refers stays
  rw [← same] at refers'
  obtain ⟨here, open'⟩ := Plan.mem_refs_rowAt.mp refers'
  rw [keepsAt_last, Bool.not_eq_true'] at keeps
  refine ⟨row', stored', keeps, here, fun lost => ?_⟩
  rw [clearsAt_last, (columnIn_iff_mem here _).mpr lost] at open'
  cases open'

/-- An entry that the holding is linked to goes wherever another holding's row refers to it. -/
theorem linkedOnlyTo_of_clean (clean : DeletedCleanly db holdingId final)
    (reached : (deletionPlan db holdingId).At db 16 final) {column : Column} {i : Uuid}
    (stored : row ∈ db.rows) (other : belongsTo db holdingId row = false)
    (refers : (column, i) ∈ row.references) (targets : column.target = .ledgerEntry)
    (lost : lostValues db holdingId column = linkedEntryIds db holdingId)
    (linked : i ∈ linkedEntryIds db holdingId) : linkedOnlyTo db holdingId i = true := by
  by_contra shared
  have stays : i ∉ goneIds db holdingId column.target := by
    rw [targets, mem_goneIds_ledgerEntry]
    exact shared
  obtain ⟨_, _, _, _, kept⟩ := exists_kept clean reached stored other refers (.inr stays)
  rw [lost] at kept
  exact kept linked

/-- A holding that nothing restricts and that is deleted cleanly is deletable. -/
theorem deletable_of_clean (restricted : (Unrestricted db holdingId 5 .address ∧
      Unrestricted db holdingId 6 .descriptor) ∧ Unrestricted db holdingId 13 .ledgerEntry ∧
        Unrestricted db holdingId 15 .holding)
    (clean : DeletedCleanly db holdingId final)
    (reached : (deletionPlan db holdingId).At db 16 final) : Deletable db holdingId := by
  obtain ⟨⟨addresses, descriptors⟩, entries, holding⟩ := restricted
  rw [unrestricted_address] at addresses
  rw [unrestricted_descriptor] at descriptors
  rw [unrestricted_ledgerEntry] at entries
  rw [unrestricted_holding] at holding
  refine ⟨addresses.1, addresses.2, descriptors, entries, ?_, ?_, ?_⟩
  · intro entry stored
    refine ⟨holding entry stored, fun ofProvider => ?_⟩
    by_contra other
    obtain ⟨row', _, stays, refers, _⟩ := exists_kept clean reached stored (decide_eq_false other)
      (Record.mem_entryProvider.mpr ⟨entry, rfl, rfl⟩) (.inl rfl)
    obtain ⟨entry', rfl, same⟩ := Record.mem_entryProvider.mp refers
    exact of_decide_eq_false stays (same ▸ ofProvider)
  · intro request stored other entryId result
    exact linkedOnlyTo_of_clean clean reached stored (decide_eq_false other)
      (Record.mem_requestLedgerEntry.mpr ⟨request, rfl, result⟩) rfl rfl
  · intro entry stored other entryId result
    exact linkedOnlyTo_of_clean clean reached stored (decide_eq_false other)
      (Record.mem_entryChainEntry.mpr ⟨entry, rfl, result⟩) rfl rfl

/-- Deleting a holding that exists is legal, complete and local exactly where it can be deleted. -/
theorem deletesCleanly_iff (db : LinkedStore) (holding : HoldingRow)
    (present : .holding holding ∈ db.rows) :
    (∃ final, deleteCascade db holding.id = .ok (final, true) ∧
        DeletedCleanly db holding.id final) ↔
      Deletable db holding.id := by
  have found : db.idsWhere .holding (fun row => decide (row.id = holding.id)) ≠ [] :=
    List.ne_nil_of_mem (Store.mem_idsWhere.mpr
      ⟨.holding holding, present, rfl, decide_eq_true rfl, rfl⟩)
  have started : (deletionPlan db holding.id).At db 0 db := by
    apply Plan.at_zero
    · intro table
      cases table <;> exact Nat.zero_lt_succ _
    · intro column
      cases column <;> exact Nat.zero_lt_succ _
  have runs := @runs_deleteRows db holding.id
  have returns := runs.returns_iff db started
  rw [deleteCascade, if_neg found]
  constructor
  · rintro ⟨final, run, clean⟩
    cases deleted : deleteRows holding.id db with
    | error raised =>
        rw [deleted] at run
        cases run
    | ok left =>
        rw [deleted] at run
        cases run
        exact deletable_of_clean (returns.mp ⟨_, deleted⟩) clean
          (runs.reaches db started _ deleted)
  · intro deletable
    have restricted := returns.mpr ⟨⟨unrestricted_address.mpr
        ⟨deletable.coins, deletable.reservations⟩, unrestricted_descriptor.mpr deletable.whitelists⟩,
      unrestricted_ledgerEntry.mpr deletable.results,
      unrestricted_holding.mpr fun entry stored => (deletable.mirrors entry stored).mp⟩
    obtain ⟨final, deleted⟩ := restricted
    have reached := runs.reaches db started final deleted
    refine ⟨final, ?_, rows_of_deletable deletable reached, noReferences_of_reached reached⟩
    rw [deleted]
    rfl

/-! ### A purse with a request and an invoice -/

def samplePurse : HoldingRow := ⟨1, .purse, .spending, .softwareHot⟩

/-- The rows of a purse with one address, a paid request and an invoice; the invoice reserves the
    address, or none. -/
def purseRecords (reserves : Bool) : List Record :=
  [.holding samplePurse,
    .descriptor ⟨10, 1, "wpkh(xpub)", none, .signet, .nativeSegwit, 20, 0⟩,
    .address ⟨20, 10, "tb1q", false, 0, none, none, false⟩,
    .ledgerEntry ⟨60, .outgoing, -5, 0, .onchainTransaction, "aa"⟩,
    .ledgerEntryHoldingLink ⟨60, 1, -5⟩,
    .paymentRequest ⟨90, 1, .onchain, some 5, none, .confirmed, 0, some "tb1p", none, none, none,
      some "aa", some 60, none⟩,
    .broadcastAttempt ⟨91, 90, "00", "aa", .accepted, none, some 0⟩,
    .invoice ⟨80, 1, .onchain, some 7, none, .open, none, if reserves then some 20 else none, none,
      none⟩]

/-- A database with one purse. -/
def purseStore (reserves : Bool) : LinkedStore where
  rows := purseRecords reserves
  primaryKeys := primaryKeys_of_nodup (by cases reserves <;> decide)
  foreignKeys := by cases reserves <;> decide

theorem deletesCleanly_iff_purse :
    ∃ final, deleteCascade (purseStore false) 1 = .ok (final, true) ∧
      DeletedCleanly (purseStore false) 1 final := by
  apply (deletesCleanly_iff (purseStore false) samplePurse List.mem_cons_self).mpr
  refine ⟨?_, ?_, ?_, ?_, ?_, ?_, ?_⟩
  · intro coin stored
    simp [purseStore, purseRecords] at stored
  · intro invoice stored addressId reserves
    simp [purseStore, purseRecords] at stored
    simp [stored] at reserves
  · intro provider stored
    simp [purseStore, purseRecords] at stored
  · intro invoice stored other
    simp [purseStore, purseRecords] at stored
    simp [stored, samplePurse] at other
  · intro entry stored
    simp [purseStore, purseRecords] at stored
  · intro request stored other
    simp [purseStore, purseRecords] at stored
    simp [stored, samplePurse] at other
  · intro entry stored
    simp [purseStore, purseRecords] at stored

/-- An invoice that reserves an address of its holding: the address cannot be deleted. -/
theorem not_deletedCleanly_of_invoice :
    .holding samplePurse ∈ (purseStore true).rows ∧
      ¬∃ final, deleteCascade (purseStore true) 1 = .ok (final, true) ∧
        DeletedCleanly (purseStore true) 1 final := by
  refine ⟨List.mem_cons_self, ?_⟩
  rintro ⟨final, run, -⟩
  have raised : (deleteCascade (purseStore true) 1).toBool = false := by decide
  rw [run] at raised
  cases raised

end TallyKeep
