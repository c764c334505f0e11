/-
Module: TallyKeep.Proofs.SystemInvariant
Layer: Proofs
Purpose: What holds of the chain tables in every reachable state: they are well formed, and a coin
  without a height can be found again from the transaction that made it.
Trusted boundary: none
Main exports: Sound, ChainKept, ChainEffect, chainEffect_of_step, sound_step, sound_of_reached
-/
import TallyKeep.Proofs.Banking
import TallyKeep.Proofs.ChainScan
import TallyKeep.Proofs.ListenerPhase

namespace TallyKeep

open Relational Transition

/-- A watched address of the descriptor is paid by the output the coin stands for. -/
def Rediscoverable (chain : Chain) (db : Database) (outpoint : Outpoint) (row : UtxoRow) : Prop :=
  ∃ address ∈ db.addresses.rows, address.descriptorId = row.descriptorId ∧
    ∃ valueSats, (address.address, valueSats, outpoint.vout) ∈
      (chain.txOf outpoint.txid).payments

/-- The invariant of the chain tables. -/
structure Sound (chain : Chain) (db : Database) : Prop where
  wellFormed : ChainWellFormed db
  unconfirmed : ∀ outpoint row, db.coinAt outpoint = some row → row.confirmationHeight = none →
    Rediscoverable chain db outpoint row

/-! ### Steps that keep the chain tables -/

/-- Holders, addresses and coins stay, up to what the invariant does not read. -/
structure ChainKept (db db' : Database) : Prop where
  holders : ∀ descriptorId, (db.holdingOf descriptorId).isSome →
    (db'.holdingOf descriptorId).isSome
  addresses : ∀ address ∈ db.addresses.rows, ∃ address' ∈ db'.addresses.rows,
    address'.descriptorId = address.descriptorId ∧ address'.address = address.address
  ledger : LedgerWellFormed db → LedgerWellFormed db'

namespace ChainKept

variable {db db' db'' : Database}

/-- What two changes of the chain tables keep, one after the other. -/
theorem trans (first : ChainKept db db') (second : ChainKept db' db'') : ChainKept db db'' := by
  refine ⟨fun descriptorId held => second.holders _ (first.holders _ held), ?_,
    fun before => second.ledger (first.ledger before)⟩
  intro address stored
  obtain ⟨middle, stored', sameDescriptor, sameAddress⟩ := first.addresses address stored
  obtain ⟨last, stored'', sameDescriptor', sameAddress'⟩ := second.addresses middle stored'
  exact ⟨last, stored'', sameDescriptor'.trans sameDescriptor, sameAddress'.trans sameAddress⟩

theorem of_tables (sameDescriptors : db'.descriptors = db.descriptors)
    (sameAddresses : db'.addresses = db.addresses)
    (sameEntries : db'.ledgerEntries = db.ledgerEntries)
    (sameLinks : db'.ledgerLinks = db.ledgerLinks) : ChainKept db db' := by
  refine ⟨?_, ?_, ?_⟩
  · intro descriptorId held
    rw [Database.holdingOf, sameDescriptors]
    exact held
  · intro address stored
    rw [sameAddresses]
    exact ⟨address, stored, rfl, rfl⟩
  · intro before
    refine ⟨?_, ?_⟩
    · rw [sameEntries, sameLinks]
      exact before.entryOfLink
    · intro txid holdingId
      rw [linksFor, sameEntries, sameLinks]
      exact before.linkOnce txid holdingId

end ChainKept

/-- Address rows that agree up to their reuse flag. -/
theorem exists_address_of_core {db db' : Database}
    (same : db'.addresses.rows.map AddressRow.core = db.addresses.rows.map AddressRow.core) :
    ∀ address ∈ db.addresses.rows, ∃ address' ∈ db'.addresses.rows,
      address'.descriptorId = address.descriptorId ∧ address'.address = address.address := by
  intro address stored
  have listed : address.core ∈ db'.addresses.rows.map AddressRow.core := by
    rw [same]
    exact List.mem_map_of_mem stored
  obtain ⟨address', stored', sameCore⟩ := List.mem_map.mp listed
  have sameDescriptor := congrArg AddressRow.descriptorId sameCore
  have sameText := congrArg AddressRow.address sameCore
  exact ⟨address', stored', sameDescriptor, sameText⟩

/-- A coin of the second database comes from one of the first that was as unconfirmed. -/
def CoinKept (db : Database) (outpoint : Outpoint) (row' : UtxoRow) : Prop :=
  ∃ row, db.coinAt outpoint = some row ∧ row'.descriptorId = row.descriptorId ∧
    (row'.confirmationHeight = none → row.confirmationHeight = none)

/-- The holder of a coin, by what the coin table says of the coin. -/
theorem ChainWellFormed.holder {db : Database} (wellFormed : ChainWellFormed db)
    {outpoint : Outpoint} {row : UtxoRow} (found : db.coinAt outpoint = some row) :
    (db.holdingOf row.descriptorId).isSome := by
  obtain ⟨stored, here, rfl⟩ := Option.map_eq_some_iff.mp found
  exact wellFormed.holderOfCoin stored (Table.mem_of_get? here)

/-- Coins that are kept, or new with a holder and a way to find them again, keep the invariant. -/
theorem Sound.advance {chain : Chain} {db db' : Database} (sound : Sound chain db)
    (kept : ChainKept db db')
    (coins : ∀ outpoint row', db'.coinAt outpoint = some row' →
      CoinKept db outpoint row' ∨
        (db'.holdingOf row'.descriptorId).isSome ∧
          (row'.confirmationHeight = none → Rediscoverable chain db' outpoint row')) :
    Sound chain db' := by
  refine ⟨⟨?_, kept.ledger sound.wellFormed.ledger⟩, ?_⟩
  · intro row stored
    have found := Database.coinAt_of_mem stored
    rcases coins row.outpoint row.core found with ⟨before, known, same, -⟩ | ⟨held, -⟩
    · have heldBefore := sound.wellFormed.holder known
      rw [← same] at heldBefore
      exact kept.holders row.descriptorId heldBefore
    · exact held
  · intro outpoint row' found unconfirmed
    rcases coins outpoint row' found with ⟨row, known, same, heights⟩ | ⟨-, again⟩
    · obtain ⟨address, stored, sameDescriptor, valueSats, paid⟩ :=
        sound.unconfirmed outpoint row known (heights unconfirmed)
      obtain ⟨address', stored', sameDescriptor', sameAddress⟩ := kept.addresses address stored
      refine ⟨address', stored', ?_, valueSats, ?_⟩
      · rw [sameDescriptor', sameDescriptor, same]
      · rw [sameAddress]
        exact paid
    · exact again unconfirmed

/-- A coin of a table that stays is kept. -/
theorem coinKept_of_same {db db' : Database} (same : db'.utxos = db.utxos) {outpoint : Outpoint}
    {row' : UtxoRow} (found : db'.coinAt outpoint = some row') : CoinKept db outpoint row' := by
  rw [Database.coinAt, same] at found
  exact ⟨row', found, rfl, id⟩

/-- An operation that leaves the chain tables alone keeps the invariant. -/
theorem Sound.of_tables {chain : Chain} {db db' : Database} (sound : Sound chain db)
    (sameDescriptors : db'.descriptors = db.descriptors)
    (sameAddresses : db'.addresses = db.addresses) (sameUtxos : db'.utxos = db.utxos)
    (sameEntries : db'.ledgerEntries = db.ledgerEntries)
    (sameLinks : db'.ledgerLinks = db.ledgerLinks) : Sound chain db' :=
  sound.advance (.of_tables sameDescriptors sameAddresses sameEntries sameLinks)
    fun _ _ found => Or.inl (coinKept_of_same sameUtxos found)

/-! ### Registration, labels and frozen coins -/

/-- Registering addresses loses none. -/
theorem mem_registerAddresses {addresses : Table AddressRow} {address : AddressRow}
    (stored : address ∈ addresses.rows) (descriptorId : Uuid) (isChange : Bool)
    (derived : List String) :
    address ∈ (registerAddresses addresses descriptorId isChange derived).rows := by
  rw [registerAddresses]
  induction derived.zipIdx generalizing addresses with
  | nil => exact stored
  | cons head rest inductionHypothesis =>
      apply inductionHypothesis
      rw [Table.rows_insert_of_fresh (Table.get?_freshKey addresses)]
      exact List.mem_append_left _ stored

/-- Registering a descriptor keeps the chain tables, and writes no coin. -/
theorem registerDescriptor_kept {db db' : Database} {holdingId : Uuid} {spec : DescriptorSpec}
    (run : registerDescriptor db holdingId spec = .ok db') :
    ChainKept db db' ∧ db'.utxos = db.utxos := by
  simp only [registerDescriptor] at run
  split at run
  · cases run
  · split at run
    · cases run
    · cases run
      refine ⟨⟨?_, ?_, fun before => ⟨before.entryOfLink, before.linkOnce⟩⟩, rfl⟩
      · intro descriptorId held
        simp only [Database.holdingOf] at held ⊢
        rw [Table.get?_insert_of_fresh (Table.get?_freshKey db.descriptors)]
        split
        · rfl
        · exact held
      · intro address stored
        refine ⟨address, ?_, rfl, rfl⟩
        simp only
        split
        · exact mem_registerAddresses (mem_registerAddresses stored _ _ _) _ _ _
        · exact mem_registerAddresses stored _ _ _

/-- A label changes nothing of the chain tables. -/
theorem updateAddressLabel_kept (db : Database) (addressId : Uuid) (label : Option String) :
    ChainKept db (DescriptorRepo.updateAddressLabel db addressId label) := by
  refine ⟨fun _ => id, ?_, fun before => ⟨before.entryOfLink, before.linkOnce⟩⟩
  intro address stored
  refine ⟨_, List.mem_map_of_mem stored, ?_, ?_⟩ <;> split <;> rfl

/-- An invoice keeps the chain tables, and writes no coin. -/
theorem createInvoice_kept {db db' : Database} {order : InvoiceOrder}
    (run : createInvoice db order = .ok db') : ChainKept db db' ∧ db'.utxos = db.utxos := by
  rw [createInvoice, bind_ok_iff] at run
  obtain ⟨address, -, run⟩ := run
  rw [bind_ok_iff] at run
  obtain ⟨invoice, -, run⟩ := run
  cases run
  exact ⟨(updateAddressLabel_kept db address.id _).trans (.of_tables rfl rfl rfl rfl), rfl⟩

/-- The coin of every outpoint after one is frozen or thawed. -/
theorem coinAt_freeze (db : Database) (frozenAt : Outpoint) (frozen : Bool) (outpoint : Outpoint) :
    (UtxoRepo.freeze db frozenAt frozen).coinAt outpoint =
      if outpoint = frozenAt then
        (db.coinAt outpoint).map fun row => { row with isFrozen := frozen }
      else db.coinAt outpoint := by
  simp only [Database.coinAt, UtxoRepo.freeze, Table.get?_update]
  split
  · rename_i here
    rw [here, Option.map_map, Option.map_map]
    rfl
  · rfl

/-- Freezing and thawing keep what the chain says of the coins. -/
theorem Sound.freeze {chain : Chain} {db : Database} (sound : Sound chain db)
    (frozenAt : Outpoint) (frozen : Bool) :
    Sound chain (UtxoRepo.freeze db frozenAt frozen) := by
  have kept : ChainKept db (UtxoRepo.freeze db frozenAt frozen) := .of_tables rfl rfl rfl rfl
  apply sound.advance kept
  intro outpoint row' found
  rw [coinAt_freeze] at found
  apply Or.inl
  split at found
  · obtain ⟨row, known, rfl⟩ := Option.map_eq_some_iff.mp found
    exact ⟨row, known, rfl, id⟩
  · exact ⟨row', found, rfl, id⟩

/-! ### Deletion -/

/-- The holders after a deletion: the deleted holding holds nothing. -/
theorem holdingOf_deletionResult (db : Database) (holdingId : Uuid) (policyIds : List Uuid)
    (descriptorId : Uuid) :
    (deletionResult db holdingId policyIds).holdingOf descriptorId =
      if db.heldBy holdingId descriptorId then none else db.holdingOf descriptorId := by
  have after : (deletionResult db holdingId policyIds).holdingOf descriptorId =
      ((db.descriptors.get? descriptorId).filter fun row =>
        !decide (row.holdingId = holdingId)).map DescriptorRow.holdingId := by
    simp only [Database.holdingOf, deletionResult, Table.get?_delete]
  rw [after]
  by_cases own : db.holdingOf descriptorId = some holdingId
  · have held : db.heldBy holdingId descriptorId = true := decide_eq_true own
    rw [if_pos held]
    obtain ⟨row, found, same⟩ := Option.map_eq_some_iff.mp own
    simp [found, same]
  · have notHeld : db.heldBy holdingId descriptorId = false := decide_eq_false own
    rw [notHeld, if_neg Bool.false_ne_true, Database.holdingOf]
    rw [Database.holdingOf] at own
    cases found : db.descriptors.get? descriptorId with
    | none => rfl
    | some row =>
        have other : row.holdingId ≠ holdingId := by simpa [found] using own
        simp [other]

/-- The coins that a deletion leaves are coins of other holdings. -/
theorem coinAt_deletionResult {db : Database} {holdingId : Uuid} {policyIds : List Uuid}
    {outpoint : Outpoint} {row : UtxoRow}
    (found : (deletionResult db holdingId policyIds).coinAt outpoint = some row) :
    db.coinAt outpoint = some row ∧ db.heldBy holdingId row.descriptorId = false := by
  simp only [Database.coinAt, deletionResult, Table.get?_delete] at found ⊢
  cases known : db.utxos.get? outpoint with
  | none => simp [known] at found
  | some stored =>
      rw [known, Option.filter_some] at found
      split at found
      · rename_i kept
        cases found
        exact ⟨rfl, by simpa using kept⟩
      · cases found

/-- An entry that a link of another holding points to is not deleted. -/
theorem get?_entry_deletionResult {db : Database} {holdingId : Uuid} {policyIds : List Uuid}
    {link : LedgerEntryHoldingLinkRow} (stored : link ∈ db.ledgerLinks.rows)
    (other : link.holdingId ≠ holdingId) :
    (deletionResult db holdingId policyIds).ledgerEntries.get? link.ledgerEntryId =
      db.ledgerEntries.get? link.ledgerEntryId := by
  have linked : db.ledgerLinks.rows.any (fun other =>
      decide (other.ledgerEntryId = link.ledgerEntryId ∧ other.holdingId ≠ holdingId)) = true := by
    rw [List.any_eq_true]
    exact ⟨link, stored, by simpa using other⟩
  have stays : orphaned db holdingId link.ledgerEntryId = false := by
    rw [orphaned, linked]
    simp
  simp only [deletionResult, Table.get?_delete]
  cases found : db.ledgerEntries.get? link.ledgerEntryId with
  | none => rfl
  | some entry =>
      have sameId : entry.id = link.ledgerEntryId := Table.key_of_get? found
      rw [Option.filter_some, sameId, stays]
      rfl

/-- A deletion leaves a well-formed ledger. -/
theorem ledger_deletionResult {db : Database} (before : LedgerWellFormed db) (holdingId : Uuid)
    (policyIds : List Uuid) : LedgerWellFormed (deletionResult db holdingId policyIds) := by
  have keptLink : ∀ link ∈ (deletionResult db holdingId policyIds).ledgerLinks.rows,
      link ∈ db.ledgerLinks.rows ∧ link.holdingId ≠ holdingId := by
    intro link stored
    have both := List.mem_filter.mp stored
    exact ⟨both.1, by simpa using both.2⟩
  refine ⟨?_, ?_⟩
  · intro link stored
    obtain ⟨old, other⟩ := keptLink link stored
    rw [get?_entry_deletionResult old other]
    exact before.entryOfLink link old
  · intro txid other
    refine le_trans ?_ (before.linkOnce txid other)
    have samePredicate : linksFor (deletionResult db holdingId policyIds) txid other =
        (deletionResult db holdingId policyIds).ledgerLinks.rows.filter fun link =>
          decide (link.holdingId = other) &&
            (db.ledgerEntries.get? link.ledgerEntryId).any fun entry =>
              decide (entry.RecordsTx txid) := by
      apply List.filter_congr
      intro link stored
      obtain ⟨old, apart⟩ := keptLink link stored
      rw [get?_entry_deletionResult old apart]
    rw [samePredicate]
    apply List.Sublist.length_le
    exact List.filter_sublist.filter _

/-- A deletion leaves a sound database. -/
theorem Sound.deletionResult {chain : Chain} {db : Database} (sound : Sound chain db)
    (holdingId : Uuid) (policyIds : List Uuid) :
    Sound chain (TallyKeep.deletionResult db holdingId policyIds) := by
  refine ⟨⟨?_, ledger_deletionResult sound.wellFormed.ledger holdingId policyIds⟩, ?_⟩
  · intro row stored
    obtain ⟨known, other⟩ := coinAt_deletionResult (Database.coinAt_of_mem stored)
    rw [holdingOf_deletionResult]
    rw [UtxoRow.core_descriptorId] at other
    rw [other]
    have held := sound.wellFormed.holder known
    rw [UtxoRow.core_descriptorId] at held
    exact held
  · intro outpoint row found unconfirmed
    obtain ⟨known, other⟩ := coinAt_deletionResult found
    obtain ⟨address, stored, same, paid⟩ := sound.unconfirmed outpoint row known unconfirmed
    refine ⟨address, List.mem_filter.mpr ⟨stored, ?_⟩, same, paid⟩
    simp only [same, other, Bool.not_false]

/-! ### Scans -/

/-- The delivery that would book what a scan books. -/
def scanDelivery (txid : Txid) (now : Timestamp) : DecodedTx × TxContext :=
  (⟨txid, "", [], [], List.nodup_nil, List.nodup_nil, DecodedTx.noSelfSpend_nil txid⟩,
    ⟨none, none, none, now, .stored, .increasing⟩)

/-- A scan that finds no entry books one, as processing a transaction does. -/
theorem ledger_insert {db : Database} (before : LedgerWellFormed db) {txid : Txid}
    (noEntry : LedgerEntryRepo.entriesFor db txid = []) (holdingId : Uuid) (valueSats : Nat)
    (now : Timestamp) :
    LedgerWellFormed
      (LedgerEntryRepo.insert db
        ⟨db.ledgerEntries.freshKey, .incoming, valueSats, now, .onchainTransaction, txid.text⟩
        ⟨db.ledgerEntries.freshKey, holdingId, valueSats⟩) := by
  have freshEntry := Table.get?_freshKey db.ledgerEntries
  have freshLink : db.ledgerLinks.get? (db.ledgerEntries.freshKey, holdingId) = none := by
    rw [Table.get?_eq_none_iff]
    intro member
    obtain ⟨link, stored, same⟩ := List.mem_map.mp member
    have linked := before.entryOfLink link stored
    have sameEntry : link.ledgerEntryId = db.ledgerEntries.freshKey := congrArg Prod.fst same
    rw [sameEntry, freshEntry] at linked
    cases linked
  have books : Books (scanDelivery txid now).1 (scanDelivery txid now).2 .incoming db
      (LedgerEntryRepo.insert db
        ⟨db.ledgerEntries.freshKey, .incoming, valueSats, now, .onchainTransaction, txid.text⟩
        ⟨db.ledgerEntries.freshKey, holdingId, valueSats⟩)
      [⟨db.ledgerEntries.freshKey, holdingId, valueSats⟩] :=
    ⟨rfl, Table.rows_insert_of_fresh freshEntry, Table.rows_insert_of_fresh freshLink⟩
  apply books.wellFormed before
  · simp
  · intro posting member
    rw [List.mem_singleton] at member
    subst member
    rw [linksFor, Table.select, List.filter_eq_nil_iff]
    intro link stored records
    obtain ⟨entry, found⟩ := Option.isSome_iff_exists.mp (before.entryOfLink link stored)
    rw [found, Option.any_some, Bool.and_eq_true, decide_eq_true_eq, decide_eq_true_eq] at records
    have listed : entry ∈ LedgerEntryRepo.entriesFor db txid :=
      Table.mem_select.mpr ⟨Table.mem_of_get? found, decide_eq_true records.2⟩
    rw [noEntry] at listed
    cases listed

/-- A scan that finds an entry without a link of this holding adds the link. -/
theorem ledger_insertLink {db : Database} (before : LedgerWellFormed db) {txid : Txid}
    {existing : LedgerEntryRow} (only : LedgerEntryRepo.entriesFor db txid = [existing])
    {holdingId : Uuid} (unlinked : db.ledgerLinks.get? (existing.id, holdingId) = none)
    (valueSats : Nat) :
    LedgerWellFormed
      { db with ledgerLinks := db.ledgerLinks.insert ⟨existing.id, holdingId, valueSats⟩ } := by
  have member : existing ∈ LedgerEntryRepo.entriesFor db txid := by
    rw [only]
    exact List.mem_singleton_self existing
  obtain ⟨stored, records⟩ := Table.mem_select.mp member
  have records := of_decide_eq_true records
  have found : db.ledgerEntries.get? existing.id = some existing := Table.get?_of_mem stored
  have appended : (db.ledgerLinks.insert ⟨existing.id, holdingId, valueSats⟩).rows =
      db.ledgerLinks.rows ++ [⟨existing.id, holdingId, valueSats⟩] :=
    Table.rows_insert_of_fresh unlinked
  refine ⟨?_, ?_⟩
  · intro link linked
    simp only at linked ⊢
    rw [appended] at linked
    rcases List.mem_append.mp linked with old | new
    · exact before.entryOfLink link old
    · rw [List.mem_singleton] at new
      rw [new, found]
      rfl
  · intro other otherHolding
    rw [linksFor, Table.select]
    simp only
    rw [appended, List.filter_append, List.length_append]
    by_cases own : holdingId = otherHolding ∧ existing.RecordsTx other
    · -- The entry records this transaction only, and no earlier link is to it.
      have sameTx : other = txid := Txid.ext_text (own.2.2.symm.trans records.2)
      have none : (db.ledgerLinks.rows.filter fun link =>
          decide (link.holdingId = otherHolding) &&
            (db.ledgerEntries.get? link.ledgerEntryId).any fun entry =>
              decide (entry.RecordsTx other)) = [] := by
        rw [List.filter_eq_nil_iff]
        intro link linked hit
        obtain ⟨entry, entryFound⟩ :=
          Option.isSome_iff_exists.mp (before.entryOfLink link linked)
        rw [entryFound, Option.any_some, Bool.and_eq_true, decide_eq_true_eq,
          decide_eq_true_eq] at hit
        have listed : entry ∈ LedgerEntryRepo.entriesFor db txid :=
          Table.mem_select.mpr
            ⟨Table.mem_of_get? entryFound, decide_eq_true (sameTx ▸ hit.2)⟩
        rw [only, List.mem_singleton] at listed
        have sameEntry : link.ledgerEntryId = existing.id := by
          rw [← listed]
          exact (Table.key_of_get? entryFound).symm
        have present : (db.ledgerLinks.get? (existing.id, holdingId)).isSome := by
          rw [Table.get?_isSome_iff]
          refine List.mem_map.mpr ⟨link, linked, ?_⟩
          exact Prod.ext sameEntry (hit.1.trans own.1.symm)
        rw [unlinked] at present
        cases present
      rw [none, List.length_nil, Nat.zero_add]
      exact List.length_filter_le _ _
    · have noNew : ([⟨existing.id, holdingId, valueSats⟩] :
          List LedgerEntryHoldingLinkRow).filter (fun link =>
            decide (link.holdingId = otherHolding) &&
              (db.ledgerEntries.get? link.ledgerEntryId).any fun entry =>
                decide (entry.RecordsTx other)) = [] := by
        rw [List.filter_eq_nil_iff]
        intro link single hit
        rw [List.mem_singleton] at single
        subst single
        simp only [found, Option.any_some, Bool.and_eq_true, decide_eq_true_eq] at hit
        exact own hit
      rw [noNew, List.length_nil, Nat.add_zero]
      exact before.linkOnce other otherHolding

/-- The entry of a scanned coin writes the ledger only, and keeps it well-formed. -/
theorem maybeCreateLedgerEntry_kept {db db' : Database} {descriptor : DescriptorRow} {txid : Txid}
    {valueSats : Nat} {now : Timestamp}
    (run : maybeCreateLedgerEntry db descriptor txid valueSats now = .ok db') :
    db' = { db with ledgerEntries := db'.ledgerEntries, ledgerLinks := db'.ledgerLinks } ∧
      (LedgerWellFormed db → LedgerWellFormed db') := by
  rw [maybeCreateLedgerEntry, bind_ok_iff] at run
  obtain ⟨found, lookup, run⟩ := run
  obtain ⟨few, rfl⟩ := scalarOneOrNone_ok_iff.mp lookup
  cases entries : LedgerEntryRepo.entriesFor db txid with
  | nil =>
      rw [entries, List.head?_nil] at run
      simp only at run
      rw [bind_ok_iff] at run
      obtain ⟨entry, valid, run⟩ := run
      cases run
      have sameEntry : entry = ⟨db.ledgerEntries.freshKey, .incoming, valueSats, now,
          .onchainTransaction, txid.text⟩ := by
        rw [LedgerEntryRow.postInit] at valid
        split at valid
        · cases valid
        · split at valid
          · cases valid
          · split at valid
            · cases valid
            · exact (Except.ok.inj valid).symm
      subst sameEntry
      exact ⟨rfl, fun before => ledger_insert before entries _ _ _⟩
  | cons existing rest =>
      have only : LedgerEntryRepo.entriesFor db txid = [existing] := by
        rw [entries, List.length_cons] at few
        have nothing : rest = [] := List.length_eq_zero_iff.mp (by omega)
        rw [entries, nothing]
      rw [entries, List.head?_cons] at run
      simp only at run
      split at run
      · cases run
        exact ⟨rfl, id⟩
      · rename_i absent
        cases run
        refine ⟨rfl, fun before => ledger_insertLink before only ?_ _⟩
        simpa using absent

section ScanSteps

variable {chain : Chain} {db db' : Database} {node : ScanNode} {descriptor : DescriptorRow}

variable (descriptor) in
/-- What the recording of one reported coin has done. -/
structure Recorded (db : Database) (address : AddressRow) (unspent : ScanUtxo) (db' : Database) :
    Prop where
  descriptors : db'.descriptors = db.descriptors
  addresses : db'.addresses.rows.map AddressRow.core = db.addresses.rows.map AddressRow.core
  coins : ∀ outpoint, db'.coinAt outpoint =
    if outpoint = ⟨unspent.txid, unspent.vout⟩ then
      some (UtxoRow.discovered 0 descriptor.id address.id ⟨unspent.txid, unspent.vout⟩
        unspent.amountSats unspent.confirmationHeight)
    else db.coinAt outpoint
  onchainTransactions : db'.onchainTransactions =
    (OnchainRepo.upsert db unspent.txid none unspent.confirmationHeight none).onchainTransactions
  ledger : LedgerWellFormed db → LedgerWellFormed db'

/-- What recording a scanned coin does when it goes through. -/
theorem recorded_of_ok {address : AddressRow} {unspent : ScanUtxo}
    (unknown : db.utxos.get? ⟨unspent.txid, unspent.vout⟩ = none)
    (run : TallyKeep.recordUnspent node descriptor address unspent db = .ok db') :
    Recorded descriptor db address unspent db' := by
  change maybeCreateLedgerEntry (coinStage node descriptor address unspent db) descriptor
    unspent.txid unspent.amountSats node.now = .ok db' at run
  obtain ⟨tables, ledger⟩ := maybeCreateLedgerEntry_kept run
  obtain ⟨sameDescriptors, sameAddresses, sameEntries, sameLinks⟩ :=
    @coinStage_tables node descriptor address _ _ unknown
  exact
    { descriptors := (congrArg Database.descriptors tables).trans sameDescriptors
      addresses := by
        rw [tables]
        exact sameAddresses
      coins := by
        intro outpoint
        rw [← coinAt_coinStage unknown, tables]
        rfl
      onchainTransactions := by
        have same := congrArg Database.onchainTransactions tables
        rw [same, ← coinStage_onchain unknown]
      ledger := by
        intro before
        apply ledger
        refine ⟨?_, ?_⟩
        · rw [sameEntries, sameLinks]
          exact before.entryOfLink
        · intro txid holdingId
          rw [linksFor, sameEntries, sameLinks]
          exact before.linkOnce txid holdingId }

/-- Recording a scanned coin leaves the holders. -/
theorem Recorded.holdingOf {address : AddressRow} {unspent : ScanUtxo}
    (recorded : Recorded descriptor db address unspent db') : db'.holdingOf = db.holdingOf := by
  funext descriptorId
  rw [Database.holdingOf, Database.holdingOf, recorded.descriptors]

/-- Recording a scanned coin keeps the database sound. -/
theorem Sound.recordUnspent (sound : Sound chain db) {address : AddressRow} {unspent : ScanUtxo}
    (held : (db.holdingOf descriptor.id).isSome) (positive : 0 < unspent.height)
    (recorded : Recorded descriptor db address unspent db') :
    Sound chain db' ∧ (db'.holdingOf descriptor.id).isSome := by
  have heldAfter : (db'.holdingOf descriptor.id).isSome := by
    rw [recorded.holdingOf]
    exact held
  have kept : ChainKept db db' := by
    refine ⟨?_, exists_address_of_core recorded.addresses, recorded.ledger⟩
    intro descriptorId heldBefore
    rw [recorded.holdingOf]
    exact heldBefore
  refine ⟨sound.advance kept ?_, heldAfter⟩
  intro outpoint row' found
  rw [recorded.coins] at found
  split at found
  · cases found
    refine Or.inr ⟨heldAfter, fun unconfirmed => ?_⟩
    simp only [UtxoRow.discovered, ScanUtxo.confirmationHeight, if_neg positive.ne'] at unconfirmed
    cases unconfirmed
  · exact Or.inl ⟨row', found, rfl, id⟩

/-- A scan keeps the database sound, if what the node lists is confirmed. -/
theorem Sound.initialScan (sound : Sound chain db) (held : (db.holdingOf descriptor.id).isSome)
    (positive : ∀ expression result, node.scanDescriptors expression = .ok result →
      ∀ unspent ∈ result.utxos, 0 < unspent.height) {report : ScanReport}
    (run : TallyKeep.initialScan node db descriptor = .ok (db', report)) : Sound chain db' := by
  obtain ⟨scanned, height, keeps, rfl⟩ := initialScan_invariant
    (I := fun db => Sound chain db ∧ (db.holdingOf descriptor.id).isSome)
    (fun _ _ unspent _ before unknown ⟨expression, result, answer, listed⟩ recorded =>
      before.1.recordUnspent before.2 (positive expression result answer unspent listed)
        (recorded_of_ok unknown recorded)) run ⟨sound, held⟩
  have kept : ChainKept scanned
      { scanned with
        descriptors := scanned.descriptors.update descriptor.id fun row =>
          { row with lastScannedHeight := max row.lastScannedHeight height } } := by
    refine ⟨?_, fun address stored => ⟨address, stored, rfl, rfl⟩,
      fun before => ⟨before.entryOfLink, before.linkOnce⟩⟩
    intro descriptorId heldBefore
    simp only [Database.holdingOf, Table.get?_update] at heldBefore ⊢
    split
    · rename_i same
      rw [same] at heldBefore
      simpa using heldBefore
    · exact heldBefore
  exact keeps.1.advance kept fun _ _ found => Or.inl (coinKept_of_same rfl found)

end ScanSteps

/-! ### Deliveries -/

/-- A coin that a delivery leaves without a height was without one before, or is new in it. -/
theorem Processed.unconfirmed_origin {db db' : Database} {tx : DecodedTx} {ctx : TxContext}
    {result : TxProcessingResult} {direction : Direction} {postings : List Posting}
    (processed : Processed db tx ctx db' result direction postings) {outpoint : Outpoint}
    {row before : UtxoRow} (found : db'.coinAt outpoint = some row)
    (known : db.coinAt outpoint = some before) (unconfirmed : row.confirmationHeight = none) :
    before.confirmationHeight = none := by
  simp only [processed.coins, known, coinAfter, recordedAt] at found
  split at found
  · rw [Option.map_some, Option.some.injEq] at found
    rw [← found, UtxoRow.markSpent] at unconfirmed
    split at unconfirmed <;> exact unconfirmed
  · split at found
    · cases found
      exact unconfirmed
    · cases found
      simp only [DiscoveredOutput.recorded, UtxoRow.refreshHeight] at unconfirmed
      split at unconfirmed
      · rename_i stale
        exact stale.2
      · exact unconfirmed

/-- The processing of a transaction of the chain keeps the database sound. -/
theorem Sound.processed {chain : Chain} {db db' : Database} (sound : Sound chain db)
    {tx : DecodedTx} {ctx : TxContext} {result : TxProcessingResult} {direction : Direction}
    {postings : List Posting} (processed : Processed db tx ctx db' result direction postings)
    (told : tx = chain.txOf tx.txid) : Sound chain db' := by
  have after := processed.wellFormed sound.wellFormed
  have keptAddress := exists_address_of_core processed.addresses
  refine ⟨after, ?_⟩
  intro outpoint row found unconfirmed
  rcases processed.coin_origin found with ⟨before, known, sameDescriptor, -, -⟩ |
    ⟨-, output, watched, rfl, rfl⟩
  · obtain ⟨address, stored, same, valueSats, paid⟩ :=
      sound.unconfirmed outpoint before known (processed.unconfirmed_origin found known unconfirmed)
    obtain ⟨address', stored', descriptor', text'⟩ := keptAddress address stored
    refine ⟨address', stored', ?_, valueSats, ?_⟩
    · rw [descriptor', same, sameDescriptor]
    · rw [text']
      exact paid
  · obtain ⟨address, stored, -, paid, sameText, -, sameDescriptor⟩ := mem_watchedOutputs.mp watched
    obtain ⟨address', stored', descriptor', text'⟩ := keptAddress address stored
    refine ⟨address', stored', ?_, output.valueSats, ?_⟩
    · exact descriptor'.trans sameDescriptor.symm
    · rw [text', ← sameText, ← told]
      exact paid

/-- The database phase for a transaction of the chain keeps the database sound. -/
theorem Sound.handled {chain : Chain} {db db' : Database} (sound : Sound chain db)
    {tx : DecodedTx} {ctx : TxContext} {direction : Direction} {postings : List Posting}
    (handled : Handled db tx ctx db' direction postings) (told : tx = chain.txOf tx.txid) :
    Sound chain db' := by
  obtain ⟨chainDb, result, processed, tables⟩ := handled.processed
  have soundChain := sound.processed processed told
  rw [tables]
  exact soundChain.of_tables rfl rfl rfl rfl rfl

/-! ### Every operation -/

/-- The empty database is sound. -/
theorem Sound.ofEmpty (chain : Chain) : Sound chain Database.empty := by
  refine ⟨⟨?_, ?_, ?_⟩, ?_⟩
  · simp [Database.empty]
  · simp [Database.empty]
  · simp [linksFor, Table.select, Database.empty]
  · simp [Database.coinAt, Database.empty]

variable {Psbt Tx : Type}

/-- What an operation makes of the chain tables: they are kept, or it is one of the six operations
    that write them and it returned. -/
inductive ChainEffect (db : Database) : Operation → Database → Prop where
  | kept {operation : Operation} {db' : Database} (descriptors : db'.descriptors = db.descriptors)
      (addresses : db'.addresses = db.addresses) (utxos : db'.utxos = db.utxos)
      (onchainTransactions : db'.onchainTransactions = db.onchainTransactions)
      (ledgerEntries : db'.ledgerEntries = db.ledgerEntries)
      (ledgerLinks : db'.ledgerLinks = db.ledgerLinks) : ChainEffect db operation db'
  | registered {holdingId : Uuid} {spec : DescriptorSpec} {db' : Database}
      (run : registerDescriptor db holdingId spec = .ok db') :
      ChainEffect db (.registerDescriptor holdingId spec) db'
  | deleted (holdingId : Uuid) (policyIds : List Uuid) :
      ChainEffect db (.deleteHolding holdingId policyIds) (deletionResult db holdingId policyIds)
  | scanned {node : ScanNode} {descriptor : DescriptorRow} {report : ScanReport} {db' : Database}
      (found : db.descriptors.get? descriptor.id = some descriptor)
      (run : initialScan node db descriptor = .ok (db', report)) :
      ChainEffect db (.scanDescriptor node descriptor.id) db'
  | frozen (outpoint : Outpoint) (frozen : Bool) :
      ChainEffect db (.freezeUtxo outpoint frozen) (UtxoRepo.freeze db outpoint frozen)
  | invoiced {order : InvoiceOrder} {db' : Database} (run : createInvoice db order = .ok db') :
      ChainEffect db (.createInvoice order) db'
  | handled {tx : DecodedTx} {ctx : TxContext} {db' : Database} {direction : Direction}
      {postings : List Posting} (handled : Handled db tx ctx db' direction postings) :
      ChainEffect db (.handleTx tx ctx) db'

/-- What an operation makes of the chain tables, in any database: they are kept, or it is one of the
    six operations that write them and its session was committed. -/
inductive SessionEffect (db : Database) : Operation → Database → Prop where
  | kept {operation : Operation} {db' : Database} (descriptors : db'.descriptors = db.descriptors)
      (addresses : db'.addresses = db.addresses) (utxos : db'.utxos = db.utxos)
      (onchainTransactions : db'.onchainTransactions = db.onchainTransactions)
      (ledgerEntries : db'.ledgerEntries = db.ledgerEntries)
      (ledgerLinks : db'.ledgerLinks = db.ledgerLinks) : SessionEffect db operation db'
  | registered {holdingId : Uuid} {spec : DescriptorSpec} {db' : Database}
      (run : registerDescriptor db holdingId spec = .ok db') :
      SessionEffect db (.registerDescriptor holdingId spec) db'
  | deleted (holdingId : Uuid) (policyIds : List Uuid) :
      SessionEffect db (.deleteHolding holdingId policyIds) (deletionResult db holdingId policyIds)
  | scanned {node : ScanNode} {descriptor : DescriptorRow} {report : ScanReport} {db' : Database}
      (found : db.descriptors.get? descriptor.id = some descriptor)
      (run : initialScan node db descriptor = .ok (db', report)) :
      SessionEffect db (.scanDescriptor node descriptor.id) db'
  | frozen (outpoint : Outpoint) (frozen : Bool) :
      SessionEffect db (.freezeUtxo outpoint frozen) (UtxoRepo.freeze db outpoint frozen)
  | invoiced {order : InvoiceOrder} {db' : Database} (run : createInvoice db order = .ok db') :
      SessionEffect db (.createInvoice order) db'
  | handled {tx : DecodedTx} {ctx : TxContext} {db' : Database} {events : TxEvents}
      (run : handleTxDb db tx ctx = .ok (db', events)) : SessionEffect db (.handleTx tx ctx) db'

theorem SessionEffect.refl (db : Database) (operation : Operation) :
    SessionEffect db operation db := .kept rfl rfl rfl rfl rfl rfl

/-- A session that is rolled back has no effect. -/
theorem SessionEffect.of_session {db : Database} {operation : Operation}
    {out : Except PyError Database}
    (returned : ∀ db', out = .ok db' → SessionEffect db operation db') :
    SessionEffect db operation (commitOrRollback db out).1 :=
  commitOrRollback_invariant (.refl db operation) returned

/-- A deletion that goes through leaves what `deletionResult` says. -/
theorem deleteHolding_ok {db db' : Database} {holdingId : Uuid} {policyIds : List Uuid}
    (run : deleteHolding db holdingId policyIds = .ok db') :
    db' = deletionResult db holdingId policyIds := by
  rw [deleteHolding] at run
  split at run
  · cases run
  · split at run
    · cases run
    · split at run
      · cases run
      · exact (Except.ok.inj run).symm

/-- The cancellation of an invoice writes invoices only. -/
theorem cancelInvoice_tables {db db' : Database} {invoiceId : Uuid}
    (run : cancelInvoice db invoiceId = .ok db') :
    db' = { db with invoices := db'.invoices } := by
  rw [cancelInvoice] at run
  split at run
  · cases run
  · rw [InvoiceRepo.cancel] at run
    split at run
    · cases run
    · cases run
      rfl

/-- What every operation leaves of the tables, one constructor a kind of write. -/
theorem sessionEffect_of_step (bdk : Bdk Psbt Tx) (db : Database) (operation : Operation) :
    SessionEffect db operation (step bdk db operation) := by
  rw [step]
  cases operation with
  | registerHolding row => exact .kept rfl rfl rfl rfl rfl rfl
  | changeHolding holdingId holdingType purpose declaredSigningModel =>
      exact .kept rfl rfl rfl rfl rfl rfl
  | registerDescriptor holdingId spec => exact .of_session fun db' run => .registered run
  | deleteHolding holdingId policyIds =>
      apply SessionEffect.of_session
      intro db' run
      rw [deleteHolding_ok run]
      exact .deleted holdingId policyIds
  | scanDescriptor node descriptorId =>
      apply SessionEffect.of_session
      intro db' run
      rw [scanDescriptor] at run
      split at run
      · cases run
      · rename_i descriptor found
        obtain ⟨report, run⟩ := map_fst_ok run
        have sameId : descriptor.id = descriptorId := Table.key_of_get? found
        rw [← sameId] at found ⊢
        exact .scanned found run
  | freezeUtxo outpoint frozen => exact .frozen outpoint frozen
  | createSweepExecution row => exact .kept rfl rfl rfl rfl rfl rfl
  | updateSweepExecution executionId status withdrawalId expectedTxid confirmedTxid error completedAt =>
      exact .kept rfl rfl rfl rfl rfl rfl
  | linkSweepExecution requestId executionId => exact .kept rfl rfl rfl rfl rfl rfl
  | buildPaymentRequest node order now =>
      apply SessionEffect.of_session
      intro db' run
      obtain ⟨out, run⟩ := map_fst_ok run
      rcases buildPaymentRequest_ok run with ⟨rfl, -⟩ | ⟨-, _, _, -, -, rfl⟩
      · exact .refl _ _
      · exact .kept rfl rfl rfl rfl rfl rfl
  | submitSigned requestId psbtBase64 signedTransactionHex now =>
      apply SessionEffect.of_session
      intro db' run
      obtain ⟨_, _, _, _, -, -, -, rfl, -⟩ := submitSignedPaymentRequest_ok run
      exact .kept rfl rfl rfl rfl rfl rfl
  | broadcast node requestId now =>
      rcases broadcastPayment_cases bdk node db requestId now with ⟨_, _, run⟩ |
        ⟨_, _, _, _, -, -, -, -, run⟩
      · rw [run]
        exact .kept rfl rfl rfl rfl rfl rfl
      · rw [run]
        exact .kept rfl rfl rfl rfl rfl rfl
  | cancelPaymentRequest requestId now =>
      apply SessionEffect.of_session
      intro db' run
      obtain ⟨_, -, -, rfl⟩ := cancelPaymentRequest_ok run
      exact .kept rfl rfl rfl rfl rfl rfl
  | createInvoice order => exact .of_session fun db' run => .invoiced run
  | cancelInvoice invoiceId =>
      apply SessionEffect.of_session
      intro db' run
      rw [cancelInvoice_tables run]
      exact .kept rfl rfl rfl rfl rfl rfl
  | handleTx tx ctx =>
      apply SessionEffect.of_session
      intro db' run
      obtain ⟨events, run⟩ := map_fst_ok run
      exact .handled run

/-- What every operation leaves of the chain tables. -/
theorem chainEffect_of_step (bdk : Bdk Psbt Tx) {db : Database} (wellFormed : ChainWellFormed db)
    (operation : Operation) : ChainEffect db operation (step bdk db operation) := by
  have effect := sessionEffect_of_step bdk db operation
  generalize step bdk db operation = db' at effect
  cases effect with
  | kept descriptors addresses utxos onchainTransactions ledgerEntries ledgerLinks =>
      exact .kept descriptors addresses utxos onchainTransactions ledgerEntries ledgerLinks
  | registered run => exact .registered run
  | deleted holdingId policyIds => exact .deleted holdingId policyIds
  | scanned found run => exact .scanned found run
  | frozen outpoint frozen => exact .frozen outpoint frozen
  | invoiced run => exact .invoiced run
  | handled run =>
      obtain ⟨-, direction, postings, handled⟩ := handled_of_ok wellFormed run
      exact .handled handled

/-- Every operation of the program keeps the invariant. -/
theorem sound_step {bdk : Bdk Psbt Tx} {chain : Chain} (db : Database) (operation : Operation)
    (db' : Database) (sound : Sound chain db) (taken : SystemStep bdk chain db operation db') :
    Sound chain db' := by
  obtain ⟨legal, rfl⟩ := taken
  have effect := chainEffect_of_step bdk sound.wellFormed operation
  generalize step bdk db operation = db' at effect
  cases effect with
  | kept descriptors addresses utxos _ entries links =>
      exact sound.of_tables descriptors addresses utxos entries links
  | registered run =>
      obtain ⟨kept, sameCoins⟩ := registerDescriptor_kept run
      exact sound.advance kept fun _ _ found => Or.inl (coinKept_of_same sameCoins found)
  | deleted holdingId policyIds => exact sound.deletionResult holdingId policyIds
  | @scanned _ descriptor _ _ found run =>
      have held : (db.holdingOf descriptor.id).isSome := by
        rw [Database.holdingOf, found]
        rfl
      exact sound.initialScan held legal run
  | frozen outpoint frozen => exact sound.freeze outpoint frozen
  | invoiced run =>
      obtain ⟨kept, sameCoins⟩ := createInvoice_kept run
      exact sound.advance kept fun _ _ found => Or.inl (coinKept_of_same sameCoins found)
  | handled handled => exact sound.handled handled legal

/-- Every reachable state satisfies the invariant. -/
theorem sound_of_reached {bdk : Bdk Psbt Tx} {chain : Chain} {db : Database}
    (reached : Reached bdk chain db) : Sound chain db := by
  apply reached.invariant _ sound_step
  rintro db rfl
  exact Sound.ofEmpty chain

/-- Legal operations one after the other are a run. -/
theorem run_of_legal (bdk : Bdk Psbt Tx) {chain : Chain} {operations : List Operation}
    (legal : ∀ operation ∈ operations, Legal chain operation) (db : Database) :
    Run (SystemStep bdk chain) db operations (operations.foldl (step bdk) db) :=
  Run.of_guarded (step bdk) legal db

/-- Legal operations reach what they lead to. -/
theorem reached_of_legal (bdk : Bdk Psbt Tx) {chain : Chain} {operations : List Operation}
    (legal : ∀ operation ∈ operations, Legal chain operation) :
    Reached bdk chain (operations.foldl (step bdk) Database.empty) :=
  ⟨Database.empty, operations, rfl, run_of_legal bdk legal Database.empty⟩

end TallyKeep
