/-
Module: TallyKeep.Proofs.ChainBooking
Layer: Proofs
Purpose: The loop over the affected holdings books one entry with one link for every holding that
  needs one, and never raises on a well-formed ledger.
Trusted boundary: none
Main exports: LedgerWellFormed, LedgerAdmits, Posting, Books, NeedsEntry, holdingNet,
  createEntries_books
-/
import TallyKeep.Services.ChainProcessing

namespace TallyKeep

open Relational

/-! ### Well-formed ledgers -/

/-- Links point to entries, and a holding has at most one link per on-chain transaction. -/
structure LedgerWellFormed (db : Database) : Prop where
  entryOfLink : ∀ link ∈ db.ledgerLinks.rows,
    (db.ledgerEntries.get? link.ledgerEntryId).isSome
  linkOnce : ∀ txid holdingId, (linksFor db txid holdingId).length ≤ 1

/-- The part of it that booking one transaction relies on. -/
structure LedgerAdmits (db : Database) (txid : Txid) : Prop where
  entryOfLink : ∀ link ∈ db.ledgerLinks.rows,
    (db.ledgerEntries.get? link.ledgerEntryId).isSome
  linkOnce : ∀ holdingId, (linksFor db txid holdingId).length ≤ 1

/-- A well-formed ledger admits every transaction. -/
theorem LedgerWellFormed.admits {db : Database} (wellFormed : LedgerWellFormed db) (txid : Txid) :
    LedgerAdmits db txid :=
  ⟨wellFormed.entryOfLink, wellFormed.linkOnce txid⟩

/-! ### Postings -/

/-- A booking of the live path: one ledger entry with one link. -/
structure Posting where
  entryId : Uuid
  holdingId : Uuid
  net : Int

namespace Posting

/-- The entry row of a posting. -/
def entry (posting : Posting) (tx : DecodedTx) (ctx : TxContext) (direction : Direction) :
    LedgerEntryRow :=
  ⟨posting.entryId, direction, posting.net, ctx.blockTime.getD ctx.now, .onchainTransaction,
    tx.txid.text⟩

/-- The link row of a posting. -/
def link (posting : Posting) : LedgerEntryHoldingLinkRow :=
  ⟨posting.entryId, posting.holdingId, posting.net⟩

/-- A posted entry records its transaction. -/
theorem recordsTx_entry_iff (posting : Posting) (tx : DecodedTx) (ctx : TxContext)
    (direction : Direction) (txid : Txid) :
    (posting.entry tx ctx direction).RecordsTx txid ↔ tx.txid = txid := by
  constructor
  · rintro ⟨-, same⟩
    exact Txid.ext_text same
  · rintro rfl
    exact ⟨rfl, rfl⟩

end Posting

/-- The second database is the first with the postings appended to its ledger. -/
structure Books (tx : DecodedTx) (ctx : TxContext) (direction : Direction) (db db' : Database)
    (postings : List Posting) : Prop where
  tables : db' = { db with ledgerEntries := db'.ledgerEntries, ledgerLinks := db'.ledgerLinks }
  entries : db'.ledgerEntries.rows =
    db.ledgerEntries.rows ++ postings.map fun posting => posting.entry tx ctx direction
  links : db'.ledgerLinks.rows = db.ledgerLinks.rows ++ postings.map Posting.link

namespace Books

variable {tx : DecodedTx} {ctx : TxContext} {direction : Direction} {db db' db'' : Database}
  {postings later : List Posting}

theorem refl (tx : DecodedTx) (ctx : TxContext) (direction : Direction) (db : Database) :
    Books tx ctx direction db db [] := ⟨rfl, by simp, by simp⟩

/-- Bookings after bookings are bookings. -/
theorem trans (first : Books tx ctx direction db db' postings)
    (second : Books tx ctx direction db' db'' later) :
    Books tx ctx direction db db'' (postings ++ later) := by
  refine ⟨?_, ?_, ?_⟩
  · rw [second.tables, first.tables]
  · rw [second.entries, first.entries, List.map_append, List.append_assoc]
  · rw [second.links, first.links, List.map_append, List.append_assoc]

theorem utxos (books : Books tx ctx direction db db' postings) : db'.utxos = db.utxos := by
  rw [books.tables]

theorem descriptors (books : Books tx ctx direction db db' postings) :
    db'.descriptors = db.descriptors := by
  rw [books.tables]

theorem holdingOf (books : Books tx ctx direction db db' postings) :
    db'.holdingOf = db.holdingOf := by
  funext descriptorId
  rw [Database.holdingOf, books.descriptors, Database.holdingOf]

/-- Bookings leave what the inputs of a holding are worth. -/
theorem holdingInputValue (books : Books tx ctx direction db db' postings) (other : DecodedTx)
    (holdingId : Uuid) :
    TallyKeep.holdingInputValue db' other holdingId =
      TallyKeep.holdingInputValue db other holdingId := by
  refine congrArg List.sum (List.map_congr_left fun prevout _ => ?_)
  rw [inputValue, inputValue, books.utxos, books.holdingOf]

/-- Entries that were there are still found under their ids. -/
theorem get?_of_get? (books : Books tx ctx direction db db' postings) {entryId : Uuid}
    {entry : LedgerEntryRow} (found : db.ledgerEntries.get? entryId = some entry) :
    db'.ledgerEntries.get? entryId = some entry := by
  obtain ⟨stored, sameKey⟩ := Table.get?_eq_some_iff.mp found
  refine Table.get?_eq_some_iff.mpr ⟨?_, sameKey⟩
  rw [books.entries]
  exact List.mem_append_left _ stored

/-- The entry of a posting is found under the posting's id. -/
theorem get?_posting (books : Books tx ctx direction db db' postings) {posting : Posting}
    (member : posting ∈ postings) :
    db'.ledgerEntries.get? posting.entryId = some (posting.entry tx ctx direction) := by
  refine Table.get?_eq_some_iff.mpr ⟨?_, rfl⟩
  rw [books.entries]
  exact List.mem_append_right _ (List.mem_map_of_mem member)

/-- No entry is posted twice. -/
theorem entryIds_nodup (books : Books tx ctx direction db db' postings) :
    (postings.map Posting.entryId).Nodup := by
  have whole := db'.ledgerEntries.keysNodup
  rw [books.entries, List.map_append, List.map_map] at whole
  exact (List.nodup_append.mp whole).2.1

/-- The entries that record a transaction, after the postings. -/
theorem entriesFor (books : Books tx ctx direction db db' postings) (txid : Txid) :
    LedgerEntryRepo.entriesFor db' txid =
      LedgerEntryRepo.entriesFor db txid ++
        if tx.txid = txid then postings.map fun posting => posting.entry tx ctx direction else [] := by
  rw [LedgerEntryRepo.entriesFor, Table.select, books.entries, List.filter_append]
  congr 1
  by_cases same : tx.txid = txid
  · rw [if_pos same, List.filter_eq_self]
    intro entry member
    obtain ⟨posting, -, rfl⟩ := List.mem_map.mp member
    simpa using (posting.recordsTx_entry_iff tx ctx direction txid).mpr same
  · rw [if_neg same, List.filter_eq_nil_iff]
    intro entry member
    obtain ⟨posting, -, rfl⟩ := List.mem_map.mp member
    simpa using mt (posting.recordsTx_entry_iff tx ctx direction txid).mp same

/-- The links of a holding to entries of a transaction, after the postings. -/
theorem linksFor_of_entryOfLink (books : Books tx ctx direction db db' postings)
    (entryOfLink : ∀ link ∈ db.ledgerLinks.rows,
      (db.ledgerEntries.get? link.ledgerEntryId).isSome) (txid : Txid) (holdingId : Uuid) :
    TallyKeep.linksFor db' txid holdingId =
      TallyKeep.linksFor db txid holdingId ++
        if tx.txid = txid then
          (postings.filter fun posting => decide (posting.holdingId = holdingId)).map Posting.link
        else [] := by
  rw [TallyKeep.linksFor, Table.select, books.links, List.filter_append]
  congr 1
  · refine List.filter_congr fun link member => ?_
    obtain ⟨entry, found⟩ := Option.isSome_iff_exists.mp (entryOfLink link member)
    rw [found, books.get?_of_get? found]
  · have onPosting : ∀ posting ∈ postings,
        (decide (posting.link.holdingId = holdingId) &&
          (db'.ledgerEntries.get? posting.link.ledgerEntryId).any fun entry =>
            decide (entry.RecordsTx txid)) =
        (decide (posting.holdingId = holdingId) && decide (tx.txid = txid)) := by
      intro posting member
      have found := books.get?_posting member
      change (decide (posting.holdingId = holdingId) &&
        (db'.ledgerEntries.get? posting.entryId).any fun entry => decide (entry.RecordsTx txid)) = _
      rw [found, Option.any_some, decide_eq_decide.mpr
        (posting.recordsTx_entry_iff tx ctx direction txid)]
    rw [List.filter_map, Function.comp_def, List.filter_congr onPosting]
    by_cases same : tx.txid = txid
    · simp [same]
    · simp [same]

/-- The links of a transaction and a holding after the bookings. -/
theorem linksFor (books : Books tx ctx direction db db' postings) (wellFormed : LedgerWellFormed db)
    (txid : Txid) (holdingId : Uuid) :
    TallyKeep.linksFor db' txid holdingId =
      TallyKeep.linksFor db txid holdingId ++
        if tx.txid = txid then
          (postings.filter fun posting => decide (posting.holdingId = holdingId)).map Posting.link
        else [] :=
  books.linksFor_of_entryOfLink wellFormed.entryOfLink txid holdingId

/-- A holding's on-chain total grows by what is posted to it. -/
theorem onchainLinkTotal (books : Books tx ctx direction db db' postings)
    (wellFormed : LedgerWellFormed db) (holdingId : Uuid) :
    db'.onchainLinkTotal holdingId =
      db.onchainLinkTotal holdingId +
        (postings.map fun posting => if posting.holdingId = holdingId then posting.net else 0).sum := by
  rw [Database.onchainLinkTotal, Table.total, books.links, List.map_append, List.sum_append,
    List.map_map]
  congr 1
  · refine congrArg List.sum (List.map_congr_left fun link member => ?_)
    obtain ⟨entry, found⟩ := Option.isSome_iff_exists.mp (wellFormed.entryOfLink link member)
    rw [found, books.get?_of_get? found]
  · refine congrArg List.sum (List.map_congr_left fun posting member => ?_)
    have found := books.get?_posting member
    simp only [Function.comp_apply, Posting.link, found]
    simp [Posting.entry]

/-- Postings to distinct holdings that had no link yet leave every transaction bookable that was. -/
theorem admits (books : Books tx ctx direction db db' postings) {txid : Txid}
    (before : LedgerAdmits db txid) (distinct : (postings.map Posting.holdingId).Nodup)
    (unlinked : ∀ posting ∈ postings, TallyKeep.linksFor db tx.txid posting.holdingId = []) :
    LedgerAdmits db' txid := by
  constructor
  · intro link member
    rw [books.links] at member
    rcases List.mem_append.mp member with old | new
    · obtain ⟨entry, found⟩ := Option.isSome_iff_exists.mp (before.entryOfLink link old)
      simp [books.get?_of_get? found]
    · obtain ⟨posting, posted, rfl⟩ := List.mem_map.mp new
      simp [Posting.link, books.get?_posting posted]
  · intro holdingId
    rw [books.linksFor_of_entryOfLink before.entryOfLink]
    by_cases same : tx.txid = txid
    · subst same
      rw [if_pos rfl, List.length_append, List.length_map]
      by_cases posted : ∃ posting ∈ postings, posting.holdingId = holdingId
      · obtain ⟨posting, member, rfl⟩ := posted
        rw [unlinked posting member, List.length_nil, Nat.zero_add, ← List.countP_eq_length_filter]
        have count := List.nodup_iff_count_le_one.mp distinct posting.holdingId
        rw [List.count_eq_countP, List.countP_map] at count
        refine le_trans (List.countP_mono_left ?_) count
        intro other _ hit
        simpa using hit
      · have none : postings.filter (fun posting => decide (posting.holdingId = holdingId)) = [] := by
          rw [List.filter_eq_nil_iff]
          intro posting member hit
          exact posted ⟨posting, member, by simpa using hit⟩
        rw [none, List.length_nil, Nat.add_zero]
        exact before.linkOnce holdingId
    · rw [if_neg same, List.append_nil]
      exact before.linkOnce holdingId

/-- Such postings keep the ledger well formed. -/
theorem wellFormed (books : Books tx ctx direction db db' postings) (before : LedgerWellFormed db)
    (distinct : (postings.map Posting.holdingId).Nodup)
    (unlinked : ∀ posting ∈ postings, TallyKeep.linksFor db tx.txid posting.holdingId = []) :
    LedgerWellFormed db' :=
  ⟨(books.admits (before.admits tx.txid) distinct unlinked).entryOfLink,
    fun txid => (books.admits (before.admits txid) distinct unlinked).linkOnce⟩

end Books

/-! ### The loop -/

/-- The net amount of a holding in a transaction. -/
def holdingNet (db : Database) (tx : DecodedTx) (discovered : List DiscoveredOutput)
    (holdingId : Uuid) : Int :=
  (receivedValue discovered holdingId : Int) - holdingInputValue db tx holdingId

/-- The loop books the holding: it has no entry for the transaction and it moves some value. -/
def NeedsEntry (db : Database) (tx : DecodedTx) (discovered : List DiscoveredOutput)
    (holdingId : Uuid) : Prop :=
  linksFor db tx.txid holdingId = [] ∧
    ¬(receivedValue discovered holdingId = 0 ∧ holdingInputValue db tx holdingId = 0)

instance (db : Database) (tx : DecodedTx) (discovered : List DiscoveredOutput) (holdingId : Uuid) :
    Decidable (NeedsEntry db tx discovered holdingId) :=
  inferInstanceAs (Decidable (_ ∧ _))

/-- The sign of a net amount fits the direction that its entry is given. -/
def SignFits (direction : Direction) (net : Int) : Prop :=
  (direction = .incoming → 0 ≤ net) ∧ (direction = .outgoing → net ≤ 0)

/-- An entry whose sign fits its direction passes its checks. -/
theorem postInit_of_signFits {posting : Posting} {tx : DecodedTx} {ctx : TxContext}
    {direction : Direction} (fits : SignFits direction posting.net) :
    (posting.entry tx ctx direction).postInit = .ok (posting.entry tx ctx direction) := by
  have named : tx.txid.text ≠ "" := by
    intro blank
    have length := tx.txid.lengthEq
    rw [blank] at length
    simp at length
  rw [LedgerEntryRow.postInit, if_neg (by simpa [Posting.entry] using named), if_neg, if_neg]
  · rintro ⟨outgoing, positive⟩
    exact absurd positive (not_lt.mpr (fits.2 outgoing))
  · rintro ⟨incoming, negative⟩
    exact absurd negative (not_lt.mpr (fits.1 incoming))

section Loop

variable {tx : DecodedTx} {ctx : TxContext} {discovered : List DiscoveredOutput}
  {direction : Direction}

variable (ctx) in
/-- One round: nothing, or one posting under a new id. -/
theorem createEntry_books {acc : Database × List Uuid} {holdingId : Uuid}
    (admits : LedgerAdmits acc.1 tx.txid)
    (fits : SignFits direction (holdingNet acc.1 tx discovered holdingId)) :
    ∃ db' postings,
      createEntry tx ctx discovered direction acc holdingId =
        .ok (db', acc.2 ++ postings.map Posting.entryId) ∧
      Books tx ctx direction acc.1 db' postings ∧
      postings.map Posting.holdingId =
        [holdingId].filter (fun h => decide (NeedsEntry acc.1 tx discovered h)) ∧
      ∀ posting ∈ postings, posting.net = holdingNet acc.1 tx discovered posting.holdingId := by
  have asked : alreadyLinked acc.1 tx.txid holdingId =
      .ok (linksFor acc.1 tx.txid holdingId).head?.isSome := by
    rw [alreadyLinked, scalarOneOrNone_of_length_le (admits.linkOnce holdingId)]
    rfl
  by_cases linked : linksFor acc.1 tx.txid holdingId = []
  · by_cases still : receivedValue discovered holdingId = 0 ∧
        holdingInputValue acc.1 tx holdingId = 0
    · refine ⟨acc.1, [], ?_, Books.refl tx ctx direction acc.1, ?_, by simp⟩
      · simp [createEntry, asked, linked, still, bind, Except.bind, pure, Except.pure]
      · simp [NeedsEntry, still]
    · let posting : Posting :=
        ⟨acc.1.ledgerEntries.freshKey, holdingId, holdingNet acc.1 tx discovered holdingId⟩
      have valid : (posting.entry tx ctx direction).postInit =
          .ok (posting.entry tx ctx direction) := postInit_of_signFits fits
      have freshEntry : acc.1.ledgerEntries.get? (key (posting.entry tx ctx direction)) = none :=
        Table.get?_freshKey acc.1.ledgerEntries
      have freshLink : acc.1.ledgerLinks.get? (key posting.link) = none := by
        rw [Table.get?_eq_none_iff]
        intro member
        obtain ⟨link, stored, same⟩ := List.mem_map.mp member
        have target := admits.entryOfLink link stored
        have targetIs : link.ledgerEntryId = acc.1.ledgerEntries.freshKey :=
          congrArg Prod.fst same
        simp [targetIs] at target
      refine ⟨LedgerEntryRepo.insert acc.1 (posting.entry tx ctx direction) posting.link, [posting],
        ?_, ⟨rfl, ?_, ?_⟩, ?_, by simp [posting]⟩
      · change (do
          if ← alreadyLinked acc.1 tx.txid holdingId then return acc
          if receivedValue discovered holdingId = 0 ∧ holdingInputValue acc.1 tx holdingId = 0 then
            return acc
          let entry ← (posting.entry tx ctx direction).postInit
          return (LedgerEntryRepo.insert acc.1 entry posting.link, acc.2 ++ [posting.entryId])) = _
        rw [asked, linked, valid]
        simp [still, bind, Except.bind, pure, Except.pure]
      · exact Table.rows_insert_of_fresh freshEntry
      · exact Table.rows_insert_of_fresh freshLink
      · have needs : NeedsEntry acc.1 tx discovered holdingId := ⟨linked, still⟩
        simp [needs, posting]
  · refine ⟨acc.1, [], ?_, Books.refl tx ctx direction acc.1, ?_, by simp⟩
    · have present : (linksFor acc.1 tx.txid holdingId).head?.isSome = true := by
        cases links : linksFor acc.1 tx.txid holdingId with
        | nil => exact absurd links linked
        | cons link rest => rfl
      simp [createEntry, asked, present, bind, Except.bind, pure, Except.pure]
    · simp [NeedsEntry, linked]

/-- Postings to other holdings do not matter to a holding. -/
theorem needsEntry_of_books {db db' : Database} {postings : List Posting} {holdingId : Uuid}
    (books : Books tx ctx direction db db' postings) (admits : LedgerAdmits db tx.txid)
    (others : ∀ posting ∈ postings, posting.holdingId ≠ holdingId) :
    NeedsEntry db' tx discovered holdingId ↔ NeedsEntry db tx discovered holdingId := by
  have none : postings.filter (fun posting => decide (posting.holdingId = holdingId)) = [] := by
    rw [List.filter_eq_nil_iff]
    intro posting member
    simpa using others posting member
  rw [NeedsEntry, NeedsEntry, books.linksFor_of_entryOfLink admits.entryOfLink,
    books.holdingInputValue, none]
  simp

/-- Bookings leave the net of every holding. -/
theorem holdingNet_of_books {db db' : Database} {postings : List Posting}
    (books : Books tx ctx direction db db' postings) (holdingId : Uuid) :
    holdingNet db' tx discovered holdingId = holdingNet db tx discovered holdingId := by
  rw [holdingNet, holdingNet, books.holdingInputValue]

/-- A round posts only to its own holding, and only when that has no link. -/
private theorem posted_of_round {db : Database} {postings : List Posting} {holdingId : Uuid}
    (holders : postings.map Posting.holdingId =
      [holdingId].filter fun h => decide (NeedsEntry db tx discovered h)) :
    ∀ posting ∈ postings,
      posting.holdingId = holdingId ∧ linksFor db tx.txid posting.holdingId = [] := by
  intro posting member
  have listed := List.mem_map_of_mem (f := Posting.holdingId) member
  rw [holders, List.mem_filter, List.mem_singleton] at listed
  exact ⟨listed.1, (of_decide_eq_true listed.2).1⟩

/-- The loop from any point of it on: one posting, in order, for every holding that needs one. -/
theorem foldlM_createEntry_books (holdings : List Uuid) (distinct : holdings.Nodup)
    (acc : Database × List Uuid) (admits : LedgerAdmits acc.1 tx.txid)
    (fits : ∀ holdingId ∈ holdings,
      SignFits direction (holdingNet acc.1 tx discovered holdingId)) :
    ∃ db' postings,
      holdings.foldlM (createEntry tx ctx discovered direction) acc =
        .ok (db', acc.2 ++ postings.map Posting.entryId) ∧
      Books tx ctx direction acc.1 db' postings ∧
      postings.map Posting.holdingId =
        holdings.filter (fun h => decide (NeedsEntry acc.1 tx discovered h)) ∧
      ∀ posting ∈ postings, posting.net = holdingNet acc.1 tx discovered posting.holdingId := by
  induction holdings generalizing acc with
  | nil => exact ⟨acc.1, [], by simp [pure, Except.pure], Books.refl tx ctx direction acc.1, rfl,
      by simp⟩
  | cons head rest inductionHypothesis =>
      obtain ⟨headFresh, distinct⟩ := List.nodup_cons.mp distinct
      obtain ⟨db, first, firstRun, firstBooks, firstHolders, firstNets⟩ :=
        createEntry_books ctx admits (fits head List.mem_cons_self)
      have posted := posted_of_round firstHolders
      have admits' : LedgerAdmits db tx.txid := by
        refine firstBooks.admits admits ?_ fun posting member => (posted posting member).2
        rw [firstHolders]
        exact (List.nodup_singleton head).filter _
      obtain ⟨db', later, laterRun, laterBooks, laterHolders, laterNets⟩ :=
        inductionHypothesis distinct (db, acc.2 ++ first.map Posting.entryId) admits'
          fun holdingId member => by
            rw [holdingNet_of_books firstBooks]
            exact fits holdingId (List.mem_cons_of_mem head member)
      refine ⟨db', first ++ later, ?_, firstBooks.trans laterBooks, ?_, ?_⟩
      · rw [List.foldlM_cons, firstRun]
        simp only [bind, Except.bind]
        rw [laterRun, List.map_append, List.append_assoc]
      · rw [List.map_append, firstHolders, laterHolders]
        conv_rhs => rw [← List.singleton_append, List.filter_append]
        congr 1
        refine List.filter_congr fun holdingId member => decide_eq_decide.mpr ?_
        refine needsEntry_of_books firstBooks admits fun posting postedHere => ?_
        rw [(posted posting postedHere).1]
        rintro rfl
        exact headFresh member
      · intro posting member
        rcases List.mem_append.mp member with here | there
        · exact firstNets posting here
        · rw [laterNets posting there, holdingNet_of_books firstBooks]

variable (tx ctx discovered direction) in

/-- Every holding is booked when the ledger admits it and the signs fit. -/
theorem createEntries_books {db : Database} {holdings : List Uuid} (distinct : holdings.Nodup)
    (admits : LedgerAdmits db tx.txid)
    (fits : ∀ holdingId ∈ holdings, SignFits direction (holdingNet db tx discovered holdingId)) :
    ∃ db' postings,
      createEntries db tx ctx discovered direction holdings =
        .ok (db', postings.map Posting.entryId) ∧
      Books tx ctx direction db db' postings ∧
      postings.map Posting.holdingId =
        holdings.filter (fun h => decide (NeedsEntry db tx discovered h)) ∧
      ∀ posting ∈ postings, posting.net = holdingNet db tx discovered posting.holdingId :=
  foldlM_createEntry_books holdings distinct (db, []) admits fits

end Loop

end TallyKeep
