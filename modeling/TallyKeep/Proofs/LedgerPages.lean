/-
Module: TallyKeep.Proofs.LedgerPages
Layer: Proofs
Purpose: The specification of the ledger feed: which items of a page become entries, and what a cycle
  that succeeds mirrors and publishes of them.
Trusted boundary: none
Main exports: Kraken.MaterialisedIn, Kraken.IsNewest, Kraken.scanned_scanPage, Kraken.PageRead,
  ObservedCycle.page_of_fetched, ObservedCycle.mirrored_of_entry, ObservedCycle.published
-/
import TallyKeep.Proofs.PollCycles

namespace TallyKeep

open Relational

namespace Kraken

/-! ### Which items become entries -/

/-- The item is in BTC, and no trade with the refid of an earlier BTC item. -/
structure Materialises (earlier : List RawLedgerItem) (item : RawLedgerItem) : Prop where
  btc : item.isBtc = true
  first : item.kind = .trade → ∀ other ∈ earlier, other.isBtc = true → other.refid ≠ item.refid

/-- The item materialises at some place of the page. -/
def MaterialisedIn (page : List RawLedgerItem) (item : RawLedgerItem) : Prop :=
  ∃ before after, page = before ++ item :: after ∧ Materialises before item

theorem MaterialisedIn.mem {page : List RawLedgerItem} {item : RawLedgerItem}
    (materialised : MaterialisedIn page item) : item ∈ page := by
  obtain ⟨before, after, rfl, -⟩ := materialised
  simp

theorem MaterialisedIn.btc {page : List RawLedgerItem} {item : RawLedgerItem}
    (materialised : MaterialisedIn page item) : item.isBtc = true := by
  obtain ⟨_, _, _, materialises⟩ := materialised
  exact materialises.btc

/-- Only a trade can be passed over. -/
theorem materialisedIn_of_not_trade {page : List RawLedgerItem} {item : RawLedgerItem}
    (member : item ∈ page) (btc : item.isBtc = true) (other : item.kind ≠ .trade) :
    MaterialisedIn page item := by
  obtain ⟨before, after, split⟩ := List.append_of_mem member
  exact ⟨before, after, split, btc, fun trade => absurd trade other⟩

/-- What one row more materialises. -/
theorem materialisedIn_concat {page : List RawLedgerItem} {last item : RawLedgerItem} :
    MaterialisedIn (page ++ [last]) item ↔
      MaterialisedIn page item ∨ (item = last ∧ Materialises page last) := by
  constructor
  · intro ⟨before, after, split, materialises⟩
    rcases List.eq_nil_or_concat after with rfl | ⟨rest, final, rfl⟩
    · obtain ⟨rfl, same⟩ := List.append_inj' split rfl
      cases same
      exact .inr ⟨rfl, materialises⟩
    · rw [List.concat_eq_append, ← List.cons_append, ← List.append_assoc] at split
      exact .inl ⟨before, rest, (List.append_inj' split rfl).1, materialises⟩
  · intro materialised
    cases materialised with
    | inl inside =>
        obtain ⟨before, after, rfl, materialises⟩ := inside
        exact ⟨before, after ++ [last], by simp, materialises⟩
    | inr here =>
        obtain ⟨rfl, materialises⟩ := here
        exact ⟨page, [], rfl, materialises⟩

/-! ### The loop over a page -/

/-- The latest time of the entries, if there are any. -/
def IsNewest (entries : List CustodialLedgerEntry) : Option Timestamp → Prop
  | none => entries = []
  | some ts => (∃ entry ∈ entries, entry.timestamp = ts) ∧ ∀ entry ∈ entries, entry.timestamp ≤ ts

/-- The newest time with one entry more. -/
theorem isNewest_concat {entries : List CustodialLedgerEntry} {newestTs : Option Timestamp}
    (newest : IsNewest entries newestTs) (entry : CustodialLedgerEntry) :
    IsNewest (entries ++ [entry]) (some (newer newestTs entry.timestamp)) := by
  cases newestTs with
  | none =>
      cases (show entries = [] from newest)
      simp [IsNewest, newer]
  | some ts =>
      obtain ⟨⟨latest, member, rfl⟩, bound⟩ := newest
      simp only [IsNewest, newer]
      split
      · next later =>
        refine ⟨⟨entry, by simp, rfl⟩, fun other inside => ?_⟩
        cases List.mem_append.mp inside with
        | inl old => exact (bound other old).trans (Nat.le_of_lt later)
        | inr new =>
            rw [List.mem_singleton.mp new]
      · next earlier =>
        refine ⟨⟨latest, by simp [member], rfl⟩, fun other inside => ?_⟩
        cases List.mem_append.mp inside with
        | inl old => exact bound other old
        | inr new =>
            rw [List.mem_singleton.mp new]
            exact Nat.le_of_not_lt earlier

section Scan

variable {since : Option Timestamp} {raw : List RawLedgerItem}

/-- What the loop has made of the items it went through. -/
structure Scanned (since : Option Timestamp) (raw page : List RawLedgerItem) (scan : LedgerScan) :
    Prop where
  entries : ∀ entry, entry ∈ scan.entries ↔
    ∃ item, MaterialisedIn page item ∧ materialise since raw item = entry
  newest : IsNewest scan.entries scan.newestTs
  seen : ∀ refid, refid ∈ scan.seenRefids ↔
    ∃ item ∈ page, item.isBtc = true ∧ item.refid = refid

/-- An item that is passed over adds no entry, and no refid. -/
theorem Scanned.skip {page : List RawLedgerItem} {scan : LedgerScan} {item : RawLedgerItem}
    (scanned : Scanned since raw page scan) (dropped : ¬Materialises page item)
    (known : item.isBtc = true → item.refid ∈ scan.seenRefids) :
    Scanned since raw (page ++ [item]) scan where
  entries entry := by
    rw [scanned.entries]
    simp only [materialisedIn_concat, dropped, and_false, or_false]
  newest := scanned.newest
  seen refid := by
    constructor
    · intro met
      obtain ⟨other, member, named⟩ := (scanned.seen refid).mp met
      exact ⟨other, by simp [member], named⟩
    · intro ⟨other, member, btc, named⟩
      cases List.mem_append.mp member with
      | inl old => exact (scanned.seen refid).mpr ⟨other, old, btc, named⟩
      | inr new =>
          rw [List.mem_singleton.mp new] at btc named
          rw [← named]
          exact known btc

/-- A materialised row is scanned by appending its entry. -/
theorem Scanned.add {page : List RawLedgerItem} {scan : LedgerScan} {item : RawLedgerItem}
    (scanned : Scanned since raw page scan) (materialises : Materialises page item) :
    Scanned since raw (page ++ [item])
      ⟨scan.entries ++ [materialise since raw item],
        some (newer scan.newestTs (itemTime since item)), item.refid :: scan.seenRefids⟩ where
  entries entry := by
    simp only [List.mem_append, List.mem_singleton, scanned.entries, materialisedIn_concat]
    constructor
    · intro added
      cases added with
      | inl old =>
          obtain ⟨other, inside, same⟩ := old
          exact ⟨other, .inl inside, same⟩
      | inr new => exact ⟨item, .inr ⟨rfl, materialises⟩, new.symm⟩
    · rintro ⟨other, inside, same⟩
      cases inside with
      | inl old => exact .inl ⟨other, old, same⟩
      | inr new =>
          rw [new.1] at same
          exact .inr same.symm
  newest := isNewest_concat scanned.newest (materialise since raw item)
  seen refid := by
    simp only [List.mem_cons, scanned.seen, List.mem_append, List.not_mem_nil, or_false]
    constructor
    · intro met
      cases met with
      | inl here => exact ⟨item, .inr rfl, materialises.btc, here.symm⟩
      | inr old =>
          obtain ⟨other, member, named⟩ := old
          exact ⟨other, .inl member, named⟩
    · rintro ⟨other, member, btc, named⟩
      cases member with
      | inl old => exact .inr ⟨other, old, btc, named⟩
      | inr new =>
          rw [new] at named
          exact .inl named.symm

/-- One round of the loop. -/
theorem scanned_scanItem {page : List RawLedgerItem} {scan : LedgerScan}
    (scanned : Scanned since raw page scan) (item : RawLedgerItem) :
    Scanned since raw (page ++ [item]) (scanItem since raw scan item) := by
  rw [scanItem]
  split
  · next foreign =>
    apply scanned.skip
    · intro materialises
      have btc := materialises.btc
      rw [foreign] at btc
      cases btc
    · intro btc
      rw [foreign] at btc
      cases btc
  · next native =>
    have btc : item.isBtc = true := Bool.eq_true_of_not_eq_false native
    split
    · next repeated =>
      obtain ⟨trade, met⟩ := repeated
      apply scanned.skip
      · intro materialises
        obtain ⟨other, member, otherBtc, same⟩ := (scanned.seen item.refid).mp met
        exact materialises.first trade other member otherBtc same
      · intro _
        exact met
    · next fresh =>
      apply scanned.add
      refine ⟨btc, fun trade other member otherBtc same => fresh ⟨trade, ?_⟩⟩
      exact (scanned.seen item.refid).mpr ⟨other, member, otherBtc, same⟩

/-- A page is scanned item by item. -/
theorem scanned_foldl {page : List RawLedgerItem} {scan : LedgerScan}
    (scanned : Scanned since raw page scan) (items : List RawLedgerItem) :
    Scanned since raw (page ++ items) (items.foldl (scanItem since raw) scan) := by
  induction items generalizing page scan with
  | nil =>
      rw [List.append_nil]
      exact scanned
  | cons item rest inductionHypothesis =>
      have further := inductionHypothesis (scanned_scanItem scanned item)
      rw [List.append_assoc] at further
      exact further

/-- A whole page is scanned. -/
theorem scanned_scanPage (since : Option Timestamp) (raw : List RawLedgerItem) :
    Scanned since raw raw (scanPage since raw) := by
  have first : Scanned since raw [] ⟨[], none, []⟩ :=
    ⟨fun entry => by simp [MaterialisedIn], rfl, fun refid => by simp⟩
  exact scanned_foldl first raw

end Scan

/-- The entries and the newest time are those of the page. -/
structure PageRead (since : Option Timestamp) (page : List RawLedgerItem)
    (entries : List CustodialLedgerEntry) (newestTs : Option Timestamp) : Prop where
  newest : IsNewest entries newestTs
  materialised : ∀ entry, entry ∈ entries ↔
    ∃ item, MaterialisedIn page item ∧ materialise since page item = entry

/-- The newest time depends on the entries as a set. -/
theorem isNewest_congr {entries entries' : List CustodialLedgerEntry} {newestTs : Option Timestamp}
    (newest : IsNewest entries newestTs) (same : ∀ entry, entry ∈ entries' ↔ entry ∈ entries) :
    IsNewest entries' newestTs := by
  cases newestTs with
  | none =>
      have none : entries = [] := newest
      apply List.eq_nil_iff_forall_not_mem.mpr
      intro entry inside
      rw [same, none] at inside
      cases inside
  | some ts => simpa only [IsNewest, same] using newest

/-- A page that is fetched is read; the order of the entries is that of their times. -/
theorem pageRead_of_fetched {exchange : Exchange} {since : Option Timestamp}
    {answer : Option (List RawLedgerItem)} {entries : List CustodialLedgerEntry}
    {newestTs : Option Timestamp}
    (answered : exchange.fetchLedger (since.map sinceMs) 200 = .ok answer)
    (fetched : fetchLedgerSince exchange since = .ok (entries, newestTs)) :
    PageRead since (answer.getD []) entries newestTs := by
  have scanned := scanned_scanPage since (answer.getD [])
  simp only [fetchLedgerSince, answered, call] at fetched
  cases fetched
  have sorted : ∀ entry, entry ∈ (scanPage since (answer.getD [])).entries.insertionSort
      (fun entry later => entry.timestamp ≤ later.timestamp) ↔
        entry ∈ (scanPage since (answer.getD [])).entries :=
    fun entry => List.mem_insertionSort _
  constructor
  · exact isNewest_congr scanned.newest sorted
  · intro entry
    rw [sorted]
    exact scanned.entries entry

/-- A fetch that fails and is not reported leaves the cursor. -/
theorem fetched_of_error {exchange : Exchange} {since : Option Timestamp} {error : CcxtError}
    {entries : List CustodialLedgerEntry} {newestTs : Option Timestamp}
    (failed : exchange.fetchLedger (since.map sinceMs) 200 = .error error)
    (fetched : fetchLedgerSince exchange since = .ok (entries, newestTs)) :
    entries = [] ∧ newestTs = since := by
  rw [fetchLedgerSince, failed] at fetched
  split at fetched
  · split at fetched
    · cases fetched
      exact ⟨rfl, rfl⟩
    · cases fetched
  · next answered =>
    cases error <;> cases answered

end Kraken

/-! ### The entries of a cycle -/

section Persisting

variable {provider : ConnectedProviderRow} {ledger : LedgerMirror}

/-- What the loop over the entries has made of the mirror it has read. -/
structure Persisted (provider : ConnectedProviderRow) (ledger : LedgerMirror)
    (entries : List CustodialLedgerEntry) (mirror : CustodialLedgerEntryRepo.MirrorSession) :
    Prop where
  known : ∀ refid, (mirror.stored.find? refid).isSome = (ledger.find? refid).isSome
  added : ∀ entry ∈ entries, ledger.find? (provider.id, entry.providerEntryId) = none →
    ∃ entryId, entryRow provider entryId entry ∈ mirror.added

/-- An upsert leaves what the mirror has rows of. -/
theorem upsert_known (mirror : CustodialLedgerEntryRepo.MirrorSession)
    (row : CustodialLedgerEntryRow) (refid : Uuid × String) :
    ((CustodialLedgerEntryRepo.upsert mirror row).1.stored.find? refid).isSome =
      (mirror.stored.find? refid).isSome := by
  rw [CustodialLedgerEntryRepo.upsert]
  split
  · rfl
  · next existing _ =>
    have updated := IndexedTable.find?_update mirror.stored existing.id
      (fun stored => stored.overwritten row) (fun _ => rfl) (fun _ => rfl) refid
    exact (congrArg Option.isSome updated).trans Option.isSome_map

/-- What was added stays added. -/
theorem mem_added_upsert_of_mem {mirror : CustodialLedgerEntryRepo.MirrorSession}
    {added : CustodialLedgerEntryRow} (member : added ∈ mirror.added)
    (row : CustodialLedgerEntryRow) :
    added ∈ (CustodialLedgerEntryRepo.upsert mirror row).1.added := by
  rw [CustodialLedgerEntryRepo.upsert]
  split
  · exact List.mem_append_left _ member
  · exact member

/-- A row the mirror does not have is added. -/
theorem mem_added_upsert {mirror : CustodialLedgerEntryRepo.MirrorSession}
    {row : CustodialLedgerEntryRow} (absent : mirror.stored.find? row.refid = none) :
    row ∈ (CustodialLedgerEntryRepo.upsert mirror row).1.added := by
  rw [CustodialLedgerEntryRepo.upsert, CustodialLedgerEntryRepo.getByRefid,
    ← CustodialLedgerEntryRow.refid, absent]
  exact List.mem_append_right _ (List.mem_singleton.mpr rfl)

/-- One round of the loop over the entries. -/
theorem persisted_persistEntry {entries : List CustodialLedgerEntry} {session : CycleSession}
    (persisted : Persisted provider ledger entries session.mirror) (entry : CustodialLedgerEntry) :
    Persisted provider ledger (entries ++ [entry]) (persistEntry provider session entry).mirror := by
  constructor
  · intro refid
    exact (upsert_known session.mirror _ refid).trans (persisted.known refid)
  · intro other member absent
    cases List.mem_append.mp member with
    | inl old =>
        obtain ⟨entryId, added⟩ := persisted.added other old absent
        exact ⟨entryId, mem_added_upsert_of_mem added _⟩
    | inr new =>
        rw [List.mem_singleton.mp new] at absent ⊢
        have known := persisted.known (provider.id, entry.providerEntryId)
        rw [absent, Option.isSome_none, Option.isSome_eq_false_iff, Option.isNone_iff_eq_none] at known
        exact ⟨_, mem_added_upsert known⟩

/-- Entries are persisted one by one. -/
theorem persisted_foldl {entries : List CustodialLedgerEntry} {session : CycleSession}
    (persisted : Persisted provider ledger entries session.mirror)
    (more : List CustodialLedgerEntry) :
    Persisted provider ledger (entries ++ more)
      (more.foldl (persistEntry provider) session).mirror := by
  induction more generalizing entries session with
  | nil =>
      rw [List.append_nil]
      exact persisted
  | cons entry rest inductionHypothesis =>
      have further := inductionHypothesis (persisted_persistEntry persisted entry)
      rw [List.append_assoc] at further
      exact further

end Persisting

/-- A cycle persists the entries that it saw. -/
theorem persisted_cycleSession (db : CustodialDatabase) (provider : ConnectedProviderRow)
    (seen : Observation) :
    Persisted provider db.custodialLedger seen.newEntries (cycleSession db provider seen).mirror := by
  let session : CycleSession := ⟨⟨db.custodialLedger, []⟩, []⟩
  have first : Persisted provider db.custodialLedger [] session.mirror :=
    ⟨fun _ => rfl, fun entry member => absurd member List.not_mem_nil⟩
  exact persisted_foldl first seen.newEntries

section Cycle

variable {env : PollEnv} {db : CustodialDatabase} {providerId : Uuid} {outcome : CycleOutcome}
  {provider : ConnectedProviderRow} {seen : Observation}

theorem ObservedCycle.providerId_eq
    (cycle : ObservedCycle env db providerId outcome provider seen) : provider.id = providerId :=
  Table.key_of_get? cycle.stored

/-- The cycle has read the ledger from the cursor of the provider on. -/
theorem ObservedCycle.fetched (cycle : ObservedCycle env db providerId outcome provider seen) :
    Kraken.fetchLedgerSince env.exchange (ConnectedProviderRepo.getLedgerCursor db providerId) =
      .ok (seen.newEntries, seen.newestTs) := by
  obtain ⟨credentials, asked⟩ := cycle.asked
  rw [askProvider, bind_ok_iff] at asked
  obtain ⟨exchange, constructed, asked⟩ := asked
  have same : exchange = env.exchange := by
    rw [constructAdapter] at constructed
    split at constructed
    · cases constructed
    · cases built : buildAdapter env.custody provider.adapterId credentials with
      | error error =>
          simp only [built, Except.map] at constructed
          cases constructed
      | ok adapter =>
          simp only [built, Except.map, Except.ok.injEq] at constructed
          exact constructed.symm
  subst same
  rw [bind_ok_iff] at asked
  obtain ⟨balanceSats, _, asked⟩ := asked
  rw [bind_ok_iff] at asked
  obtain ⟨otherBalances, _, asked⟩ := asked
  rw [bind_ok_iff] at asked
  obtain ⟨⟨newEntries, newestTs⟩, fetched, asked⟩ := asked
  cases asked
  rw [cycle.providerId_eq] at fetched
  exact fetched

/-- The stored rows of the mirror, rewritten, and then the added ones. -/
theorem ObservedCycle.rows (cycle : ObservedCycle env db providerId outcome provider seen) :
    (cycleSession db provider seen).mirror.stored.insertAll?
      (cycleSession db provider seen).mirror.added = some outcome.db.custodialLedger := by
  have committed := cycle.committed
  rw [CustodialLedgerEntryRepo.commit] at committed
  split at committed
  · cases committed
  · next ledger inserted =>
    rw [inserted, Except.ok.inj committed]

/-- The newest time a cycle has read becomes the cursor; if it has read none, the cursor stays. -/
theorem ObservedCycle.cursor (cycle : ObservedCycle env db providerId outcome provider seen) :
    ConnectedProviderRepo.getLedgerCursor outcome.db providerId =
      seen.newestTs.or (ConnectedProviderRepo.getLedgerCursor db providerId) := by
  rw [ConnectedProviderRepo.getLedgerCursor, ConnectedProviderRepo.getLedgerCursor, cycle.recorded,
    cycle.stored]
  rfl

/-- What was mirrored stays so. -/
theorem ObservedCycle.mirrored_of_mirrored
    (cycle : ObservedCycle env db providerId outcome provider seen) {refid : Uuid × String}
    (mirrored : (db.custodialLedger.find? refid).isSome = true) :
    (outcome.db.custodialLedger.find? refid).isSome = true := by
  rw [IndexedTable.find?_insertAll? cycle.rows, Option.isSome_or,
    (persisted_cycleSession db provider seen).known, mirrored, Bool.true_or]

/-- An entry the mirror has no row of is added. -/
theorem ObservedCycle.added (cycle : ObservedCycle env db providerId outcome provider seen)
    {entry : CustodialLedgerEntry} (inside : entry ∈ seen.newEntries)
    (absent : db.custodialLedger.find? (providerId, entry.providerEntryId) = none) :
    ∃ entryId, entryRow provider entryId entry ∈ (cycleSession db provider seen).mirror.added ∧
      entryRow provider entryId entry ∈ outcome.db.custodialLedger.rows := by
  rw [← cycle.providerId_eq] at absent
  obtain ⟨entryId, added⟩ :=
    (persisted_cycleSession db provider seen).added entry inside absent
  refine ⟨entryId, added, ?_⟩
  rw [IndexedTable.insertAll?_eq_some_iff.mp cycle.rows]
  exact List.mem_append_right _ added

/-- Every entry is mirrored by the cycle. -/
theorem ObservedCycle.mirrored_of_entry
    (cycle : ObservedCycle env db providerId outcome provider seen) {entry : CustodialLedgerEntry}
    (inside : entry ∈ seen.newEntries) :
    (outcome.db.custodialLedger.find? (providerId, entry.providerEntryId)).isSome = true := by
  cases found : db.custodialLedger.find? (providerId, entry.providerEntryId) with
  | some row =>
      apply cycle.mirrored_of_mirrored
      rw [found]
      rfl
  | none =>
      obtain ⟨entryId, _, member⟩ := cycle.added inside found
      have there := IndexedTable.find?_of_mem member
      rw [CustodialLedgerEntryRow.refid, show (entryRow provider entryId entry).custodialProviderId =
        providerId from cycle.providerId_eq] at there
      exact Option.isSome_iff_exists.mpr ⟨_, there⟩

/-- A new entry is stored under an id, without links, and published as it is stored. -/
theorem ObservedCycle.published (cycle : ObservedCycle env db providerId outcome provider seen)
    {entry : CustodialLedgerEntry} (inside : entry ∈ seen.newEntries)
    (absent : db.custodialLedger.find? (providerId, entry.providerEntryId) = none) :
    ∃ entryId, outcome.db.custodialLedger.get? entryId = some (entryRow provider entryId entry) ∧
      ⟨"treasury.custodial.ledger_entry_added",
        .ledgerEntryAdded provider.holdingId provider.id env.polledAt seen.balanceSats
          (entryRow provider entryId entry).payload⟩ ∈ outcome.events := by
  obtain ⟨entryId, added, member⟩ := cycle.added inside absent
  refine ⟨entryId, IndexedTable.get?_of_mem member, ?_⟩
  rw [cycle.events, cycleEvents]
  apply List.mem_append_left
  apply List.mem_append_left
  apply List.mem_cons_of_mem
  exact List.mem_map_of_mem (List.mem_map_of_mem added)

end Cycle

end TallyKeep
