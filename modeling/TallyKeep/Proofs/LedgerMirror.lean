/-
Module: TallyKeep.Proofs.LedgerMirror
Layer: Proofs
Purpose: Completeness of the ledger mirror: along any sequence of cycles against one ledger, what is
  due up to the cursor is mirrored, and more cycles than the ledger has rows mirror all that is due,
  while no page leaves the cursor where it is and none passes over a row that is due.
Trusted boundary: none
Main exports: ProviderLedger, ProviderLedger.Due, Feeds, Mirrored, MirrorStep, PageOpen, Unobstructed,
  sinceMs_le, polledPage_of_legal, ledgerMirror_complete
-/
import TallyKeep.Library.Transition
import TallyKeep.Proofs.LedgerPages

namespace TallyKeep

open Relational Transition Binary64 Kraken

/-! ### The ledger of a provider -/

/-- The time of an item, in milliseconds. -/
def RawLedgerItem.timeMs (item : RawLedgerItem) : Nat := item.timestamp.getD 0

def RawLedgerItem.time (item : RawLedgerItem) : Timestamp := 1000 * item.timeMs

/-- The rows of a provider's ledger in the order of their times, which are distinct and times a
    `datetime` has; so are their ids, none of which is empty. -/
structure ProviderLedger where
  rows : List RawLedgerItem
  timed : ∀ row ∈ rows, ∃ ms, row.timestamp = some ms ∧ ms < 253402300800000
  ordered : rows.Pairwise fun row later => row.timeMs < later.timeMs
  named : ∀ row ∈ rows, ∃ id, row.id = some id ∧ id ≠ ""
  distinct : (rows.map RawLedgerItem.id).Nodup

/-- A row the mirror should have: in BTC, and no trade that repeats the refid of an earlier trade. -/
structure ProviderLedger.Due (ledger : ProviderLedger) (row : RawLedgerItem) : Prop where
  listed : row ∈ ledger.rows
  btc : row.isBtc = true
  leading : row.kind = .trade → ∀ other ∈ ledger.rows, other.timeMs < row.timeMs →
    other.isBtc = true → other.kind = .trade → other.refid ≠ row.refid

/-- The exchange answers from the ledger: after a cursor the oldest 200 rows, in any order, and
    without a cursor any rows. -/
structure Feeds (ledger : ProviderLedger) (exchange : Exchange) : Prop where
  sinceCursor : ∀ ms, ∃ page, exchange.fetchLedger (some ms) 200 = .ok (some page) ∧
    page.Perm ((ledger.rows.filter fun row => decide (ms ≤ row.timeMs)).take 200)
  withoutCursor : ∀ page, exchange.fetchLedger none 200 = .ok (some page) →
    ∀ row ∈ page, row ∈ ledger.rows

section Ledger

variable {ledger : ProviderLedger}

/-- Rows of the ledger with one time are one row. -/
theorem ProviderLedger.eq_of_time_eq {row other : RawLedgerItem} (listed : row ∈ ledger.rows)
    (otherListed : other ∈ ledger.rows) (same : row.time = other.time) : row = other := by
  have strict : (ledger.rows.map RawLedgerItem.timeMs).Nodup :=
    List.pairwise_map.mpr (ledger.ordered.imp Nat.ne_of_lt)
  exact List.inj_on_of_nodup_map strict listed otherListed
    (Nat.eq_of_mul_eq_mul_left (by decide) same)

theorem ProviderLedger.itemTime_eq {row : RawLedgerItem} (listed : row ∈ ledger.rows)
    (since : Option Timestamp) : itemTime since row = row.time := by
  obtain ⟨ms, timed, -⟩ := ledger.timed row listed
  rw [itemTime, RawLedgerItem.time, RawLedgerItem.timeMs, timed]
  rfl

/-- What is not later than a member of an initial part is a member of it. -/
theorem mem_take_of_le {α : Type} {f : α → Nat} {l : List α}
    (ordered : l.Pairwise fun a b => f a < f b) {n : Nat} {a b : α} (later : b ∈ l.take n)
    (member : a ∈ l) (le : f a ≤ f b) : a ∈ l.take n := by
  rw [← List.take_append_drop n l] at member ordered
  rcases List.mem_append.mp member with first | rest
  · exact first
  · have after := (List.pairwise_append.mp ordered).2.2 b later a rest
    omega

/-- The time that is asked for is not after the cursor: two roundings add less than a
    millisecond. -/
theorem sinceMs_le {ms : Nat} (bounded : ms < 253402300800000) : sinceMs (1000 * ms) ≤ ms := by
  have nonneg : (0 : ℚ) ≤ ms := Nat.cast_nonneg ms
  have small : (ms : ℚ) < 253402300800000 := by exact_mod_cast bounded
  have seconds : (((1000 * ms : Timestamp) : ℚ)) / 1000000 = ms / 1000 := by
    push_cast
    ring
  have first : toDouble ((ms : ℚ) / 1000) ≤ ms / 1000 + ms / 1000 / 2 ^ 53 :=
    toDouble_le (by positivity)
  have product : toDouble ((ms : ℚ) / 1000) * 1000 ≤ ms + ms / 2 ^ 53 := by
    calc toDouble ((ms : ℚ) / 1000) * 1000 ≤ (ms / 1000 + ms / 1000 / 2 ^ 53) * 1000 :=
          mul_le_mul_of_nonneg_right first (by norm_num)
      _ = ms + ms / 2 ^ 53 := by ring
  have second := toDouble_le (mul_nonneg (toDouble_nonneg (by positivity : (0 : ℚ) ≤ ms / 1000))
    (by norm_num : (0 : ℚ) ≤ 1000))
  have below : toDouble (toDouble ((ms : ℚ) / 1000) * 1000) < ms + 1 := by
    norm_num at product second ⊢
    linarith
  rw [sinceMs, seconds, Int.toNat_le, ← Int.lt_add_one_iff, Int.floor_lt]
  exact_mod_cast below

/-- The cursor of a row is at or before its time in milliseconds. -/
theorem ProviderLedger.sinceMs_time_le {row : RawLedgerItem} (listed : row ∈ ledger.rows) :
    sinceMs row.time ≤ row.timeMs := by
  obtain ⟨ms, timed, bounded⟩ := ledger.timed row listed
  rw [RawLedgerItem.time, RawLedgerItem.timeMs, timed]
  exact sinceMs_le bounded

end Ledger

/-! ### The mirror -/

/-- The mirror has exactly one row for the item. -/
def Mirrored (db : CustodialDatabase) (providerId : Uuid) (item : RawLedgerItem) : Prop :=
  ∃! row, row ∈ db.custodialLedger.rows ∧ row.custodialProviderId = providerId ∧
    row.providerEntryId = item.providerEntryId

/-- An item is mirrored when its id is in the table. -/
theorem mirrored_iff {db : CustodialDatabase} {providerId : Uuid} {item : RawLedgerItem} :
    Mirrored db providerId item ↔
      (db.custodialLedger.find? (providerId, item.providerEntryId)).isSome = true := by
  rw [Option.isSome_iff_exists]
  constructor
  · intro ⟨row, ⟨member, provider, named⟩, _⟩
    exact ⟨row, IndexedTable.find?_eq_some_iff.mpr ⟨member, Prod.ext provider named⟩⟩
  · intro ⟨row, found⟩
    obtain ⟨member, same⟩ := IndexedTable.find?_eq_some_iff.mp found
    refine ⟨row, ⟨member, congrArg Prod.fst same, congrArg Prod.snd same⟩, ?_⟩
    intro other ⟨otherMember, provider, named⟩
    exact IndexedTable.eq_of_index_eq otherMember member ((Prod.ext provider named).trans same.symm)

/-! ### Cycles -/

/-- A cycle has succeeded, or some other component writes; a cycle that fails is one of these. -/
inductive MirrorLabel where
  | poll (env : PollEnv)
  | elsewhere (after : CustodialDatabase)

def MirrorLabel.isPoll : MirrorLabel → Bool
  | poll _ => true
  | elsewhere _ => false

def mirrorStep (providerId : Uuid) (db : CustodialDatabase) : MirrorLabel → CustodialDatabase
  | .poll env => (pollCycle env db providerId).db
  | .elsewhere after => after

/-- The cycles are answered from the ledger, and the other components leave the cursor of the
    provider, and what is mirrored of it. -/
def MirrorLegal (ledger : ProviderLedger) (providerId : Uuid) (db : CustodialDatabase) :
    MirrorLabel → Prop
  | .poll env => Feeds ledger env.exchange ∧ ∃ out, (pollCycle env db providerId).answer = .ok out
  | .elsewhere after =>
      ConnectedProviderRepo.getLedgerCursor after providerId =
          ConnectedProviderRepo.getLedgerCursor db providerId ∧
        ∀ item, Mirrored after providerId item ↔ Mirrored db providerId item

def MirrorStep (ledger : ProviderLedger) (providerId : Uuid) :
    CustodialDatabase → MirrorLabel → CustodialDatabase → Prop :=
  guarded (stepOf (mirrorStep providerId)) (MirrorLegal ledger providerId)

/-- The page moves the cursor on or has all rows from it on that are due, and passes over no row that
    is due. -/
structure PageOpen (ledger : ProviderLedger) (cursor : Timestamp) (page : List RawLedgerItem) :
    Prop where
  reaches : (∃ item, MaterialisedIn page item ∧ cursor < item.time) ∨
    ∀ row, ledger.Due row → cursor ≤ row.time → row ∈ page
  keeps : ∀ earlier row later, page = earlier ++ row :: later → ledger.Due row →
    row.kind = .trade → ∀ other ∈ earlier, other.isBtc = true → other.refid ≠ row.refid

def Unobstructed (ledger : ProviderLedger) (providerId : Uuid) (db : CustodialDatabase) :
    MirrorLabel → Prop
  | .poll env => ∀ cursor page,
      ConnectedProviderRepo.getLedgerCursor db providerId = some cursor →
        env.exchange.fetchLedger (some (sinceMs cursor)) 200 = .ok (some page) →
          PageOpen ledger cursor page
  | .elsewhere _ => True

/-- What a cycle has made of the page it was given. -/
structure PolledPage (providerId : Uuid) (before after : CustodialDatabase)
    (page : List RawLedgerItem) : Prop where
  kept : ∀ item, Mirrored before providerId item → Mirrored after providerId item
  mirrored : ∀ item, MaterialisedIn page item → Mirrored after providerId item
  cursor : (∃ newest, MaterialisedIn page newest ∧
      ConnectedProviderRepo.getLedgerCursor after providerId = some newest.time ∧
      ∀ item, MaterialisedIn page item → item.time ≤ newest.time) ∨
    ConnectedProviderRepo.getLedgerCursor after providerId =
        ConnectedProviderRepo.getLedgerCursor before providerId ∧
      ∀ item, ¬MaterialisedIn page item

/-- Only the provider and the mirror count. -/
theorem PolledPage.congr {providerId : Uuid} {before after after' : CustodialDatabase}
    {page : List RawLedgerItem} (polled : PolledPage providerId before after page)
    (providers : after'.custodialProviders = after.custodialProviders)
    (ledger : after'.custodialLedger = after.custodialLedger) :
    PolledPage providerId before after' page := by
  obtain ⟨kept, mirrored, cursor⟩ := polled
  rw [ConnectedProviderRepo.getLedgerCursor, ← providers] at cursor
  simp only [Mirrored, ← ledger] at kept mirrored
  exact ⟨kept, mirrored, cursor⟩

section Cycle

variable {ledger : ProviderLedger} {env : PollEnv} {db : CustodialDatabase} {providerId : Uuid}

/-- A cycle that reads a page has polled it. -/
theorem polledPage_of_read {outcome : CycleOutcome} {provider : ConnectedProviderRow}
    {seen : Observation} (cycle : ObservedCycle env db providerId outcome provider seen)
    {page : List RawLedgerItem} (inLedger : ∀ row ∈ page, row ∈ ledger.rows)
    (read : PageRead (ConnectedProviderRepo.getLedgerCursor db providerId) page seen.newEntries
      seen.newestTs) :
    PolledPage providerId db outcome.db page where
  kept item mirrored := mirrored_iff.mpr (cycle.mirrored_of_mirrored (mirrored_iff.mp mirrored))
  mirrored item materialised :=
    mirrored_iff.mpr (cycle.mirrored_of_entry ((read.materialised _).mpr ⟨item, materialised, rfl⟩))
  cursor := by
    have newest := read.newest
    rw [cycle.cursor]
    cases newestTs : seen.newestTs with
    | none =>
        rw [newestTs] at newest
        refine .inr ⟨rfl, fun item materialised => ?_⟩
        have entry := (read.materialised _).mpr ⟨item, materialised, rfl⟩
        rw [show seen.newEntries = [] from newest] at entry
        cases entry
    | some ts =>
        rw [newestTs] at newest
        obtain ⟨⟨entry, inside, rfl⟩, bound⟩ := newest
        obtain ⟨item, materialised, rfl⟩ := (read.materialised _).mp inside
        refine .inl ⟨item, materialised, ?_, fun other otherMaterialised => ?_⟩
        · exact congrArg some (ledger.itemTime_eq (inLedger item materialised.mem) _)
        · have le := bound _ ((read.materialised _).mpr ⟨other, otherMaterialised, rfl⟩)
          rw [← ledger.itemTime_eq (inLedger other otherMaterialised.mem)
              (ConnectedProviderRepo.getLedgerCursor db providerId),
            ← ledger.itemTime_eq (inLedger item materialised.mem)
              (ConnectedProviderRepo.getLedgerCursor db providerId)]
          exact le

/-- Every cycle that succeeds has been given rows of the ledger, those of the cursor if there is
    one. -/
theorem polledPage_of_legal (legal : MirrorLegal ledger providerId db (.poll env)) :
    ∃ page, PolledPage providerId db (pollCycle env db providerId).db page ∧
      (∀ row ∈ page, row ∈ ledger.rows) ∧
      ∀ cursor, ConnectedProviderRepo.getLedgerCursor db providerId = some cursor →
        env.exchange.fetchLedger (some (sinceMs cursor)) 200 = .ok (some page) ∧
        page.Perm ((ledger.rows.filter fun row => decide (sinceMs cursor ≤ row.timeMs)).take
          200) := by
  obtain ⟨feeds, out, polled⟩ := legal
  rw [pollCycle_answer] at polled
  obtain ⟨provider, seen, cycle⟩ := observedCycle_of_ok polled
  obtain ⟨providers, mirror⟩ := pollCycle_tables env db providerId
  have fetched := cycle.fetched
  cases since : ConnectedProviderRepo.getLedgerCursor db providerId with
  | some cursor =>
      obtain ⟨page, answered, oldest⟩ := feeds.sinceCursor (sinceMs cursor)
      have inLedger : ∀ row ∈ page, row ∈ ledger.rows := by
        intro row member
        exact List.mem_of_mem_filter (List.mem_of_mem_take (oldest.mem_iff.mp member))
      rw [since] at fetched
      have read := pageRead_of_fetched answered fetched
      rw [← since] at read
      refine ⟨page, (polledPage_of_read cycle inLedger read).congr providers mirror, inLedger, ?_⟩
      intro cursor' same
      cases same
      exact ⟨answered, oldest⟩
  | none =>
      rw [since] at fetched
      cases answered : env.exchange.fetchLedger none 200 with
      | ok answer =>
          have inLedger : ∀ row ∈ answer.getD [], row ∈ ledger.rows := by
            cases answer with
            | none => simp
            | some page => exact feeds.withoutCursor page answered
          have read := pageRead_of_fetched answered fetched
          rw [← since] at read
          exact ⟨_, (polledPage_of_read cycle inLedger read).congr providers mirror, inLedger,
            fun cursor same => nomatch same⟩
      | error error =>
          obtain ⟨none, newest⟩ := fetched_of_error answered fetched
          have read : PageRead (ConnectedProviderRepo.getLedgerCursor db providerId) []
              seen.newEntries seen.newestTs := by
            rw [none, newest]
            exact ⟨rfl, fun entry => by simp [MaterialisedIn]⟩
          have inLedger : ∀ row ∈ ([] : List RawLedgerItem), row ∈ ledger.rows := by simp
          exact ⟨[], (polledPage_of_read cycle inLedger read).congr providers mirror, inLedger,
            fun cursor same => nomatch same⟩

/-- A status that is written leaves every cursor. -/
theorem getLedgerCursor_updateConnectionStatus (written : Uuid) (status : ConnectionStatus)
    (errors : Nat) (polledAt : Timestamp) (error : Option String) :
    ConnectedProviderRepo.getLedgerCursor
        (ConnectedProviderRepo.updateConnectionStatus db written status errors polledAt error)
        providerId = ConnectedProviderRepo.getLedgerCursor db providerId := by
  rw [ConnectedProviderRepo.getLedgerCursor, ConnectedProviderRepo.updateConnectionStatus,
    ConnectedProviderRepo.modify, Table.get?_update, ConnectedProviderRepo.getLedgerCursor]
  split
  · next same =>
    subst same
    cases db.custodialProviders.get? providerId <;> rfl
  · rfl

/-- A failed cycle leaves the cursor. -/
theorem getLedgerCursor_failedCycle (provider : ConnectedProviderRow) (error : PyError) :
    ConnectedProviderRepo.getLedgerCursor (failedCycle env db provider error).db providerId =
      ConnectedProviderRepo.getLedgerCursor db providerId := by
  simp only [failedCycle, handleAuthError, handleTransientError]
  repeat' split
  all_goals first
    | rfl
    | exact getLedgerCursor_updateConnectionStatus ..

/-- A cycle that fails leaves the mirror and the cursor. -/
theorem legal_elsewhere_of_failed {error : PyError}
    (failed : (pollCycle env db providerId).answer = .error error) :
    MirrorLegal ledger providerId db (.elsewhere (pollCycle env db providerId).db) := by
  rw [pollCycle_answer] at failed
  rw [pollCycle_db_of_error failed]
  rcases observe_of_error failed with same | ⟨provider, error, same⟩
  · rw [same]
    exact ⟨rfl, fun _ => Iff.rfl⟩
  · rw [same]
    refine ⟨getLedgerCursor_failedCycle provider error, fun item => ?_⟩
    rw [Mirrored, failedCycle_tables]
    exact Iff.rfl

end Cycle

/-! ### Runs -/

/-- The cursor is the time of a row of the ledger that is mirrored. -/
def CursorMirrored (ledger : ProviderLedger) (providerId : Uuid) (db : CustodialDatabase) : Prop :=
  ∀ cursor, ConnectedProviderRepo.getLedgerCursor db providerId = some cursor →
    ∃ row ∈ ledger.rows, cursor = row.time ∧ Mirrored db providerId row

/-- The cursor is the time of a row, up to which all that is due from the first time on is
    mirrored. -/
def MirroredUpTo (ledger : ProviderLedger) (providerId : Uuid) (first : Timestamp)
    (db : CustodialDatabase) : Prop :=
  ∃ row ∈ ledger.rows, ConnectedProviderRepo.getLedgerCursor db providerId = some row.time ∧
    ∀ due, ledger.Due due → first ≤ due.time → due.time ≤ row.time → Mirrored db providerId due

/-- All that is due from the first time on is mirrored. -/
def Complete (ledger : ProviderLedger) (providerId : Uuid) (first : Timestamp)
    (db : CustodialDatabase) : Prop :=
  ∀ due, ledger.Due due → first ≤ due.time → Mirrored db providerId due

/-- How many rows of the ledger are later than the cursor. -/
def laterRows (ledger : ProviderLedger) (providerId : Uuid) (db : CustodialDatabase) : Nat :=
  (ledger.rows.filter fun row =>
    decide ((ConnectedProviderRepo.getLedgerCursor db providerId).getD 0 < row.time)).length

section Runs

variable {ledger : ProviderLedger} {providerId : Uuid} {db after : CustodialDatabase}
  {label : MirrorLabel} {first : Timestamp}

/-- What is mirrored stays mirrored. -/
theorem Mirrored.step (step : MirrorStep ledger providerId db label after) {item : RawLedgerItem}
    (mirrored : Mirrored db providerId item) : Mirrored after providerId item := by
  obtain ⟨legal, rfl⟩ := step
  cases label with
  | poll env =>
      obtain ⟨page, polled, -⟩ := polledPage_of_legal legal
      exact polled.kept item mirrored
  | elsewhere other => exact (legal.2 item).mpr mirrored

/-- Every step keeps that the cursor's row is mirrored. -/
theorem cursorMirrored_step (holds : CursorMirrored ledger providerId db)
    (step : MirrorStep ledger providerId db label after) :
    CursorMirrored ledger providerId after := by
  have kept : ConnectedProviderRepo.getLedgerCursor after providerId =
      ConnectedProviderRepo.getLedgerCursor db providerId →
        CursorMirrored ledger providerId after := by
    intro same cursor found
    obtain ⟨row, listed, time, mirrored⟩ := holds cursor (same ▸ found)
    exact ⟨row, listed, time, mirrored.step step⟩
  obtain ⟨legal, moved⟩ := step
  cases label with
  | elsewhere other =>
      cases moved
      exact kept legal.1
  | poll env =>
      obtain ⟨page, polled, inLedger, -⟩ := polledPage_of_legal legal
      cases moved
      rcases polled.cursor with ⟨newest, materialised, cursor', -⟩ | ⟨same, -⟩
      · intro cursor found
        rw [show mirrorStep providerId db (.poll env) = (pollCycle env db providerId).db from rfl,
          cursor', Option.some.injEq] at found
        exact ⟨newest, inLedger newest materialised.mem, found.symm,
          polled.mirrored newest materialised⟩
      · exact kept same

/-- A row that is due and in an open page materialises. -/
theorem PageOpen.materialised {cursor : Timestamp} {page : List RawLedgerItem}
    (opened : PageOpen ledger cursor page) {row : RawLedgerItem} (due : ledger.Due row)
    (member : row ∈ page) : MaterialisedIn page row := by
  obtain ⟨before, later, split⟩ := List.append_of_mem member
  exact ⟨before, later, split, due.btc, opened.keeps before row later split due⟩

/-- What a cycle whose page is open makes of the mirror: all rows it was given that are due are
    mirrored, and all rows between the cursors are among them. -/
structure Advanced (ledger : ProviderLedger) (providerId : Uuid) (db after : CustodialDatabase)
    (row : RawLedgerItem) (page : List RawLedgerItem) : Prop where
  polled : PolledPage providerId db after page
  inLedger : ∀ item ∈ page, item ∈ ledger.rows
  opened : PageOpen ledger row.time page
  mirrored : ∀ due, ledger.Due due → due ∈ page → Mirrored after providerId due
  between : ∀ due newest, ledger.Due due → newest ∈ page → row.time ≤ due.time →
    due.time ≤ newest.time → due ∈ page

/-- An unobstructed poll moves the cursor. -/
theorem advanced_of_poll {env : PollEnv} {row : RawLedgerItem} (listed : row ∈ ledger.rows)
    (cursor : ConnectedProviderRepo.getLedgerCursor db providerId = some row.time)
    (legal : MirrorLegal ledger providerId db (.poll env))
    (free : Unobstructed ledger providerId db (.poll env)) :
    ∃ page, Advanced ledger providerId db (pollCycle env db providerId).db row page := by
  obtain ⟨page, polled, inLedger, answers⟩ := polledPage_of_legal legal
  obtain ⟨answered, oldest⟩ := answers row.time cursor
  have opened := free row.time page cursor answered
  refine ⟨page, polled, inLedger, opened, ?_, ?_⟩
  · intro due isDue member
    exact polled.mirrored due (opened.materialised isDue member)
  · intro due newest isDue member after before
    have asked : due ∈ ledger.rows.filter fun item => decide (sinceMs row.time ≤ item.timeMs) :=
      List.mem_filter.mpr ⟨isDue.listed, decide_eq_true
        ((ledger.sinceMs_time_le listed).trans (Nat.le_of_mul_le_mul_left after (by decide)))⟩
    exact oldest.mem_iff.mpr (mem_take_of_le (ledger.ordered.filter _) (oldest.mem_iff.mp member)
      asked (Nat.le_of_mul_le_mul_left before (by decide)))

/-- Every unobstructed step keeps that all rows up to the cursor are mirrored. -/
theorem mirroredUpTo_step (holds : MirroredUpTo ledger providerId first db)
    (free : Unobstructed ledger providerId db label)
    (step : MirrorStep ledger providerId db label after) :
    MirroredUpTo ledger providerId first after := by
  obtain ⟨row, listed, cursor, upTo⟩ := holds
  have kept : ∀ due, ledger.Due due → first ≤ due.time → due.time ≤ row.time →
      Mirrored after providerId due :=
    fun due isDue starts ends => (upTo due isDue starts ends).step step
  obtain ⟨legal, moved⟩ := step
  cases label with
  | elsewhere other =>
      cases moved
      exact ⟨row, listed, legal.1.trans cursor, kept⟩
  | poll env =>
      obtain ⟨page, advanced⟩ := advanced_of_poll listed cursor legal free
      cases moved
      rcases advanced.polled.cursor with ⟨newest, materialised, cursor', -⟩ | ⟨same, -⟩
      · refine ⟨newest, advanced.inLedger newest materialised.mem, cursor', ?_⟩
        intro due isDue starts ends
        rcases Nat.le_total due.time row.time with before | past
        · exact kept due isDue starts before
        · exact advanced.mirrored due isDue
            (advanced.between due newest isDue materialised.mem past ends)
      · exact ⟨row, listed, same.trans cursor, kept⟩

/-- Later cursors have fewer rows after them. -/
theorem laterRows_lt {row newest : RawLedgerItem} (listed : newest ∈ ledger.rows)
    (cursor : ConnectedProviderRepo.getLedgerCursor db providerId = some row.time)
    (cursor' : ConnectedProviderRepo.getLedgerCursor after providerId = some newest.time)
    (later : row.time < newest.time) :
    laterRows ledger providerId after < laterRows ledger providerId db := by
  rw [laterRows, laterRows, cursor, cursor', Option.getD_some, Option.getD_some]
  have narrowed : ledger.rows.filter (fun item => decide (newest.time < item.time)) =
      (ledger.rows.filter fun item => decide (row.time < item.time)).filter
        fun item => decide (newest.time < item.time) := by
    rw [List.filter_filter]
    apply List.filter_congr
    intro item _
    by_cases past : newest.time < item.time
    · simp [past, later.trans past]
    · simp [past]
  rw [narrowed, List.length_filter_lt_length_iff_exists]
  exact ⟨newest, List.mem_filter.mpr ⟨listed, decide_eq_true later⟩, by simp⟩

/-- A cycle whose page is open completes the mirror or moves the cursor on. -/
theorem complete_or_later (holds : MirroredUpTo ledger providerId first db)
    (free : Unobstructed ledger providerId db label)
    (step : MirrorStep ledger providerId db label after) :
    Complete ledger providerId first after ∨
      laterRows ledger providerId after + (if label.isPoll then 1 else 0) ≤
        laterRows ledger providerId db := by
  obtain ⟨row, listed, cursor, upTo⟩ := holds
  have kept : ∀ due, ledger.Due due → first ≤ due.time → due.time ≤ row.time →
      Mirrored after providerId due :=
    fun due isDue starts ends => (upTo due isDue starts ends).step step
  obtain ⟨legal, moved⟩ := step
  cases label with
  | elsewhere other =>
      cases moved
      right
      rw [laterRows, laterRows, show ConnectedProviderRepo.getLedgerCursor
        (mirrorStep providerId db (.elsewhere other)) providerId = _ from legal.1]
      exact Nat.le_refl _
  | poll env =>
      obtain ⟨page, advanced⟩ := advanced_of_poll listed cursor legal free
      cases moved
      rcases advanced.opened.reaches with ⟨item, materialised, later⟩ | all
      · right
        rcases advanced.polled.cursor with ⟨newest, newestIn, cursor', bound⟩ | ⟨-, none⟩
        · exact laterRows_lt (advanced.inLedger newest newestIn.mem) cursor cursor'
            (Nat.lt_of_lt_of_le later (bound item materialised))
        · exact absurd materialised (none item)
      · left
        intro due isDue starts
        rcases Nat.le_total due.time row.time with before | past
        · exact kept due isDue starts before
        · exact advanced.mirrored due isDue (all due isDue past)

end Runs

/-- From a cursor that earlier cycles have reached, in any run whose cycles get open pages: what is
    due from this cursor up to the current one is mirrored, and after more cycles than the ledger
    has rows all that is due from it on is. -/
theorem ledgerMirror_complete {ledger : ProviderLedger} {providerId : Uuid}
    {fresh started db : CustodialDatabase} {earlier labels : List MirrorLabel} {first : Timestamp}
    (unpolled : ConnectedProviderRepo.getLedgerCursor fresh providerId = none)
    (reached : Run (MirrorStep ledger providerId) fresh earlier started)
    (cursor : ConnectedProviderRepo.getLedgerCursor started providerId = some first)
    (run : Run (guarded (MirrorStep ledger providerId) (Unobstructed ledger providerId)) started
      labels db) :
    (∀ row cursor', ledger.Due row → first ≤ row.time →
        ConnectedProviderRepo.getLedgerCursor db providerId = some cursor' →
          row.time ≤ cursor' → Mirrored db providerId row) ∧
      (ledger.rows.length + 1 ≤ labels.countP MirrorLabel.isPoll →
        ∀ row, ledger.Due row → first ≤ row.time → Mirrored db providerId row) := by
  have fromNothing : CursorMirrored ledger providerId fresh := by
    intro cursor' found
    rw [unpolled] at found
    cases found
  have start : CursorMirrored ledger providerId started :=
    reached.invariant (fun _ _ _ holds step => cursorMirrored_step holds step) fromNothing
  obtain ⟨row, listed, rfl, mirrored⟩ := start first cursor
  have holds : MirroredUpTo ledger providerId row.time started := by
    refine ⟨row, listed, cursor, fun due isDue starts ends => ?_⟩
    rw [ledger.eq_of_time_eq isDue.listed listed (Nat.le_antisymm ends starts)]
    exact mirrored
  have preserved : ∀ s label t, MirroredUpTo ledger providerId row.time s →
      guarded (MirrorStep ledger providerId) (Unobstructed ledger providerId) s label t →
        MirroredUpTo ledger providerId row.time t :=
    fun _ _ _ upTo step => mirroredUpTo_step upTo step.1 step.2
  constructor
  · intro due cursor' isDue starts found ends
    obtain ⟨last, _, lastCursor, upTo⟩ := run.invariant preserved holds
    rw [lastCursor, Option.some.injEq] at found
    exact upTo due isDue starts (found ▸ ends)
  · intro enough
    apply run.reaches (Q := Complete ledger providerId row.time) preserved
      (fun _ _ _ _ step complete due isDue starts => (complete due isDue starts).step step.2)
      (fun _ _ _ upTo step => complete_or_later upTo step.1 step.2) holds
    exact Nat.lt_of_lt_of_le (Nat.lt_succ_of_le (List.length_filter_le _ _)) enough

/-- Nothing is in the way while the ledger fits into a page, unless a trade is passed over. -/
theorem unobstructed_of_short {ledger : ProviderLedger} {providerId : Uuid} {db : CustodialDatabase}
    {env : PollEnv} (feeds : Feeds ledger env.exchange) (short : ledger.rows.length ≤ 200)
    (untraded : ∀ row ∈ ledger.rows, row.kind ≠ .trade)
    (holds : CursorMirrored ledger providerId db) :
    Unobstructed ledger providerId db (.poll env) := by
  intro cursor page found answered
  obtain ⟨row, listed, rfl, -⟩ := holds cursor found
  obtain ⟨oldest, answered', same⟩ := feeds.sinceCursor (sinceMs row.time)
  rw [answered] at answered'
  cases answered'
  rw [List.take_of_length_le ((List.length_filter_le _ _).trans short)] at same
  constructor
  · right
    intro due isDue past
    exact same.mem_iff.mpr (List.mem_filter.mpr ⟨isDue.listed, decide_eq_true
      ((ledger.sinceMs_time_le listed).trans (Nat.le_of_mul_le_mul_left past (by decide)))⟩)
  · intro _ due _ _ isDue trade
    exact absurd trade (untraded due isDue.listed)

/-! ### Sample ledgers -/

/-- The rows of a ledger without trades, a millisecond apart; some are in bitcoin. -/
def sampleLedgerRow (btc : Nat → Bool) (i : Nat) : RawLedgerItem where
  id := some (String.ofList (List.replicate (i + 1) 'L'))
  referenceId := none
  currency := some (if btc i then "BTC" else "EUR")
  type := some "deposit"
  direction := some "in"
  amount := some (1 / 1000)
  fee := none
  timestamp := some (3600000 + i)
  status := some "ok"
  others := ""

def sampleLedger (btc : Nat → Bool) (n : Nat) (small : n ≤ 1000) : ProviderLedger where
  rows := (List.range n).map (sampleLedgerRow btc)
  timed := by
    intro row listed
    obtain ⟨i, inside, rfl⟩ := List.mem_map.mp listed
    rw [List.mem_range] at inside
    exact ⟨3600000 + i, rfl, by omega⟩
  ordered := List.pairwise_map.mpr (List.pairwise_lt_range.imp fun {_ _} less =>
    Nat.add_lt_add_left less 3600000)
  named := by
    intro row listed
    obtain ⟨i, -, rfl⟩ := List.mem_map.mp listed
    refine ⟨_, rfl, fun empty => ?_⟩
    have characters := congrArg String.toList empty
    simp at characters
  distinct := by
    rw [List.map_map]
    apply List.nodup_range.map
    intro i j same
    have characters := congrArg String.toList (Option.some.inj same)
    simpa using congrArg List.length characters

/-- An exchange with this ledger, of which it gives the first row when there is no cursor. -/
def ledgerExchange (ledger : ProviderLedger) : Exchange :=
  { sampleExchange [] with
    fetchLedger := fun since limit =>
      match since with
      | none => .ok (some (ledger.rows.take 1))
      | some ms => .ok (some ((ledger.rows.filter fun row => decide (ms ≤ row.timeMs)).take limit)) }

/-- The exchange that serves the ledger feeds it. -/
theorem feeds_ledgerExchange (ledger : ProviderLedger) : Feeds ledger (ledgerExchange ledger) where
  sinceCursor ms := ⟨_, rfl, List.Perm.refl _⟩
  withoutCursor page answered row member := by
    cases answered
    exact List.mem_of_mem_take member

/-- The sample provider before its first cycle. -/
def sampleUnmirrored : CustodialDatabase := sampleConnectedTo (sampleEnabled 30 false)

theorem sampleLedgerRow_deposit (btc : Nat → Bool) (i : Nat) :
    (sampleLedgerRow btc i).kind = .deposit :=
  show normaliseKind ("deposit".toList.map lowerChar) "in" = .deposit by decide

/-- A cycle that adds nothing and finds no withdrawals changes nothing. -/
theorem pollCycle_unchanged {env : PollEnv} {db : CustodialDatabase} {providerId : Uuid}
    {out : PollCycleOut} (polled : (pollCycle env db providerId).answer = .ok out)
    (quiet : getRecentWithdrawals env.exchange (env.checkedAt - week) = .ok [])
    (providers : (pollCycle env db providerId).db.custodialProviders.rows =
      db.custodialProviders.rows)
    (mirror : (pollCycle env db providerId).db.custodialLedger.rows = db.custodialLedger.rows) :
    (pollCycle env db providerId).db = db := by
  rw [pollCycle_answer] at polled
  obtain ⟨provider, seen, cycle⟩ := observedCycle_of_ok polled
  have unchecked : (pollCycle env db providerId).db = (observe env db providerId).db := by
    have none : txidUpdates env.listing (observe env db providerId).db [] = [] := by
      apply List.filterMap_eq_nil_iff.mpr
      intro execution _
      cases execution.providerWithdrawalId <;> rfl
    rw [pollCycle_db_of_ok polled, checkWithdrawalTxids, quiet]
    exact congrArg (recordTxids _) none
  rw [unchecked] at providers mirror
  rw [unchecked, cycle.tables, Table.ext providers, IndexedTable.ext mirror]

/-- A cycle of the sample provider against a ledger. -/
def sampleFeed (ledger : ProviderLedger) : PollEnv := samplePollEnv (ledgerExchange ledger)

/-- Two rows, both in bitcoin. -/
def samplePair : ProviderLedger := sampleLedger (fun _ => true) 2 (by decide)

/-- Three cycles after the first one, both rows are mirrored. -/
theorem ledgerMirror_complete_pair :
    Mirrored (pollCycle (sampleFeed samplePair)
        (pollCycle (sampleFeed samplePair) sampleUnmirrored 1).db 1).db 1
        (sampleLedgerRow (fun _ => true) 0) ∧
      Mirrored (pollCycle (sampleFeed samplePair)
        (pollCycle (sampleFeed samplePair) sampleUnmirrored 1).db 1).db 1
        (sampleLedgerRow (fun _ => true) 1) := by
  let env := sampleFeed samplePair
  let first := (pollCycle env sampleUnmirrored 1).db
  let second := (pollCycle env first 1).db
  have feeds : Feeds samplePair env.exchange := feeds_ledgerExchange samplePair
  have untraded : ∀ row ∈ samplePair.rows, row.kind ≠ .trade := by
    intro row listed
    obtain ⟨i, -, rfl⟩ := List.mem_map.mp listed
    rw [sampleLedgerRow_deposit]
    decide
  have unpolled : ConnectedProviderRepo.getLedgerCursor sampleUnmirrored 1 = none := rfl
  have answers : (pollCycle env sampleUnmirrored 1).answer = .ok ⟨1, 0, 0, hour, .healthy⟩ ∧
      (pollCycle env first 1).answer = .ok ⟨1, 0, 1, hour, .healthy⟩ ∧
      (pollCycle env second 1).answer = .ok ⟨0, 0, 1, hour, .healthy⟩ := by
    decide +kernel
  have cursor : ConnectedProviderRepo.getLedgerCursor first 1 = some 3600000000 := by
    decide +kernel
  have same : (pollCycle env second 1).db = second :=
    pollCycle_unchanged answers.2.2 rfl (by decide +kernel) (by decide +kernel)
  have one : MirrorStep samplePair 1 sampleUnmirrored (.poll env) first :=
    ⟨⟨feeds, _, answers.1⟩, rfl⟩
  have two : MirrorStep samplePair 1 first (.poll env) second := ⟨⟨feeds, _, answers.2.1⟩, rfl⟩
  have three : MirrorStep samplePair 1 second (.poll env) second :=
    ⟨⟨feeds, _, answers.2.2⟩, same.symm⟩
  have holds : CursorMirrored samplePair 1 sampleUnmirrored := fun cursor found => nomatch found
  have holdsFirst := cursorMirrored_step holds one
  have free : ∀ db, CursorMirrored samplePair 1 db → Unobstructed samplePair 1 db (.poll env) :=
    fun _ => unobstructed_of_short feeds (by decide) untraded
  have freeSecond := free second (cursorMirrored_step holdsFirst two)
  have run : Run (guarded (MirrorStep samplePair 1) (Unobstructed samplePair 1)) first
      (.poll env :: List.replicate 2 (.poll env)) second :=
    .cons ⟨free first holdsFirst, two⟩ (.replicate ⟨freeSecond, three⟩ 2)
  have due : ∀ i ∈ List.range 2, samplePair.Due (sampleLedgerRow (fun _ => true) i) := by
    intro i inside
    refine ⟨List.mem_map_of_mem inside, show isBtcCurrency "BTC" = true by decide, ?_⟩
    intro trade
    rw [sampleLedgerRow_deposit] at trade
    cases trade
  have mirrored := (ledgerMirror_complete unpolled (.single one) cursor run).2 (by decide)
  exact ⟨mirrored _ (due 0 (by decide)) (by decide), mirrored _ (due 1 (by decide)) (by decide)⟩

/-- A row in bitcoin, 199 in euros, and one in bitcoin. -/
def sampleForeign : ProviderLedger := sampleLedger (fun i => decide (i % 200 = 0)) 201 (by decide)

/-- The last row is never mirrored: every page is the first row and those in euros. -/
theorem not_ledgerMirror_complete_of_foreignPage :
    ConnectedProviderRepo.getLedgerCursor sampleUnmirrored 1 = none ∧
      Run (MirrorStep sampleForeign 1) sampleUnmirrored [.poll (sampleFeed sampleForeign)]
        (pollCycle (sampleFeed sampleForeign) sampleUnmirrored 1).db ∧
      ConnectedProviderRepo.getLedgerCursor
        (pollCycle (sampleFeed sampleForeign) sampleUnmirrored 1).db 1 = some 3600000000 ∧
      Run (MirrorStep sampleForeign 1) (pollCycle (sampleFeed sampleForeign) sampleUnmirrored 1).db
        (List.replicate (sampleForeign.rows.length + 1) (.poll (sampleFeed sampleForeign)))
        (pollCycle (sampleFeed sampleForeign) sampleUnmirrored 1).db ∧
      ∃ row, sampleForeign.Due row ∧ 3600000000 ≤ row.time ∧
        ¬Mirrored (pollCycle (sampleFeed sampleForeign) sampleUnmirrored 1).db 1 row := by
  let env := sampleFeed sampleForeign
  let first := (pollCycle env sampleUnmirrored 1).db
  have feeds : Feeds sampleForeign env.exchange := feeds_ledgerExchange sampleForeign
  have answers : (pollCycle env sampleUnmirrored 1).answer = .ok ⟨1, 0, 0, hour, .healthy⟩ ∧
      (pollCycle env first 1).answer = .ok ⟨0, 0, 1, hour, .healthy⟩ := by
    decide +kernel
  have same : (pollCycle env first 1).db = first :=
    pollCycle_unchanged answers.2 rfl (by decide +kernel) (by decide +kernel)
  have one : MirrorStep sampleForeign 1 sampleUnmirrored (.poll env) first :=
    ⟨⟨feeds, _, answers.1⟩, rfl⟩
  have back : MirrorStep sampleForeign 1 first (.poll env) first :=
    ⟨⟨feeds, _, answers.2⟩, same.symm⟩
  have last : sampleLedgerRow (fun i => decide (i % 200 = 0)) 200 ∈ sampleForeign.rows :=
    List.mem_map_of_mem (by decide)
  have due : sampleForeign.Due (sampleLedgerRow (fun i => decide (i % 200 = 0)) 200) := by
    refine ⟨last, by decide, fun trade => ?_⟩
    rw [sampleLedgerRow_deposit] at trade
    cases trade
  refine ⟨rfl, .single one, by decide +kernel, .replicate back _, _, due, by decide +kernel, ?_⟩
  rw [mirrored_iff]
  decide +kernel

end TallyKeep
