/-
Module: TallyKeep.Proofs.ListenerAnnouncements
Layer: Proofs
Purpose: What the listener announces of coins and ledger entries along every run: nothing twice, and
  all that it has recorded when the bus takes its events.
Trusted boundary: none
Main exports: receivedIds, categorizationIds, AnnouncedOnce, coinIds_nodup_of_reached,
  announcements_of_run
-/
import TallyKeep.Proofs.ListenerThread
import TallyKeep.Proofs.RecordIds

namespace TallyKeep

open History Relational Transition

variable {Psbt Tx : Type} {bdk : Bdk Psbt Tx} {chain : Chain}

/-! ### Ids that are announced -/

/-- The coin an event announces as received. -/
def ListenerEvent.received? : ListenerEvent → Option Uuid
  | .utxoReceived _ _ utxoId _ => some utxoId
  | _ => none

/-- The entry an event announces as uncategorized. -/
def ListenerEvent.uncategorized? : ListenerEvent → Option Uuid
  | .requiresCategorization ledgerEntryId => some ledgerEntryId
  | _ => none

def receivedIds (attempts : List Attempt) : List Uuid :=
  attempts.filterMap fun attempt => attempt.event.received?

def categorizationIds (attempts : List Attempt) : List Uuid :=
  attempts.filterMap fun attempt => attempt.event.uncategorized?

theorem receivedIds_append (attempts later : List Attempt) :
    receivedIds (attempts ++ later) = receivedIds attempts ++ receivedIds later :=
  List.filterMap_append

theorem categorizationIds_append (attempts later : List Attempt) :
    categorizationIds (attempts ++ later) = categorizationIds attempts ++ categorizationIds later :=
  List.filterMap_append

/-- The coins a task has yet to announce. -/
def ListenerTask.coins : ListenerTask → List Uuid
  | .tx _ _ => []
  | .emit events => events.result.discoveredUtxoIds

/-- The entries a task has yet to announce. -/
def ListenerTask.entries : ListenerTask → List Uuid
  | .tx _ _ => []
  | .emit events => events.result.newLedgerEntryIds

/-- A transaction that has no session yet. -/
def ListenerTask.Waiting : ListenerTask → Prop
  | .tx _ _ => True
  | .emit _ => False

/-- A coin is found by its id exactly when the id is in use. -/
theorem coinById_isSome_iff {db : Database} {utxoId : Uuid} :
    (coinById db utxoId).isSome ↔ utxoId ∈ coinIds db := by
  rw [coinById, List.find?_isSome, coinIds, List.mem_map]
  simp only [decide_eq_true_eq]

theorem id_of_coinById {db : Database} {utxoId : Uuid} {row : UtxoRow}
    (found : coinById db utxoId = some row) : row.id = utxoId :=
  of_decide_eq_true (List.find?_some found :)

/-- The event about a stored coin announces it. -/
theorem received?_utxoReceivedEvent {db : Database} {utxoId : Uuid}
    (stored : utxoId ∈ coinIds db) :
    (utxoReceivedEvent db utxoId).bind ListenerEvent.received? = some utxoId := by
  obtain ⟨row, found⟩ := Option.isSome_iff_exists.mp (coinById_isSome_iff.mpr stored)
  rw [utxoReceivedEvent, found]
  exact congrArg some (id_of_coinById found)

/-- An event about a spent coin announces no received one. -/
theorem received?_utxoSpentEvent (db : Database) (utxoId : Uuid) :
    (utxoSpentEvent db utxoId).bind ListenerEvent.received? = none := by
  rw [utxoSpentEvent]
  cases coinById db utxoId <;> rfl

theorem uncategorized?_utxoReceivedEvent (db : Database) (utxoId : Uuid) :
    (utxoReceivedEvent db utxoId).bind ListenerEvent.uncategorized? = none := by
  rw [utxoReceivedEvent]
  cases coinById db utxoId <;> rfl

theorem uncategorized?_utxoSpentEvent (db : Database) (utxoId : Uuid) :
    (utxoSpentEvent db utxoId).bind ListenerEvent.uncategorized? = none := by
  rw [utxoSpentEvent]
  cases coinById db utxoId <;> rfl

/-- What a function finds in the announcements of a transaction, from what it finds in their
    parts. -/
theorem filterMap_txEvents {β : Type} (f : ListenerEvent → Option β) (db : Database)
    (events : TxEvents) (aboutTx : f (txEvent events.result) = none)
    (aboutPayment : ∀ payload, f (.paymentRequestConfirmed payload) = none)
    (aboutInvoice : ∀ payload, f (.invoicePaid payload) = none)
    (aboutSweep : ∀ payload, f (.sweepExecutionCompleted payload) = none) :
    (txEvents db events).filterMap f =
      events.result.discoveredUtxoIds.filterMap
          (fun utxoId => (utxoReceivedEvent db utxoId).bind f) ++
        events.result.spentUtxoIds.filterMap (fun utxoId => (utxoSpentEvent db utxoId).bind f) ++
        events.result.newLedgerEntryIds.filterMap fun entryId =>
          f (.requiresCategorization entryId) := by
  have outcome : ((events.paymentConfirmation.map ListenerEvent.paymentRequestConfirmed).toList ++
      (events.invoicePaid.map ListenerEvent.invoicePaid).toList ++
      (events.sweepConfirmed.map ListenerEvent.sweepExecutionCompleted).toList).filterMap f =
        [] := by
    apply List.filterMap_eq_nil_iff.mpr
    intro event listed
    simp only [List.mem_append, Option.mem_toList, Option.map_eq_some_iff] at listed
    rcases listed with (⟨payload, -, rfl⟩ | ⟨payload, -, rfl⟩) | ⟨payload, -, rfl⟩
    · exact aboutPayment payload
    · exact aboutInvoice payload
    · exact aboutSweep payload
  rw [txEvents, List.append_assoc, List.append_assoc, List.filterMap_append, ← List.append_assoc,
    outcome, List.append_nil, resultEvents]
  split
  · rename_i unchanged
    rw [unchanged.1, unchanged.2.1, unchanged.2.2.1]
    rfl
  · rw [List.filterMap_cons_none aboutTx, List.filterMap_append, List.filterMap_append,
      List.filterMap_filterMap, List.filterMap_filterMap, List.filterMap_map]
    rfl

/-- The coins that are announced are those that were discovered and are still there. -/
theorem filterMap_received_txEvents {db : Database} {events : TxEvents}
    (stored : ∀ utxoId ∈ events.result.discoveredUtxoIds, utxoId ∈ coinIds db) :
    (txEvents db events).filterMap ListenerEvent.received? = events.result.discoveredUtxoIds := by
  have discovered : events.result.discoveredUtxoIds.filterMap (fun utxoId =>
      (utxoReceivedEvent db utxoId).bind ListenerEvent.received?) =
        events.result.discoveredUtxoIds := by
    rw [List.filterMap_congr fun utxoId member =>
      received?_utxoReceivedEvent (stored utxoId member)]
    exact List.filterMap_some
  have noEntries : events.result.newLedgerEntryIds.filterMap (fun entryId =>
      (ListenerEvent.requiresCategorization entryId).received?) = [] :=
    List.filterMap_eq_nil_iff.mpr fun _ _ => rfl
  rw [filterMap_txEvents _ _ _ _ (fun _ => rfl) (fun _ => rfl) fun _ => rfl, discovered,
    List.filterMap_eq_nil_iff.mpr fun utxoId _ => received?_utxoSpentEvent db utxoId, noEntries,
    List.append_nil, List.append_nil]
  rw [txEvent]
  split <;> rfl

/-- The entries that are announced are the new ones. -/
theorem filterMap_uncategorized_txEvents (db : Database) (events : TxEvents) :
    (txEvents db events).filterMap ListenerEvent.uncategorized? =
      events.result.newLedgerEntryIds := by
  rw [filterMap_txEvents _ _ _ _ (fun _ => rfl) (fun _ => rfl) fun _ => rfl,
    List.filterMap_eq_nil_iff.mpr fun utxoId _ => uncategorized?_utxoReceivedEvent db utxoId,
    List.filterMap_eq_nil_iff.mpr fun utxoId _ => uncategorized?_utxoSpentEvent db utxoId]
  · exact List.filterMap_some
  · rw [txEvent]
    split <;> rfl

/-! ### One announcement each -/

/-- What is announced or waits to be announced of the records made since a start: a part of them in
    their order, and all of them where nothing was refused and only the listener records. -/
structure AnnouncedOnce (start : Database) (alone : Prop) (s : ListenerState)
    (coins entries : List Uuid) : Prop where
  extended : RecordsExtended start s.db coins entries
  coinsPart : (receivedIds s.attempts ++ s.tasks.flatMap ListenerTask.coins).Sublist coins
  entriesPart :
    (categorizationIds s.attempts ++ s.tasks.flatMap ListenerTask.entries).Sublist entries
  whole : alone → (∀ attempt ∈ s.attempts, attempt.taken = true) →
    receivedIds s.attempts ++ s.tasks.flatMap ListenerTask.coins = coins ∧
      categorizationIds s.attempts ++ s.tasks.flatMap ListenerTask.entries = entries

/-- Only the first task can be one of announcing. -/
def EmitsFirst (tasks : List ListenerTask) : Prop := ∀ task ∈ tasks.tail, task.Waiting

/-- Waiting tasks hold no announcements. -/
theorem flatMap_of_waiting {tasks : List ListenerTask} (waiting : ∀ task ∈ tasks, task.Waiting) :
    tasks.flatMap ListenerTask.coins = [] ∧ tasks.flatMap ListenerTask.entries = [] := by
  constructor
  · apply List.flatMap_eq_nil_iff.mpr
    intro task member
    have held := waiting task member
    cases task with
    | tx txid height => rfl
    | emit events => exact held.elim
  · apply List.flatMap_eq_nil_iff.mpr
    intro task member
    have held := waiting task member
    cases task with
    | tx txid height => rfl
    | emit events => exact held.elim

theorem EmitsFirst.rest {task : ListenerTask} {rest : List ListenerTask}
    (first : EmitsFirst (task :: rest)) : EmitsFirst rest := by
  intro later member
  exact first later (List.mem_of_mem_tail member)

/-- The invariant of a run: the database is sound, and what is announced is in order. -/
structure Announcing (chain : Chain) (start : Database) (alone : Prop) (s : ListenerState) :
    Prop where
  sound : Sound chain s.db
  first : EmitsFirst s.tasks
  once : ∃ coins entries, AnnouncedOnce start alone s coins entries

/-- A move that touches neither the database nor the announcements. -/
theorem AnnouncedOnce.keep {start : Database} {alone : Prop} {s t : ListenerState}
    {coins entries : List Uuid} (once : AnnouncedOnce start alone s coins entries)
    (db : t.db = s.db) (received : receivedIds t.attempts = receivedIds s.attempts)
    (categorized : categorizationIds t.attempts = categorizationIds s.attempts)
    (taken : (∀ attempt ∈ t.attempts, attempt.taken = true) →
      ∀ attempt ∈ s.attempts, attempt.taken = true)
    (taskCoins : t.tasks.flatMap ListenerTask.coins = s.tasks.flatMap ListenerTask.coins)
    (taskEntries : t.tasks.flatMap ListenerTask.entries = s.tasks.flatMap ListenerTask.entries) :
    AnnouncedOnce start alone t coins entries := by
  refine ⟨?_, ?_, ?_, ?_⟩
  · rw [db]
    exact once.extended
  · rw [received, taskCoins]
    exact once.coinsPart
  · rw [categorized, taskEntries]
    exact once.entriesPart
  · intro isAlone all
    rw [received, taskCoins, categorized, taskEntries]
    exact once.whole isAlone (taken all)

/-- The session of a transaction: what it records waits to be announced. -/
theorem AnnouncedOnce.committed {start : Database} {alone : Prop} {s : ListenerState}
    {coins entries : List Uuid} (once : AnnouncedOnce start alone s coins entries)
    (wellFormed : ChainWellFormed s.db) {txid : Txid} {height : Option Nat}
    {rest : List ListenerTask} (first : s.tasks = .tx txid height :: rest)
    (waiting : ∀ task ∈ rest, task.Waiting) {tx : DecodedTx} {ctx : TxContext} {db : Database}
    {events : TxEvents} (run : handleTxDb s.db tx ctx = .ok (db, events)) :
    AnnouncedOnce start alone { s with db := db, tasks := .emit events :: rest }
      (coins ++ events.result.discoveredUtxoIds) (entries ++ events.result.newLedgerEntryIds) := by
  obtain ⟨noCoins, noEntries⟩ := flatMap_of_waiting waiting
  have noneBefore : s.tasks.flatMap ListenerTask.coins = [] ∧
      s.tasks.flatMap ListenerTask.entries = [] := by
    rw [first, List.flatMap_cons, List.flatMap_cons, noCoins, noEntries]
    exact ⟨rfl, rfl⟩
  have before := once.coinsPart
  have beforeEntries := once.entriesPart
  have whole := once.whole
  rw [noneBefore.1, List.append_nil] at before whole
  rw [noneBefore.2, List.append_nil] at beforeEntries whole
  refine ⟨once.extended.trans (.handled wellFormed run), ?_, ?_, ?_⟩
  · rw [List.flatMap_cons, noCoins, List.append_nil]
    exact before.append (.refl _)
  · rw [List.flatMap_cons, noEntries, List.append_nil]
    exact beforeEntries.append (.refl _)
  · intro isAlone all
    rw [List.flatMap_cons, List.flatMap_cons, noCoins, noEntries, List.append_nil, List.append_nil]
    obtain ⟨allCoins, allEntries⟩ := whole isAlone all
    rw [allCoins, allEntries]
    exact ⟨rfl, rfl⟩

/-- The announcements of a transaction take the place of what waited. -/
theorem AnnouncedOnce.announced {start : Database} {alone : Prop} {s : ListenerState}
    {coins entries : List Uuid} (once : AnnouncedOnce start alone s coins entries)
    {events : TxEvents} {rest : List ListenerTask} (first : s.tasks = .emit events :: rest)
    (waiting : ∀ task ∈ rest, task.Waiting) (env : ListenerEnv) :
    AnnouncedOnce start alone (publishAll env { s with tasks := rest } (txEvents s.db events))
      coins entries := by
  obtain ⟨noCoins, noEntries⟩ := flatMap_of_waiting waiting
  obtain ⟨asked, same, begins, everything⟩ :=
    publishAll_asks env (txEvents s.db events) { s with tasks := rest }
  have before := once.coinsPart
  have beforeEntries := once.entriesPart
  have whole := once.whole
  rw [first, List.flatMap_cons, noCoins, List.append_nil] at before
  rw [first, List.flatMap_cons, noEntries, List.append_nil] at beforeEntries
  rw [first, List.flatMap_cons, List.flatMap_cons, noCoins, noEntries, List.append_nil,
    List.append_nil] at whole
  have stored : ∀ utxoId ∈ events.result.discoveredUtxoIds, utxoId ∈ coinIds s.db := by
    intro utxoId member
    rw [once.extended.coinIds_eq]
    exact List.mem_append_right _ (before.subset (List.mem_append_right _ member))
  have askedCoins : receivedIds asked <+: events.result.discoveredUtxoIds := by
    have part := begins.filterMap ListenerEvent.received?
    rwa [filterMap_received_txEvents stored, List.filterMap_map] at part
  have askedEntries : categorizationIds asked <+: events.result.newLedgerEntryIds := by
    have part := begins.filterMap ListenerEvent.uncategorized?
    rwa [filterMap_uncategorized_txEvents, List.filterMap_map] at part
  rw [publishAll_fields]
  refine ⟨once.extended, ?_, ?_, ?_⟩
  · simp only
    rw [same, receivedIds_append, noCoins, List.append_nil]
    exact ((List.Sublist.refl _).append askedCoins.sublist).trans before
  · simp only
    rw [same, categorizationIds_append, noEntries, List.append_nil]
    exact ((List.Sublist.refl _).append askedEntries.sublist).trans beforeEntries
  · simp only
    rw [same]
    intro isAlone all
    have allAsked := everything fun attempt member => all attempt (List.mem_append_right _ member)
    obtain ⟨allCoins, allEntries⟩ := whole isAlone fun attempt member =>
      all attempt (List.mem_append_left _ member)
    have fullCoins : receivedIds asked = events.result.discoveredUtxoIds := by
      rw [← filterMap_received_txEvents stored, ← allAsked, List.filterMap_map]
      rfl
    have fullEntries : categorizationIds asked = events.result.newLedgerEntryIds := by
      rw [← filterMap_uncategorized_txEvents s.db events, ← allAsked, List.filterMap_map]
      rfl
    rw [receivedIds_append, categorizationIds_append, fullCoins, fullEntries, noCoins, noEntries,
      List.append_nil, List.append_nil]
    exact ⟨allCoins, allEntries⟩

/-- A move keeps what was announced and what waits in step with the records. -/
theorem Announcing.moved {start : Database} {alone : Prop} {s t : ListenerState}
    (announcing : Announcing chain start alone s)
    (move : ListenerMove bdk chain
      (fun operation => ¬operation.Deletes ∧ (alone → ¬operation.Scans)) s () t) :
    Announcing chain start alone t := by
  obtain ⟨sound, emits, coins, entries, once⟩ := announcing
  cases move with
  | queued idle live txs =>
      have waiting : ∀ task ∈ txs.map (fun queued => ListenerTask.tx queued.1 queued.2),
          task.Waiting := by
        intro task member
        obtain ⟨queued, -, rfl⟩ := List.mem_map.mp member
        trivial
      obtain ⟨noCoins, noEntries⟩ := flatMap_of_waiting waiting
      refine ⟨sound, fun task member => waiting task (List.mem_of_mem_tail member), coins, entries,
        once.keep rfl rfl rfl id ?_ ?_⟩
      · rw [idle]
        exact noCoins
      · rw [idle]
        exact noEntries
  | dropped first =>
      rw [first] at emits
      refine ⟨sound, emits.rest, coins, entries, once.keep rfl rfl rfl id ?_ ?_⟩
      · rw [first]
        rfl
      · rw [first]
        rfl
  | changed differs placed taken =>
      refine ⟨sound, emits, coins, entries, once.keep rfl ?_ ?_ ?_ rfl rfl⟩
      · simp [receivedIds, ListenerEvent.received?]
      · simp [categorizationIds, ListenerEvent.uncategorized?]
      · exact fun all attempt member => all attempt (List.mem_append_left _ member)
  | tip height blockHash taken =>
      refine ⟨sound, emits, coins, entries, once.keep rfl ?_ ?_ ?_ rfl rfl⟩
      · simp [receivedIds, ListenerEvent.received?]
      · simp [categorizationIds, ListenerEvent.uncategorized?]
      · exact fun all attempt member => all attempt (List.mem_append_left _ member)
  | estimated stale => exact ⟨sound, emits, coins, entries, once.keep rfl rfl rfl id rfl rfl⟩
  | @committed txid height rest first tx ctx db events asked decoded priced run =>
      rw [first] at emits
      exact ⟨sound_step _ _ _ sound (systemStep_of_handled bdk decoded run),
        fun task member => emits task member, _, _,
        once.committed sound.wellFormed first (fun task member => emits task member) run⟩
  | announced first env =>
      rw [first] at emits
      have after := once.announced first (fun task member => emits task member) env
      refine ⟨?_, ?_, coins, entries, after⟩
      · rw [publishAll_fields]
        exact sound
      · rw [publishAll_fields]
        exact emits.rest
  | halted => exact ⟨sound, emits, coins, entries, once.keep rfl rfl rfl id rfl rfl⟩
  | @other operation legal elsewhere permitted =>
      obtain ⟨moreCoins, moreEntries, extended, quiet⟩ :=
        recordsExtended_of_step bdk s.db permitted.1 elsewhere
      refine ⟨sound_step _ _ _ sound ⟨legal, rfl⟩, emits, coins ++ moreCoins,
        entries ++ moreEntries, once.extended.trans extended,
        once.coinsPart.trans (List.sublist_append_left _ _),
        once.entriesPart.trans (List.sublist_append_left _ _), ?_⟩
      intro isAlone all
      obtain ⟨noCoins, noEntries⟩ := quiet (permitted.2 isAlone)
      rw [noCoins, noEntries, List.append_nil, List.append_nil]
      exact once.whole isAlone all

/-! ### Distinct ids -/

/-- A deletion leaves no coin id in use twice. -/
theorem coinIds_nodup_deletionResult {db : Database} (distinct : (coinIds db).Nodup)
    (holdingId : Uuid) (policyIds : List Uuid) :
    (coinIds (deletionResult db holdingId policyIds)).Nodup :=
  distinct.sublist (List.filter_sublist.map UtxoRow.id)

/-- No two coins have one id. -/
theorem coinIds_nodup_of_reached {db : Database} (reached : Reached bdk chain db) :
    (coinIds db).Nodup := by
  have both : Sound chain db ∧ (coinIds db).Nodup := by
    apply reached.invariant
    · rintro db rfl
      exact ⟨.ofEmpty chain, List.nodup_nil⟩
    · intro db operation db' both taken
      obtain ⟨sound, distinct⟩ := both
      refine ⟨sound_step db operation db' sound taken, ?_⟩
      obtain ⟨-, rfl⟩ := taken
      by_cases handles : operation.Handles
      · cases operation with
        | handleTx tx ctx =>
            rw [step]
            apply commitOrRollback_invariant (I := fun after => (coinIds after).Nodup) distinct
            intro after run
            obtain ⟨events, run⟩ := map_fst_ok run
            exact (RecordsExtended.handled sound.wellFormed run).nodup distinct
        | _ => exact handles.elim
      · by_cases deletes : operation.Deletes
        · cases operation with
          | deleteHolding holdingId policyIds =>
              rcases step_deleteHolding bdk db holdingId policyIds with same | ⟨-, after⟩
              · rw [same]
                exact distinct
              · rw [after]
                exact coinIds_nodup_deletionResult distinct holdingId policyIds
          | _ => exact deletes.elim
        · obtain ⟨coins, entries, extended, -⟩ := recordsExtended_of_step bdk db deletes handles
          exact extended.nodup distinct
  exact both.2

/-- Each coin is announced as received at most once and each ledger entry as uncategorized at most
    once, in the order in which they are recorded, whatever bitcoind and the bus answer, as long as
    no holding is deleted meanwhile.  Where nothing else records coins and the bus takes every
    event, all that is recorded is announced by the time the listener has nothing left to do. -/
theorem announcements_of_run {db : Database} (reached : Reached bdk chain db)
    {labels : List ListenerLabel} {s : ListenerState}
    (run : ListenerRun bdk chain (.started db) labels s)
    (kept : ∀ operation, .other operation ∈ labels → ¬operation.Deletes) :
    ∃ coins entries, coinIds s.db = coinIds db ++ coins ∧ entryIds s.db = entryIds db ++ entries ∧
      coins.Nodup ∧ entries.Nodup ∧ (receivedIds s.attempts).Sublist coins ∧
      (categorizationIds s.attempts).Sublist entries ∧
      ((∀ operation, .other operation ∈ labels → ¬operation.Scans) →
        (∀ attempt ∈ s.attempts, attempt.taken = true) → s.tasks = [] →
          receivedIds s.attempts = coins ∧ categorizationIds s.attempts = entries) := by
  have sound := sound_of_reached reached
  have distinct := coinIds_nodup_of_reached reached
  have started : Announcing chain db
      (∀ operation, .other operation ∈ labels → ¬operation.Scans) (.started db) := by
    refine ⟨sound, ?_, [], [], .refl db, List.Sublist.refl _, List.Sublist.refl _,
      fun _ _ => ⟨rfl, rfl⟩⟩
    intro task member
    cases member
  obtain ⟨-, -, coins, entries, once⟩ := invariant_of_listener
    (I := Announcing chain db (∀ operation, .other operation ∈ labels → ¬operation.Scans))
    (fun _ _ announcing move => announcing.moved move)
    (fun operation member => ⟨kept operation member, fun isAlone => isAlone operation member⟩) run
    started
  have coinsEq := once.extended.coinIds_eq
  have entriesEq := once.extended.entryIds_eq
  refine ⟨coins, entries, coinsEq, entriesEq, ?_, ?_,
    (List.sublist_append_left _ _).trans once.coinsPart,
    (List.sublist_append_left _ _).trans once.entriesPart, ?_⟩
  · have all := once.extended.nodup distinct
    rw [coinsEq] at all
    exact all.sublist (List.sublist_append_right _ _)
  · have all : (entryIds s.db).Nodup := s.db.ledgerEntries.keysNodup
    rw [entriesEq] at all
    exact all.sublist (List.sublist_append_right _ _)
  · intro isAlone all idle
    have whole := once.whole isAlone all
    rwa [idle, List.flatMap_nil, List.flatMap_nil, List.append_nil, List.append_nil] at whole

/-- The coin and the entry of the sample payment are announced. -/
theorem announcements_of_payment : ∃ coins entries,
    coinIds sampleListening.db = coinIds (invoiceWaiting 100000) ++ coins ∧
      entryIds sampleListening.db = entryIds (invoiceWaiting 100000) ++ entries ∧
      receivedIds sampleListening.attempts = coins ∧
      categorizationIds sampleListening.attempts = entries ∧
      coins.length = 1 ∧ entries.length = 1 := by
  have nobody : ∀ operation, ListenerLabel.other operation ∉ sampleLabels := by
    intro operation listed
    simp [sampleLabels] at listed
  have facts : (∀ attempt ∈ sampleListening.attempts, attempt.taken = true) ∧
      sampleListening.tasks = [] ∧ (receivedIds sampleListening.attempts).length = 1 ∧
      (categorizationIds sampleListening.attempts).length = 1 := by
    decide +kernel
  obtain ⟨taken, idle, oneCoin, oneEntry⟩ := facts
  obtain ⟨coins, entries, sameCoins, sameEntries, -, -, -, -, whole⟩ :=
    announcements_of_run (invoiceWaiting_reached 100000) sampleListening_run
      fun operation listed => absurd listed (nobody operation)
  obtain ⟨allCoins, allEntries⟩ :=
    whole (fun operation listed => absurd listed (nobody operation)) taken idle
  exact ⟨coins, entries, sameCoins, sameEntries, allCoins, allEntries, allCoins ▸ oneCoin,
    allEntries ▸ oneEntry⟩

end TallyKeep
