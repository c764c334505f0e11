/-
Module: TallyKeep.Proofs.AmountAgreement
Layer: Proofs
Purpose: A withdrawal from the item of the provider to its reconciliation: the entry has the negated
  magnitude, which the reconciler compares with intended amounts that are positive.
Trusted boundary: none
Main exports: RawLedgerItem.Withdraws, RawLedgerItem.magnitudeSats, satsOf_signedAmount,
  withinTolerance_neg_iff, PublishedFor, publishedFor_of_polled, AmountsAgree, amountsAgree_iff
-/
import TallyKeep.Proofs.LedgerPages
import TallyKeep.Proofs.Reconciliation

namespace TallyKeep

open Relational Binary64

/-! ### Signs and rounding -/

/-- A withdrawal of bitcoin in the unified shape: its amount is positive and goes out, or is
    negative. -/
structure RawLedgerItem.Withdraws (item : RawLedgerItem) : Prop where
  btc : item.isBtc = true
  kind : item.kind = .withdrawal
  shape : ∃ amount, item.amount = some amount ∧
    (0 < amount ∧ item.directionText = "out" ∨ amount < 0)

/-- The magnitude of the amount, in satoshis. -/
def RawLedgerItem.magnitudeSats (item : RawLedgerItem) : Int := satsOf |item.amount.getD 0|

theorem satsOf_neg (amount : ℚ) : satsOf (-amount) = -satsOf amount := by
  rw [satsOf, satsOf, neg_mul, toDouble_neg, roundHalfEven_neg]

theorem satsOf_nonneg {amount : ℚ} (nonneg : 0 ≤ amount) : 0 ≤ satsOf amount :=
  roundHalfEven_nonneg (toDouble_nonneg (by positivity))

theorem RawLedgerItem.magnitudeSats_nonneg (item : RawLedgerItem) : 0 ≤ item.magnitudeSats :=
  satsOf_nonneg (abs_nonneg _)

/-- The adapter makes the amount negative, whichever shape it has. -/
theorem RawLedgerItem.Withdraws.signedAmount_eq {item : RawLedgerItem}
    (withdrawal : item.Withdraws) : item.signedAmount = -|item.amount.getD 0| := by
  obtain ⟨amount, given, shape⟩ := withdrawal.shape
  rw [signedAmount, given, Option.getD_some]
  cases shape with
  | inl out => rw [if_pos ⟨out.2, out.1⟩, abs_of_pos out.1]
  | inr negative =>
      rw [if_neg (fun out => lt_asymm out.2 negative), abs_of_neg negative, neg_neg]

theorem satsOf_signedAmount {item : RawLedgerItem} (withdrawal : item.Withdraws) :
    satsOf item.signedAmount = -item.magnitudeSats := by
  rw [withdrawal.signedAmount_eq, satsOf_neg, RawLedgerItem.magnitudeSats]

/-! ### The tolerance -/

/-- Two percent of an amount, rounded, are less than the amount. -/
theorem twoPercent_lt {intended : Nat} (positive : 0 < intended) :
    ⌊toDouble (toDouble intended * toDouble (1 / 50))⌋ < (intended : Int) := by
  have amount : (0 : ℚ) < intended := by exact_mod_cast positive
  have rounded : toDouble (intended : ℚ) ≤ 2 * intended := toDouble_le_two_mul amount.le
  have fraction : toDouble (1 / 50 : ℚ) ≤ 2 * (1 / 50) := toDouble_le_two_mul (by norm_num)
  have product : toDouble (intended : ℚ) * toDouble (1 / 50) ≤ 2 * intended * (2 * (1 / 50)) :=
    mul_le_mul rounded fraction (toDouble_nonneg (by norm_num)) (by positivity)
  have nonneg : 0 ≤ toDouble (intended : ℚ) * toDouble (1 / 50) :=
    mul_nonneg (toDouble_nonneg amount.le) (toDouble_nonneg (by norm_num))
  rw [Int.floor_lt]
  calc toDouble (toDouble intended * toDouble (1 / 50))
      ≤ 2 * (toDouble intended * toDouble (1 / 50)) := toDouble_le_two_mul nonneg
    _ ≤ 2 * (2 * intended * (2 * (1 / 50))) := by linarith
    _ < ((intended : Int) : ℚ) := by
        push_cast
        linarith

/-- A tolerance is the floor, or less than the amount it is for. -/
theorem toleranceOf_eq_or_lt (intended : Nat) :
    toleranceOf intended = toleranceFloorSats ∨ toleranceOf intended < intended := by
  rcases Nat.eq_zero_or_pos intended with rfl | positive
  · left
    simp [toleranceOf, toleranceFloorSats]
  · rcases max_cases ⌊toDouble (toDouble intended * toDouble (1 / 50))⌋ toleranceFloorSats with
      ⟨first, _⟩ | ⟨second, _⟩
    · right
      rw [toleranceOf, first]
      exact twoPercent_lt positive
    · exact .inl second

/-- A negative amount is within tolerance of an intended one only under the floor. -/
theorem withinTolerance_neg_iff {magnitude : Int} (nonneg : 0 ≤ magnitude) (intended : Nat) :
    withinTolerance (-magnitude) intended = true ↔ magnitude + intended ≤ toleranceFloorSats := by
  have distance : |-magnitude - (intended : Int)| = magnitude + intended := by
    rw [abs_of_nonpos (by omega)]
    omega
  rw [withinTolerance, decide_eq_true_iff, distance]
  constructor
  · intro near
    rcases toleranceOf_eq_or_lt intended with floor | small
    · rw [floor] at near
      exact near
    · omega
  · intro under
    exact under.trans (le_max_right _ _)

theorem withinTolerance_of_neg {magnitude : Int} (nonneg : 0 ≤ magnitude) {intended : Nat}
    (near : withinTolerance (-magnitude) intended = true) :
    withinTolerance magnitude intended = true := by
  have closer : |magnitude - (intended : Int)| ≤ |-magnitude - (intended : Int)| := by
    rw [abs_of_nonpos (show -magnitude - (intended : Int) ≤ 0 by omega)]
    exact abs_le.mpr ⟨by omega, by omega⟩
  exact decide_eq_true (closer.trans (of_decide_eq_true near))

/-! ### From the item to its event -/

/-- The event says that the cycle has stored a new entry for the item, without a link. -/
structure PublishedFor (env : PollEnv) (db : CustodialDatabase) (providerId : Uuid)
    (item : RawLedgerItem) (event : CustodialEvent) (entry : EntryPayload) : Prop where
  published : event ∈ (pollCycle env db providerId).events
  topic : event.topic = "treasury.custodial.ledger_entry_added"
  account : ∃ provider, db.custodialProviders.get? providerId = some provider ∧
    event.payload.holdingId = provider.holdingId
  carried : event.payload.entry = some entry
  named : entry.providerEntryId = item.providerEntryId
  kind : entry.kind = .withdrawal
  timestamp : entry.timestamp =
    Kraken.itemTime (ConnectedProviderRepo.getLedgerCursor db providerId) item
  amountSats : entry.amountSats = -item.magnitudeSats
  stored : ∃ row, (pollCycle env db providerId).db.custodialLedger.get? entry.id = some row ∧
    row.linkedSweepExecutionId = none

/-- A cycle publishes an event for each withdrawal of its page that it has not mirrored before. -/
theorem publishedFor_of_polled {env : PollEnv} {db : CustodialDatabase} {providerId : Uuid}
    {out : PollCycleOut} {page : List RawLedgerItem} {item : RawLedgerItem}
    (polled : (pollCycle env db providerId).answer = .ok out)
    (answered : env.exchange.fetchLedger
      ((ConnectedProviderRepo.getLedgerCursor db providerId).map sinceMs) 200 = .ok (some page))
    (listed : item ∈ page) (withdrawal : item.Withdraws)
    (absent : db.custodialLedger.find? (providerId, item.providerEntryId) = none) :
    ∃ event entry, PublishedFor env db providerId item event entry := by
  rw [pollCycle_answer] at polled
  obtain ⟨provider, seen, cycle⟩ := observedCycle_of_ok polled
  have read := Kraken.pageRead_of_fetched answered cycle.fetched
  have materialised : Kraken.MaterialisedIn page item := by
    apply Kraken.materialisedIn_of_not_trade listed withdrawal.btc
    rw [withdrawal.kind]
    decide
  obtain ⟨entryId, stored, published⟩ :=
    cycle.published ((read.materialised _).mpr ⟨item, materialised, rfl⟩) absent
  rw [← pollCycle_events] at published
  rw [← (pollCycle_tables env db providerId).2] at stored
  exact ⟨_, _,
    { published := published
      topic := rfl
      account := ⟨provider, cycle.stored, rfl⟩
      carried := rfl
      named := rfl
      kind := withdrawal.kind
      timestamp := rfl
      amountSats := satsOf_signedAmount withdrawal
      stored := ⟨_, stored, rfl⟩ }⟩

/-! ### From the event to the link -/

/-- The entry ends as the magnitude asks: linked to the only pending execution within tolerance of
    it, and unmatched where none is. -/
structure AmountsAgree (before after : CustodialDatabase) (holdingId entryId : Uuid)
    (magnitude : Int) (entryTs : Timestamp) : Prop where
  linked : ∀ execution, OnlyMatch before holdingId magnitude entryTs execution →
    ∃ row, after.custodialLedger.get? entryId = some row ∧
      row.linkedSweepExecutionId = some execution.id
  unmatched : (∀ execution : SweepExecutionRow, execution.PendingOutflow before holdingId entryTs →
      withinTolerance magnitude execution.intendedAmountSats = false) →
    ∃ row, after.custodialLedger.get? entryId = some row ∧
      row.linkedSweepExecutionId = none ∧ row.reconciledAt.isSome = true

section Agreement

variable {db : CustodialDatabase} {event : CustodialEvent} {entry : EntryPayload}
  {row : CustodialLedgerEntryRow} {holdingId : Uuid} {magnitude : Int} {entryTs : Timestamp}

theorem onlyMatch_neg (nonneg : 0 ≤ magnitude) {execution : SweepExecutionRow}
    (only : OnlyMatch db holdingId magnitude entryTs execution)
    (under : magnitude + execution.intendedAmountSats ≤ toleranceFloorSats) :
    OnlyMatch db holdingId (-magnitude) entryTs execution where
  pending := only.pending
  near := (withinTolerance_neg_iff nonneg _).mpr under
  only other pending near := only.only other pending (withinTolerance_of_neg nonneg near)

theorem entryAfter_linked (stored : db.custodialLedger.get? entry.id = some row)
    (withdrawal : WithdrawalEvent event entry) {execution : SweepExecutionRow}
    (only : OnlyMatch db event.payload.holdingId entry.amountSats entry.timestamp execution)
    (now : Timestamp) :
    ∃ after, (onEntryAdded db event now).custodialLedger.get? entry.id = some after ∧
      after.linkedSweepExecutionId = some execution.id := by
  have same : row.id = entry.id := (IndexedTable.get?_eq_some_iff.mp stored).2
  rw [withdrawal.onEntryAdded, reconcileOutflow_of_match only, get?_entry_commit, stored,
    Option.map_some]
  refine ⟨_, rfl, ?_⟩
  rw [Reconciliation.entryAfter, if_pos same]
  rfl

theorem entryAfter_unmatched (stored : db.custodialLedger.get? entry.id = some row)
    (withdrawal : WithdrawalEvent event entry)
    (none : ∀ execution,
      ¬OnlyMatch db event.payload.holdingId entry.amountSats entry.timestamp execution)
    (now : Timestamp) :
    (onEntryAdded db event now).custodialLedger.get? entry.id = some (row.unmatched now) := by
  have same : row.id = entry.id := (IndexedTable.get?_eq_some_iff.mp stored).2
  rw [withdrawal.onEntryAdded, reconcileOutflow_of_none none, get?_entry_commit, stored,
    Option.map_some, Reconciliation.entryAfter, if_pos same]

/-- The entry of a withdrawal, stored without a link, is handled as its magnitude asks exactly when
    this and the intended amount of its match are together under the floor of the tolerance. -/
theorem amountsAgree_onEntryAdded_iff (nonneg : 0 ≤ magnitude)
    (amountSats : entry.amountSats = -magnitude)
    (stored : db.custodialLedger.get? entry.id = some row)
    (unlinked : row.linkedSweepExecutionId = none) (withdrawal : WithdrawalEvent event entry)
    (now : Timestamp) :
    AmountsAgree db (onEntryAdded db event now) event.payload.holdingId entry.id magnitude
        entry.timestamp ↔
      ∀ execution, OnlyMatch db event.payload.holdingId magnitude entry.timestamp execution →
        magnitude + execution.intendedAmountSats ≤ toleranceFloorSats := by
  constructor
  · intro agree execution only
    obtain ⟨after, found, linked⟩ := agree.linked execution only
    by_contra exceeds
    -- No other execution is within tolerance of the negative amount either.
    have none : ∀ other,
        ¬OnlyMatch db event.payload.holdingId entry.amountSats entry.timestamp other := by
      intro other match'
      rw [amountSats] at match'
      have same := only.only other match'.pending (withinTolerance_of_neg nonneg match'.near)
      subst same
      exact exceeds ((withinTolerance_neg_iff nonneg _).mp match'.near)
    rw [entryAfter_unmatched stored withdrawal none, Option.some.injEq] at found
    rw [← found, CustodialLedgerEntryRow.unmatched, unlinked] at linked
    cases linked
  · intro under
    constructor
    · intro execution only
      have match' := onlyMatch_neg nonneg only (under execution only)
      rw [← amountSats] at match'
      exact entryAfter_linked stored withdrawal match' now
    · intro far
      have none : ∀ other,
          ¬OnlyMatch db event.payload.holdingId entry.amountSats entry.timestamp other := by
        intro other match'
        rw [amountSats] at match'
        have near := withinTolerance_of_neg nonneg match'.near
        rw [far other match'.pending] at near
        cases near
      exact ⟨_, entryAfter_unmatched stored withdrawal none now, unlinked, rfl⟩

end Agreement

/-- Each withdrawal of a page that a cycle has not mirrored before is published with an event; when
    the event is handled, in any state that still has the entry as the cycle has stored it, the
    entry ends as the magnitude asks exactly when this and the intended amount of the match are
    together at most 10,000 satoshis. -/
theorem amountsAgree_iff {env : PollEnv} {db : CustodialDatabase} {providerId : Uuid}
    {out : PollCycleOut} {page : List RawLedgerItem} {item : RawLedgerItem}
    (polled : (pollCycle env db providerId).answer = .ok out)
    (answered : env.exchange.fetchLedger
      ((ConnectedProviderRepo.getLedgerCursor db providerId).map sinceMs) 200 = .ok (some page))
    (listed : item ∈ page) (withdrawal : item.Withdraws)
    (absent : db.custodialLedger.find? (providerId, item.providerEntryId) = none) :
    ∃ event entry, PublishedFor env db providerId item event entry ∧
      ∀ before now, before.custodialLedger.get? entry.id =
          (pollCycle env db providerId).db.custodialLedger.get? entry.id →
        (AmountsAgree before (onEntryAdded before event now) event.payload.holdingId entry.id
            item.magnitudeSats entry.timestamp ↔
          ∀ execution, OnlyMatch before event.payload.holdingId item.magnitudeSats entry.timestamp
            execution → item.magnitudeSats + execution.intendedAmountSats ≤ 10000) := by
  obtain ⟨event, entry, published⟩ :=
    publishedFor_of_polled polled answered listed withdrawal absent
  refine ⟨event, entry, published, fun before now same => ?_⟩
  obtain ⟨row, stored, unlinked⟩ := published.stored
  exact amountsAgree_onEntryAdded_iff item.magnitudeSats_nonneg published.amountSats
    (same.trans stored) unlinked ⟨published.carried, published.kind⟩ now

theorem withdraws_sampleItem {id : String} {amountSats timestamp : Nat}
    (positive : 0 < toDouble ((amountSats : ℚ) / 100000000)) :
    (sampleItem id amountSats timestamp).Withdraws where
  btc := show isBtcCurrency "BTC" = true by decide
  kind := show normaliseKind ("withdrawal".toList.map lowerChar) "out" = .withdrawal by decide
  shape := ⟨_, rfl, .inl ⟨positive, rfl⟩⟩

/-- The sample provider after its execution of some amount. -/
def sampleConnectedSwept (amountSats : Nat) : CustodialDatabase :=
  sampleConnectedTo (sampleSwept amountSats)

/-- A cycle that finds a withdrawal of this amount. -/
def sampleWithdrawalEnv (amountSats : Nat) : PollEnv :=
  samplePollEnv (sampleExchange [sampleItem "L1" amountSats 3600000])

/-- A withdrawal of 4,000 satoshis is linked to the execution of 4,000. -/
theorem amountsAgree_iff_smallWithdrawal :
    ∃ event entry,
      PublishedFor (sampleWithdrawalEnv 4000) (sampleConnectedSwept 4000) 1
        (sampleItem "L1" 4000 3600000) event entry ∧
      AmountsAgree (pollCycle (sampleWithdrawalEnv 4000) (sampleConnectedSwept 4000) 1).db
        (onEntryAdded (pollCycle (sampleWithdrawalEnv 4000) (sampleConnectedSwept 4000) 1).db event
          hour) event.payload.holdingId entry.id (sampleItem "L1" 4000 3600000).magnitudeSats
        entry.timestamp := by
  have polled : (pollCycle (sampleWithdrawalEnv 4000) (sampleConnectedSwept 4000) 1).answer =
      .ok ⟨1, 0, 0, hour, .healthy⟩ := by
    decide +kernel
  have absent : (sampleConnectedSwept 4000).custodialLedger.find?
      (1, (sampleItem "L1" 4000 3600000).providerEntryId) = none := by
    decide
  have small : ∀ execution ∈
      (pollCycle (sampleWithdrawalEnv 4000) (sampleConnectedSwept 4000) 1).db.sweepExecutions.rows,
        (sampleItem "L1" 4000 3600000).magnitudeSats + execution.intendedAmountSats ≤ 10000 := by
    decide +kernel
  obtain ⟨event, entry, published, agrees⟩ :=
    amountsAgree_iff polled rfl (List.mem_singleton.mpr rfl)
      (withdraws_sampleItem (by decide +kernel)) absent
  refine ⟨event, entry, published, (agrees _ hour rfl).mpr ?_⟩
  intro execution only
  exact small execution only.pending.stored

/-- A withdrawal of 100,000 satoshis is not linked to the only execution, which is of 100,000: its
    entry says -100,000. -/
theorem not_amountsAgree_of_fullWithdrawal :
    ∃ event entry execution,
      PublishedFor (sampleWithdrawalEnv 100000) (sampleConnectedSwept 100000) 1
        (sampleItem "L1" 100000 3600000) event entry ∧
      OnlyMatch (pollCycle (sampleWithdrawalEnv 100000) (sampleConnectedSwept 100000) 1).db
        event.payload.holdingId (sampleItem "L1" 100000 3600000).magnitudeSats entry.timestamp
        execution ∧
      ¬AmountsAgree (pollCycle (sampleWithdrawalEnv 100000) (sampleConnectedSwept 100000) 1).db
        (onEntryAdded (pollCycle (sampleWithdrawalEnv 100000) (sampleConnectedSwept 100000) 1).db
          event hour) event.payload.holdingId entry.id
        (sampleItem "L1" 100000 3600000).magnitudeSats entry.timestamp := by
  have polled : (pollCycle (sampleWithdrawalEnv 100000) (sampleConnectedSwept 100000) 1).answer =
      .ok ⟨1, 0, 0, hour, .healthy⟩ := by
    decide +kernel
  have absent : (sampleConnectedSwept 100000).custodialLedger.find?
      (1, (sampleItem "L1" 100000 3600000).providerEntryId) = none := by
    decide
  have only : ((pendingExecutions
      (pollCycle (sampleWithdrawalEnv 100000) (sampleConnectedSwept 100000) 1).db
      SweepPolicyRow.sourceHoldingId 30 outflowStatuses outflowWindow 3600000000).filter fun row =>
        withinTolerance (sampleItem "L1" 100000 3600000).magnitudeSats
          row.intendedAmountSats).map SweepExecutionRow.id = [1] := by
    decide +kernel
  obtain ⟨execution, matched, _⟩ := List.map_eq_singleton_iff.mp only
  obtain ⟨event, entry, published⟩ :=
    publishedFor_of_polled polled rfl (List.mem_singleton.mpr rfl)
      (withdraws_sampleItem (by decide +kernel)) absent
  obtain ⟨provider, stored, account⟩ := published.account
  have holding : event.payload.holdingId = 30 := by
    rw [account]
    cases stored
    rfl
  have timestamp : entry.timestamp = 3600000000 := published.timestamp
  have match' : OnlyMatch (pollCycle (sampleWithdrawalEnv 100000) (sampleConnectedSwept 100000) 1).db
      event.payload.holdingId (sampleItem "L1" 100000 3600000).magnitudeSats entry.timestamp
      execution := by
    rw [holding, timestamp]
    exact filter_pendingOutflow_iff.mp matched
  obtain ⟨row, found, unlinked⟩ := published.stored
  refine ⟨event, entry, execution, published, match', fun agree => ?_⟩
  have under := (amountsAgree_onEntryAdded_iff (RawLedgerItem.magnitudeSats_nonneg _)
    published.amountSats found unlinked ⟨published.carried, published.kind⟩ hour).mp agree execution
    match'
  have large : toleranceFloorSats < (sampleItem "L1" 100000 3600000).magnitudeSats := by
    decide +kernel
  omega

end TallyKeep
