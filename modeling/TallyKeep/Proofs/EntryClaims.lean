/-
Module: TallyKeep.Proofs.EntryClaims
Layer: Proofs
Purpose: Which withdrawal entries claim an execution along any sequence of withdrawal events, with
  other writes between them: exactly when no execution is claimed twice and no claim is given up.
Trusted boundary: none
Main exports: Claims, ClaimedOnce, ClaimLabel, ClaimStep, ClaimsKept, MatchUnclaimed,
  claims_onEntryAdded_iff, claimedOnce_throughout_iff
-/
import TallyKeep.Library.Transition
import TallyKeep.Proofs.PollCycles
import TallyKeep.Proofs.Reconciliation

namespace TallyKeep

open Relational Transition

/-! ### Claims -/

/-- The entry is a withdrawal and linked to the execution. -/
def Claims (db : CustodialDatabase) (entryId executionId : Uuid) : Prop :=
  ∃ row, db.custodialLedger.get? entryId = some row ∧ row.kind = .withdrawal ∧
    row.linkedSweepExecutionId = some executionId

/-- No execution is claimed by two entries. -/
def ClaimedOnce (db : CustodialDatabase) : Prop :=
  ∀ executionId entryId entryId', Claims db entryId executionId → Claims db entryId' executionId →
    entryId = entryId'

theorem Claims.executionId_eq {db : CustodialDatabase} {entryId executionId executionId' : Uuid}
    (first : Claims db entryId executionId) (second : Claims db entryId executionId') :
    executionId = executionId' := by
  obtain ⟨row, found, -, linked⟩ := first
  obtain ⟨row', found', -, linked'⟩ := second
  rw [found, Option.some.injEq] at found'
  rw [← found', linked, Option.some.injEq] at linked'
  exact linked'

/-- A withdrawal entry is stored under the id. -/
def StoresWithdrawal (db : CustodialDatabase) (entryId : Uuid) : Prop :=
  ∃ row, db.custodialLedger.get? entryId = some row ∧ row.kind = .withdrawal

theorem Claims.storesWithdrawal {db : CustodialDatabase} {entryId executionId : Uuid}
    (claims : Claims db entryId executionId) : StoresWithdrawal db entryId := by
  obtain ⟨row, found, withdrawal, -⟩ := claims
  exact ⟨row, found, withdrawal⟩

/-! ### One event -/

section Event

variable {db : CustodialDatabase} {event : CustodialEvent} {entry : EntryPayload}
  {row : SweepExecutionRow} {entryId executionId : Uuid}

/-- A session without a match leaves every claim, also one of its own entry. -/
theorem claims_of_unmatched (written : Uuid) (now : Timestamp) :
    Claims ((Reconciliation.unmatched written).commit db now) entryId executionId ↔
      Claims db entryId executionId := by
  rw [Claims, Claims, get?_entry_commit]
  cases found : db.custodialLedger.get? entryId with
  | none => simp
  | some stored =>
      simp only [Option.map_some, Option.some.injEq, exists_eq_left',
        Reconciliation.entryAfter]
      split <;> rfl

/-- A session with a match gives its entry, if that is a withdrawal, this claim and no other. -/
theorem claims_of_linked (written matched : Uuid) (counterpartyHoldingId : Option Uuid)
    (dispatch : Bool) (now : Timestamp) :
    Claims ((Reconciliation.linked written matched counterpartyHoldingId dispatch).commit db now)
        entryId executionId ↔
      if entryId = written then StoresWithdrawal db entryId ∧ executionId = matched
      else Claims db entryId executionId := by
  rw [Claims, Claims, StoresWithdrawal, get?_entry_commit]
  cases found : db.custodialLedger.get? entryId with
  | none => simp
  | some stored =>
      have sameId : stored.id = entryId := (IndexedTable.get?_eq_some_iff.mp found).2
      simp only [Option.map_some, Option.some.injEq, exists_eq_left', Reconciliation.entryAfter,
        sameId]
      split
      · simp [CustodialLedgerEntryRow.reconciled, eq_comm]
      · rfl

/-- What a withdrawal event makes of the claims. -/
theorem claims_onEntryAdded_of_match (withdrawal : WithdrawalEvent event entry)
    (only : OnlyMatch db event.payload.holdingId entry.amountSats entry.timestamp row)
    (now : Timestamp) :
    Claims (onEntryAdded db event now) entryId executionId ↔
      if entryId = entry.id then StoresWithdrawal db entryId ∧ executionId = row.id
      else Claims db entryId executionId := by
  rw [withdrawal.onEntryAdded, reconcileOutflow_of_match only, claims_of_linked]

theorem claims_onEntryAdded_of_none (withdrawal : WithdrawalEvent event entry)
    (none : ∀ row, ¬OnlyMatch db event.payload.holdingId entry.amountSats entry.timestamp row)
    (now : Timestamp) :
    Claims (onEntryAdded db event now) entryId executionId ↔ Claims db entryId executionId := by
  rw [withdrawal.onEntryAdded, reconcileOutflow_of_none none, claims_of_unmatched]

end Event

/-! ### Sequences of events -/

/-- A withdrawal event is handled, or some other component writes. -/
inductive ClaimLabel where
  | handle (event : CustodialEvent) (now : Timestamp)
  | elsewhere (after : CustodialDatabase)

def claimStep (db : CustodialDatabase) : ClaimLabel → CustodialDatabase
  | .handle event now => onEntryAdded db event now
  | .elsewhere after => after

/-- The events are those of withdrawals, and the other components leave the claims as they are. -/
def ClaimLegal (db : CustodialDatabase) : ClaimLabel → Prop
  | .handle event _ => ∃ entry, WithdrawalEvent event entry
  | .elsewhere after => ∀ entryId executionId,
      Claims after entryId executionId ↔ Claims db entryId executionId

def ClaimStep : CustodialDatabase → ClaimLabel → CustodialDatabase → Prop :=
  guarded (stepOf claimStep) ClaimLegal

/-- No entry is relinked by the step, and no link is dropped. -/
def ClaimsKept (db : CustodialDatabase) (label : ClaimLabel) : Prop :=
  ∀ entryId executionId, Claims db entryId executionId →
    Claims (claimStep db label) entryId executionId

/-- If the event has a match and its entry is stored as a withdrawal, no other entry claims this
    execution, and the entry claims no other one. -/
def MatchUnclaimed (db : CustodialDatabase) : ClaimLabel → Prop
  | .handle event _ => ∀ entry row, WithdrawalEvent event entry →
      OnlyMatch db event.payload.holdingId entry.amountSats entry.timestamp row →
        StoresWithdrawal db entry.id →
          (∀ entryId, Claims db entryId row.id → entryId = entry.id) ∧
            ∀ executionId, Claims db entry.id executionId → executionId = row.id
  | .elsewhere _ => True

section Step

variable {db : CustodialDatabase} {event : CustodialEvent} {entry : EntryPayload}
  {row : SweepExecutionRow}

/-- Where the claims are those of before, nothing is given up and nothing claimed twice. -/
theorem claimsKept_of_same {label : ClaimLabel} (once : ClaimedOnce db)
    (same : ∀ entryId executionId, Claims (claimStep db label) entryId executionId ↔
      Claims db entryId executionId) :
    ClaimsKept db label ∧ ClaimedOnce (claimStep db label) := by
  constructor
  · intro entryId executionId claims
    exact (same entryId executionId).mpr claims
  · intro executionId entryId entryId' first second
    exact once executionId entryId entryId' ((same _ _).mp first) ((same _ _).mp second)

theorem matchUnclaimed_of_kept {now : Timestamp} (withdrawal : WithdrawalEvent event entry)
    (only : OnlyMatch db event.payload.holdingId entry.amountSats entry.timestamp row)
    (stored : StoresWithdrawal db entry.id) (kept : ClaimsKept db (.handle event now))
    (once : ClaimedOnce (onEntryAdded db event now)) :
    (∀ entryId, Claims db entryId row.id → entryId = entry.id) ∧
      ∀ executionId, Claims db entry.id executionId → executionId = row.id := by
  have own : Claims (onEntryAdded db event now) entry.id row.id := by
    rw [claims_onEntryAdded_of_match withdrawal only, if_pos rfl]
    exact ⟨stored, rfl⟩
  constructor
  · intro entryId claimed
    exact once row.id entryId entry.id (kept entryId row.id claimed) own
  · intro executionId claimed
    exact (kept entry.id executionId claimed).executionId_eq own

theorem kept_of_matchUnclaimed {now : Timestamp} (once : ClaimedOnce db)
    (withdrawal : WithdrawalEvent event entry)
    (only : OnlyMatch db event.payload.holdingId entry.amountSats entry.timestamp row)
    (others : ∀ entryId, Claims db entryId row.id → entryId = entry.id)
    (own : ∀ executionId, Claims db entry.id executionId → executionId = row.id) :
    ClaimsKept db (.handle event now) ∧ ClaimedOnce (onEntryAdded db event now) := by
  constructor
  · intro entryId executionId claimed
    change Claims (onEntryAdded db event now) entryId executionId
    rw [claims_onEntryAdded_of_match withdrawal only]
    split
    · next same =>
      subst same
      exact ⟨claimed.storesWithdrawal, own executionId claimed⟩
    · exact claimed
  · intro executionId entryId entryId' first second
    rw [claims_onEntryAdded_of_match withdrawal only] at first second
    split at first <;> split at second
    · next same same' => exact same.trans same'.symm
    · next same other =>
      rw [first.2] at second
      exact absurd (others entryId' second) other
    · next other same =>
      rw [second.2] at first
      exact absurd (others entryId first) other
    · exact once executionId entryId entryId' first second

/-- One step keeps the claims and leaves no execution with two exactly when its match, if it has
    one, is unclaimed. -/
theorem claimsKept_iff {label : ClaimLabel} (once : ClaimedOnce db) (legal : ClaimLegal db label) :
    ClaimsKept db label ∧ ClaimedOnce (claimStep db label) ↔ MatchUnclaimed db label := by
  cases label with
  | elsewhere after =>
      have kept : ClaimsKept db (.elsewhere after) ∧ ClaimedOnce (claimStep db (.elsewhere after)) :=
        claimsKept_of_same once legal
      exact iff_of_true kept trivial
  | handle event now =>
      obtain ⟨entry, withdrawal⟩ := legal
      constructor
      · intro ⟨kept, once'⟩ entry' row withdrawal' only stored
        exact matchUnclaimed_of_kept withdrawal' only stored kept once'
      · intro unclaimed
        by_cases matched : ∃ row, OnlyMatch db event.payload.holdingId entry.amountSats
            entry.timestamp row
        · obtain ⟨row, only⟩ := matched
          by_cases stored : StoresWithdrawal db entry.id
          · obtain ⟨others, own⟩ := unclaimed entry row withdrawal only stored
            exact kept_of_matchUnclaimed once withdrawal only others own
          · -- The update of the entry finds no row, or one that is no withdrawal.
            apply claimsKept_of_same once
            intro entryId executionId
            change Claims (onEntryAdded db event now) entryId executionId ↔ _
            rw [claims_onEntryAdded_of_match withdrawal only]
            split
            · next same =>
              subst same
              constructor
              · intro ⟨present, _⟩
                exact absurd present stored
              · intro claimed
                exact absurd claimed.storesWithdrawal stored
            · exact Iff.rfl
        · apply claimsKept_of_same once
          intro entryId executionId
          exact claims_onEntryAdded_of_none withdrawal (not_exists.mp matched) now

end Step

/-- Along any sequence of withdrawal events, in any order and with replays, each execution is claimed
    by at most one withdrawal entry and no entry is relinked or loses its link, exactly when at each
    event the execution it matches is claimed by no other entry and the entry claims no other
    execution. -/
theorem claimedOnce_throughout_iff {db db' : CustodialDatabase} {labels : List ClaimLabel}
    (first : ClaimedOnce db) :
    Throughout ClaimStep ClaimedOnce ClaimsKept db labels db' ↔
      Run (guarded ClaimStep MatchUnclaimed) db labels db' := by
  apply Run.throughout_iff (I := fun _ => True)
  · intro _ _ _ _ _
    trivial
  · intro db label db' _ once step
    obtain ⟨legal, rfl⟩ := step
    exact claimsKept_iff once legal
  · trivial
  · exact first

theorem claims_of_columns {db : CustodialDatabase} {entryId executionId : Uuid}
    (columns : ((db.custodialLedger.get? entryId).map fun row =>
      (row.kind, row.linkedSweepExecutionId)) = some (.withdrawal, some executionId)) :
    Claims db entryId executionId := by
  obtain ⟨row, found, same⟩ := Option.map_eq_some_iff.mp columns
  rw [Prod.mk.injEq] at same
  exact ⟨row, found, same⟩

theorem not_claims_of_unlinked {db : CustodialDatabase}
    (unlinked : ∀ row ∈ db.custodialLedger.rows, row.linkedSweepExecutionId = none)
    (entryId executionId : Uuid) : ¬Claims db entryId executionId := by
  intro ⟨row, found, _, linked⟩
  rw [unlinked row (IndexedTable.get?_eq_some_iff.mp found).1] at linked
  cases linked

/-- A cycle that mirrors two withdrawals of 4,000 satoshis, as much as the sample execution sweeps,
    and one of 90,000. -/
def sampleWithdrawals : CycleOutcome :=
  pollCycle
    (samplePollEnv (sampleExchange
      [sampleItem "L1" 4000 3600000, sampleItem "L2" 4000 3600001, sampleItem "L3" 90000 3600002]))
    (sampleConnectedTo (sampleSwept 4000)) 1

/-- The event of a mirrored withdrawal. -/
def sampleAdded (entryId : Uuid) (providerEntryId : String) (amountSats : Nat)
    (timestamp : Timestamp) : CustodialEvent :=
  ⟨"treasury.custodial.ledger_entry_added",
    .ledgerEntryAdded 30 1 hour 100000
      ⟨entryId, providerEntryId, .withdrawal, "BTC", -amountSats, none, "ok", timestamp⟩⟩

theorem sampleWithdrawals_unlinked :
    ∀ row ∈ sampleWithdrawals.db.custodialLedger.rows, row.linkedSweepExecutionId = none := by
  decide +kernel

theorem claimedOnce_sampleWithdrawals : ClaimedOnce sampleWithdrawals.db := by
  intro executionId entryId entryId' claims _
  exact absurd claims (not_claims_of_unlinked sampleWithdrawals_unlinked entryId executionId)

/-- The withdrawal without a match stays unlinked, and the first of the two others is linked. -/
theorem claimedOnce_throughout_iff_oneMatch :
    Throughout ClaimStep ClaimedOnce ClaimsKept sampleWithdrawals.db
      [.handle (sampleAdded 3 "L3" 90000 3600002000) hour,
        .handle (sampleAdded 1 "L1" 4000 3600000000) hour]
      (onEntryAdded
        (onEntryAdded sampleWithdrawals.db (sampleAdded 3 "L3" 90000 3600002000) hour)
        (sampleAdded 1 "L1" 4000 3600000000) hour) := by
  have far : ∀ row ∈ sampleWithdrawals.db.sweepExecutions.rows,
      withinTolerance (-90000) row.intendedAmountSats = false := by
    decide +kernel
  have unlinked : ∀ row ∈ (onEntryAdded sampleWithdrawals.db
      (sampleAdded 3 "L3" 90000 3600002000) hour).custodialLedger.rows,
        row.linkedSweepExecutionId = none := by
    decide +kernel
  apply (claimedOnce_throughout_iff claimedOnce_sampleWithdrawals).mpr
  refine .cons ⟨?_, ⟨⟨_, rfl, rfl⟩, rfl⟩⟩ (.cons ⟨?_, ⟨⟨_, rfl, rfl⟩, rfl⟩⟩ (.stop _))
  · intro entry row withdrawal only
    cases withdrawal.carried
    have near : withinTolerance (-90000) row.intendedAmountSats = true := only.near
    rw [far row only.pending.stored] at near
    cases near
  · intro entry row _ _ _
    exact ⟨fun entryId claims => absurd claims (not_claims_of_unlinked unlinked entryId row.id),
      fun executionId claims =>
        absurd claims (not_claims_of_unlinked unlinked entry.id executionId)⟩

/-- The second of two withdrawals of 4,000 satoshis is linked to the execution that the first one
    claims, because a dispatched execution is matched again. -/
theorem not_claimedOnce_of_twoWithdrawals :
    ClaimedOnce sampleWithdrawals.db ∧
      Run ClaimStep sampleWithdrawals.db
        [.handle (sampleAdded 1 "L1" 4000 3600000000) hour,
          .handle (sampleAdded 2 "L2" 4000 3600001000) hour]
        (onEntryAdded
          (onEntryAdded sampleWithdrawals.db (sampleAdded 1 "L1" 4000 3600000000) hour)
          (sampleAdded 2 "L2" 4000 3600001000) hour) ∧
      ¬ClaimedOnce (onEntryAdded
          (onEntryAdded sampleWithdrawals.db (sampleAdded 1 "L1" 4000 3600000000) hour)
          (sampleAdded 2 "L2" 4000 3600001000) hour) := by
  refine ⟨claimedOnce_sampleWithdrawals,
    .cons ⟨⟨_, rfl, rfl⟩, rfl⟩ (.cons ⟨⟨_, rfl, rfl⟩, rfl⟩ (.stop _)), ?_⟩
  intro once
  have same := once 1 1 2 (claims_of_columns (by decide +kernel)) (claims_of_columns (by decide +kernel))
  cases same

end TallyKeep
