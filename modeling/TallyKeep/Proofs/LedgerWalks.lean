/-
Module: TallyKeep.Proofs.LedgerWalks
Layer: Proofs
Purpose: When the pages of an account show each of its ledger entries once.
Trusted boundary: none
Main exports: ledgerWalk_eq, ledgerWalk_shows, LedgerShownOnce, ledgerShownOnce_iff,
  not_ledgerShownOnce_of_tie
-/
import TallyKeep.Api.AccountLedger

namespace TallyKeep

open Paging Relational

/-- A page of the account is a page of its rows. -/
theorem accountLedger_eq (listing : LedgerListing) (ledger : LedgerMirror) (providerId : Uuid)
    (before : Option Timestamp) :
    accountLedger listing ledger providerId before =
      let here := page 50 listing
        (below CustodialLedgerEntryRow.timestamp before (ledger.ofProvider providerId))
      ⟨here.shown.map LedgerEntryOut.ofRow, here.hasMore⟩ := rfl

/-- A walk through the pages is a walk through the rows. -/
theorem ledgerWalk_eq (listings : Nat → LedgerListing) (ledger : LedgerMirror) (providerId : Uuid)
    (fuel request : Nat) (before : Option Timestamp) :
    ledgerWalk listings ledger providerId fuel request before =
      (walk 50 listings (ledger.ofProvider providerId) fuel request before).map
        fun shown => shown.map LedgerEntryOut.ofRow := by
  induction fuel generalizing request before with
  | zero => rfl
  | succ fuel ih =>
      rw [ledgerWalk, walk, accountLedger_eq]
      dsimp only
      split
      · rw [List.getLast?_map, Option.map_map, ih, Option.map_map, Option.map_map]
        congr 1
        funext later
        exact (List.map_append ..).symm
      · rfl

/-- The walk ends, and shows what a walk through the rows shows. -/
theorem ledgerWalk_shows (listings : Nat → LedgerListing) (ledger : LedgerMirror)
    (providerId : Uuid) :
    ∃ rows, ledgerWalk listings ledger providerId ((ledger.ofProvider providerId).length + 1) 0
        none = some (rows.map LedgerEntryOut.ofRow) ∧
      Shows 50 CustodialLedgerEntryRow.timestamp (ledger.ofProvider providerId) rows := by
  have enough : (below CustodialLedgerEntryRow.timestamp none (ledger.ofProvider providerId)).length <
      (ledger.ofProvider providerId).length + 1 := by
    rw [below_none]
    exact Nat.lt_succ_self _
  obtain ⟨rows, walked, shows⟩ := walk_shows (Nat.succ_pos 49) listings _ 0 enough
  rw [below_none] at shows
  refine ⟨rows, ?_, shows⟩
  rw [ledgerWalk_eq, walked, Option.map_some]

/-- The walk ends after one request for each row and one at most, and shows each row once, the latest
    first. -/
def LedgerShownOnce (listings : Nat → LedgerListing) (ledger : LedgerMirror) (providerId : Uuid) :
    Prop :=
  ∃ shown, ledgerWalk listings ledger providerId ((ledger.ofProvider providerId).length + 1) 0 none =
      some shown ∧
    shown.Perm ((ledger.ofProvider providerId).map LedgerEntryOut.ofRow) ∧
    shown.Pairwise fun entry later => later.timestamp ≤ entry.timestamp

/-- Some entries are shown for all when no page ends between two of them of the same time. -/
theorem perm_map_ofRow_iff {rows shown : List CustodialLedgerEntryRow}
    (shows : Shows 50 CustodialLedgerEntryRow.timestamp rows shown) :
    (shown.map LedgerEntryOut.ofRow).Perm (rows.map LedgerEntryOut.ofRow) ↔
      EdgesDiffer 50 (sortedKeys CustodialLedgerEntryRow.timestamp rows) := by
  rw [← shows.all]
  constructor
  · intro same
    have lengths := same.length_eq
    rw [List.length_map, List.length_map] at lengths
    exact shows.rowsOnce.perm_of_length_le lengths.ge
  · exact fun same => same.map _

/-- The pages show each entry once exactly when, in the order of their times, no page ends between
    two of the same time. -/
theorem ledgerShownOnce_iff (listings : Nat → LedgerListing) (ledger : LedgerMirror)
    (providerId : Uuid) :
    LedgerShownOnce listings ledger providerId ↔
      EdgesDiffer 50 (sortedKeys CustodialLedgerEntryRow.timestamp (ledger.ofProvider providerId)) := by
  obtain ⟨rows, walked, shows⟩ := ledgerWalk_shows listings ledger providerId
  rw [← perm_map_ofRow_iff shows, LedgerShownOnce, walked]
  constructor
  · rintro ⟨shown, same, all, -⟩
    rw [Option.some.inj same]
    exact all
  · intro all
    exact ⟨_, rfl, all, List.pairwise_map.mpr shows.sorted⟩

/-! ### Two legs of one trade -/

/-- Entries of one provider, the latest first, the last two of one time. -/
def sampleLeg (i : Nat) : CustodialLedgerEntryRow where
  id := i
  holdingId := 1
  custodialProviderId := 2
  providerEntryId := String.ofList (List.replicate i 'x')
  kind := .trade
  asset := "BTC"
  amountSats := 1000
  feeSats := none
  status := "ok"
  timestamp := 100 - min i 49
  rawPayload := ⟨⟨none, none, none, none, none, none, none, none, none, ""⟩, []⟩
  linkedSweepExecutionId := none
  linkedCounterpartyHoldingId := none
  linkedChainLedgerEntryId := none
  reconciledAt := none

def sampleLegs : List CustodialLedgerEntryRow := (List.range 51).map sampleLeg

theorem sampleLegs_keys : (sampleLegs.map key).Nodup := by decide

theorem sampleLegs_refids : (sampleLegs.map CustodialLedgerEntryRow.refid).Nodup := by
  rw [sampleLegs, List.map_map]
  refine List.nodup_range.map fun i j same => ?_
  have texts := String.ofList_injective (congrArg Prod.snd same)
  simpa using congrArg List.length texts

def sampleTiedLedger : LedgerMirror := ⟨⟨sampleLegs, sampleLegs_keys⟩, sampleLegs_refids⟩

/-- Rows of one time in the order of the table. -/
def LedgerListing.latestFirst : LedgerListing where
  arrange rows := rows.insertionSort fun row later => later.timestamp ≤ row.timestamp
  perm rows := List.perm_insertionSort _ rows
  sorted rows := List.pairwise_insertionSort _ rows

theorem sampleTiedLedger_ofProvider : sampleTiedLedger.ofProvider 2 = sampleLegs := by
  apply List.filter_eq_self.mpr
  intro row member
  obtain ⟨i, -, rfl⟩ := List.mem_map.mp member
  rfl

/-- Of two entries of one time the one behind the edge of a page is not shown. -/
theorem not_ledgerShownOnce_of_tie :
    ¬LedgerShownOnce (fun _ => .latestFirst) sampleTiedLedger 2 := by
  rintro ⟨shown, same, all, -⟩
  obtain ⟨rows, walked, shows⟩ := ledgerWalk_shows (fun _ => .latestFirst) sampleTiedLedger 2
  rw [walked] at same
  rw [← Option.some.inj same, perm_map_ofRow_iff shows, sampleTiedLedger_ofProvider] at all
  have sorted : sampleLegs.Pairwise fun row later => later.timestamp ≤ row.timestamp := by
    decide
  rw [sortedKeys_eq (.refl sampleLegs) sorted] at all
  exact all 0 (by decide) (by decide)

end TallyKeep
