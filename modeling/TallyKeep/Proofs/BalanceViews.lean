/-
Module: TallyKeep.Proofs.BalanceViews
Layer: Proofs
Purpose: When the summary over all holdings is what it says, and agrees with the summary of each.
Trusted boundary: none
Main exports: confirmedCoins, SummaryFaithful, BalanceViewsAgree, Summarizable,
  balanceViewsAgree_iff, not_balanceViewsAgree_of_account
-/
import Mathlib.Data.List.Forall2
import Mathlib.Data.List.Sort
import TallyKeep.Api.HoldingSummaries
import TallyKeep.Proofs.HoldingLoads

namespace TallyKeep

open Regex Relational

variable {classes : CharClasses} {db : HoldingDatabase}

/-! ### The law -/

/-- The unspent coins of a holding. -/
def unspentCoins (db : HoldingDatabase) (holdingId : Uuid) : List UtxoRow :=
  db.utxos.select fun row =>
    decide (row.descriptorId ∈ DescriptorRows.idsForHolding db holdingId) && !row.isSpent

/-- The sum of those with a confirmation height. -/
def confirmedCoins (db : HoldingDatabase) (holdingId : Uuid) : Int :=
  (((unspentCoins db holdingId).filter fun row => row.confirmationHeight.isSome).map fun row =>
    (row.valueSats : Int)).sum

/-- The summary lists each holding once, sums up what it lists, shows the confirmed coins of each
    holding and the balance at the provider of each account, and the summary of each succeeds and
    shows the same. -/
structure SummaryFaithful (classes : CharClasses) (db : HoldingDatabase) (summary : GlobalSummary) :
    Prop where
  listed : (summary.holdings.map fun entry => (entry.holdingId, entry.holdingType, entry.purpose)).Perm
    (db.holdings.rows.map fun row => (row.id, row.holdingType, row.purpose))
  total : summary.totalSats = (summary.holdings.map HoldingSummary.confirmedSats).sum
  byType : Tally.Partitions summary.byType
    (summary.holdings.map fun entry => (entry.holdingType, entry.confirmedSats))
  byPurpose : Tally.Partitions summary.byPurpose
    (summary.holdings.map fun entry => (entry.purpose, entry.confirmedSats))
  selfCustody : ∀ entry ∈ summary.holdings, entry.holdingType ≠ .account →
    entry.confirmedSats = confirmedCoins db entry.holdingId
  accounts : ∀ entry ∈ summary.holdings, entry.holdingType = .account →
    ∀ provider ∈ db.custodialProviders.rows, provider.holdingId = entry.holdingId →
      provider.lastKnownBalanceSats = some entry.confirmedSats
  each : ∀ entry ∈ summary.holdings, ∀ computedAt detectedAt, ∃ deep,
    holdingSummary classes db entry.holdingId computedAt detectedAt = .ok deep ∧
      deep.confirmedSats = entry.confirmedSats ∧ deep.descriptorCount = entry.descriptorCount ∧
      deep.utxoCount = entry.utxoCount

def BalanceViewsAgree (classes : CharClasses) (db : HoldingDatabase) : Prop :=
  ∃ summary, globalHoldingsSummary db = .ok summary ∧ SummaryFaithful classes db summary

/-- There is no account, every holding and every descriptor of one satisfies the rules of its
    constructor, no provider refers to a holding, and no coin of one that is unspent and unconfirmed
    is worth anything. -/
structure Summarizable (db : HoldingDatabase) : Prop where
  selfCustody : ∀ row ∈ db.holdings.rows, row.holdingType ≠ .account
  readable : ∀ row ∈ db.holdings.rows, ∃ purseMode,
    (db.columns row.id).subtypeData.readPurseMode = .ok purseMode
  related : ∀ row ∈ db.holdings.rows,
    RelationsFit row (DescriptorRows.idsForHolding db row.id) none
  columns : ∀ row ∈ db.holdings.rows, (db.columns row.id).check row.holdingType = .ok ()
  unattached : ∀ row ∈ db.holdings.rows, ∀ provider ∈ db.custodialProviders.rows,
    provider.holdingId ≠ row.id
  descriptors : ∀ row ∈ db.holdings.rows, ∀ descriptor ∈ db.descriptors.rows,
    descriptor.holdingId = row.id → descriptor.Loads
  settled : ∀ row ∈ db.holdings.rows, ∀ coin ∈ unspentCoins db row.id,
    coin.confirmationHeight = none → coin.valueSats = 0

/-! ### Sums -/

/-- No descriptor of a holding is listed twice. -/
theorem idsForHolding_nodup (db : HoldingDatabase) (holdingId : Uuid) : (DescriptorRows.idsForHolding db holdingId).Nodup :=
  db.descriptors.keysNodup.sublist (List.filter_sublist.map DescriptorRow.id)

/-- The sum over the descriptors is the sum over their coins. -/
theorem balanceOfDescriptors_eq (holdingId : Uuid) :
    balanceOfDescriptors db.toDatabase (DescriptorRows.idsForHolding db holdingId) =
      ((unspentCoins db holdingId).map fun row => (row.valueSats : Int)).sum := by
  have nodup := idsForHolding_nodup db holdingId
  rw [balanceOfDescriptors, unspentCoins, Table.select]
  generalize DescriptorRows.idsForHolding db holdingId = ids at nodup ⊢
  have byDescriptor := flatMap_classes_perm UtxoRow.descriptorId (fun row => [row]) nodup
    (db.utxos.rows.filter fun row => decide (row.descriptorId ∈ ids) && !row.isSpent)
    (fun row member _ => by
      have kept := (List.mem_filter.mp member).2
      rw [Bool.and_eq_true, decide_eq_true_iff] at kept
      exact kept.1)
  simp only [List.flatMap_singleton'] at byDescriptor
  rw [← (byDescriptor.map fun row => (row.valueSats : Int)).sum_eq, List.map_flatMap,
    List.flatMap_def, List.sum_flatten, List.map_map]
  congr 1
  apply List.map_congr_left
  intro id member
  rw [UtxoRepo.descriptorBalanceSats, UtxoRepo.listUnspentForDescriptor, Table.select,
    Function.comp_apply, List.filter_filter]
  congr 2
  apply List.filter_congr
  intro row _
  by_cases own : row.descriptorId = id
  · simp [own, member]
  · simp [own]

/-- The rest of the balance is that of the unconfirmed coins. -/
theorem balance_eq_confirmedCoins_iff (holdingId : Uuid) :
    balanceOfDescriptors db.toDatabase (DescriptorRows.idsForHolding db holdingId) =
        confirmedCoins db holdingId ↔
      ∀ coin ∈ unspentCoins db holdingId, coin.confirmationHeight = none → coin.valueSats = 0 := by
  rw [balanceOfDescriptors_eq, confirmedCoins]
  generalize unspentCoins db holdingId = coins
  induction coins with
  | nil => simp
  | cons coin coins ih =>
      have least : ((coins.filter fun row => row.confirmationHeight.isSome).map fun row =>
          (row.valueSats : Int)).sum ≤ (coins.map fun row => (row.valueSats : Int)).sum := by
        refine List.Sublist.sum_le_sum (List.filter_sublist.map _) ?_
        intro value member
        obtain ⟨row, -, rfl⟩ := List.mem_map.mp member
        exact Int.natCast_nonneg _
      rw [List.forall_mem_cons, ← ih, List.map_cons, List.sum_cons, List.filter_cons]
      cases height : coin.confirmationHeight with
      | none =>
          simp only [Option.isSome_none, Bool.false_eq_true, if_false, forall_const]
          omega
      | some h =>
          simp only [Option.isSome_some, if_true, List.map_cons, List.sum_cons, reduceCtorEq,
            false_implies, true_and]
          omega

/-! ### The summary of one -/

/-- How a summary of one succeeds. -/
theorem holdingSummary_ok_iff {holdingId : Uuid} {computedAt detectedAt : Timestamp}
    {deep : HoldingDeepSummary} :
    holdingSummary classes db holdingId computedAt detectedAt = .ok deep ↔
      ∃ holding analysis, HoldingService.getHolding db holdingId = .ok (some holding) ∧
        analyzeHolding classes db holdingId computedAt detectedAt = .ok analysis ∧
        deep = {
          holding := holding
          totalBalanceSats :=
            balanceOfDescriptors db.toDatabase (DescriptorRows.idsForHolding db holdingId)
          confirmedSats :=
            balanceOfDescriptors db.toDatabase (DescriptorRows.idsForHolding db holdingId)
          unconfirmedSats := 0
          descriptorCount := (DescriptorRows.idsForHolding db holdingId).length
          utxoCount := coinsOfDescriptors db.toDatabase (DescriptorRows.idsForHolding db holdingId)
          observableSecurity := analysis.map SecurityAnalysisResult.observable
          discrepancies := (analysis.map SecurityAnalysisResult.discrepancies).getD [] } := by
  rw [holdingSummary, bind_ok_iff]
  constructor
  · rintro ⟨found, load, run⟩
    cases found with
    | none => cases run
    | some holding =>
        obtain ⟨analysis, analysed, result⟩ := bind_ok_iff.mp run
        cases result
        exact ⟨holding, analysis, load, analysed, rfl⟩
  · rintro ⟨holding, analysis, load, analysed, rfl⟩
    refine ⟨some holding, load, ?_⟩
    exact bind_ok_iff.mpr ⟨analysis, analysed, rfl⟩

/-- A holding whose summary succeeds is no account, and satisfies the rules with its descriptors. -/
theorem summarizable_of_holdingSummary {row : HoldingRow} (stored : row ∈ db.holdings.rows)
    {computedAt detectedAt : Timestamp} {deep : HoldingDeepSummary}
    (succeeds : holdingSummary classes db row.id computedAt detectedAt = .ok deep) :
    row.holdingType ≠ .account ∧
      (∃ purseMode, (db.columns row.id).subtypeData.readPurseMode = .ok purseMode) ∧
      RelationsFit row (DescriptorRows.idsForHolding db row.id) none ∧
      (db.columns row.id).check row.holdingType = .ok () ∧
      (∀ provider ∈ db.custodialProviders.rows, provider.holdingId ≠ row.id) ∧
      ∀ descriptor ∈ db.descriptors.rows, descriptor.holdingId = row.id → descriptor.Loads := by
  obtain ⟨holding, analysis, load, analysed, -⟩ := holdingSummary_ok_iff.mp succeeds
  obtain ⟨row', purseMode, provider, found, reads, provided, construction⟩ :=
    getHolding_some_iff.mp load
  have own : db.holdings.get? row.id = some row := Table.get?_of_mem stored
  rw [own] at found
  obtain rfl := Option.some.inj found
  have built := constructHolding_row construction
  have notAccount : row.holdingType ≠ .account := by
    intro account
    rw [analyzeHolding, loadWithDescriptors_of_account load (by rw [built, account])] at analysed
    cases analysed
  obtain ⟨relations, checked⟩ := constructHolding_ok_iff.mp ⟨holding, construction⟩
  have unprovided : provider = none := by
    rw [RelationsFit, if_neg notAccount] at relations
    exact relations.2.1
  have loaded := loadWithDescriptors_of_described load (by rw [built]; exact notAccount)
  obtain ⟨result, returns⟩ : ∃ result, analysis = some result := by
    obtain ⟨found, same, run⟩ := bind_ok_iff.mp analysed
    rw [loaded] at same
    cases same
    obtain ⟨result, -, returned⟩ := bind_ok_iff.mp run
    cases returned
    exact ⟨result, rfl⟩
  rw [returns] at analysed
  obtain ⟨descriptors, loads⟩ := (analyzeHolding_some_iff loaded (by rw [built]; exact notAccount)).mp
    ⟨result, analysed⟩
  refine ⟨notAccount, ⟨purseMode, reads⟩, unprovided ▸ relations, checked, ?_,
    (loadDescriptors_ok_iff.mp loads).2⟩
  intro other attached same
  rw [HoldingService.providerOf, unprovided] at provided
  obtain ⟨listed, single, empty⟩ := map_ok_iff.mp provided
  obtain ⟨-, head⟩ := scalarOneOrNone_ok_iff.mp single
  cases listed with
  | some first => cases empty
  | none =>
      have nobody := List.head?_eq_none_iff.mp head.symm
      have member : other ∈ db.custodialProviders.select fun row' =>
          decide (row'.holdingId = row.id) := Table.mem_select.mpr ⟨attached, decide_eq_true same⟩
      rw [nobody] at member
      exact absurd member List.not_mem_nil

/-! ### The summary over all -/

/-- A list is mapped without an error when each of its items is. -/
theorem mapM_ok_iff {α β : Type} {f : α → Except PyError β} {items : List α} {results : List β} :
    items.mapM f = .ok results ↔ List.Forall₂ (fun item result => f item = .ok result) items results := by
  induction items generalizing results with
  | nil => simp [pure, Except.pure, eq_comm]
  | cons item items ih =>
      rw [List.mapM_cons, List.forall₂_cons_left_iff]
      simp only [bind_ok_iff, ih]
      constructor
      · rintro ⟨first, run, later, rest, same⟩
        cases same
        exact ⟨first, later, run, rest, rfl⟩
      · rintro ⟨first, later, run, rest, rfl⟩
        exact ⟨first, run, later, rest, rfl⟩

/-- The sums are those of the entries. -/
structure Tallied (summary : GlobalSummary) (entries : List HoldingSummary) : Prop where
  holdings : summary.holdings = entries
  total : summary.totalSats = (entries.map HoldingSummary.confirmedSats).sum
  byType : Tally.Partitions summary.byType
    (entries.map fun entry => (entry.holdingType, entry.confirmedSats))
  byPurpose : Tally.Partitions summary.byPurpose
    (entries.map fun entry => (entry.purpose, entry.confirmedSats))

theorem Tallied.empty : Tallied .empty [] := ⟨rfl, rfl, .nil, .nil⟩

/-- One entry more is tallied. -/
theorem Tallied.addEntry {summary : GlobalSummary} {entries : List HoldingSummary}
    (tallied : Tallied summary entries) (entry : HoldingSummary) :
    Tallied (summary.addEntry entry) (entries ++ [entry]) where
  holdings := by rw [GlobalSummary.addEntry, tallied.holdings]
  total := by
    rw [List.map_append, List.sum_append, ← tallied.total, List.map_cons, List.map_nil,
      List.sum_singleton]
    rfl
  byType := by
    rw [List.map_append]
    exact tallied.byType.add entry.holdingType entry.confirmedSats
  byPurpose := by
    rw [List.map_append]
    exact tallied.byPurpose.add entry.purpose entry.confirmedSats

/-- The loop adds the entries of the holdings in order. -/
theorem foldlM_addEntry {holdings : List LoadedHolding} {entries : List HoldingSummary}
    (summarized : List.Forall₂ (fun holding entry => summarizeHolding db holding = .ok entry) holdings
      entries) {start : GlobalSummary} {before : List HoldingSummary} (tallied : Tallied start before) :
    ∃ summary, holdings.foldlM
        (fun summary holding => (summarizeHolding db holding).map summary.addEntry) start =
          .ok summary ∧ Tallied summary (before ++ entries) := by
  induction summarized generalizing start before with
  | nil => exact ⟨start, rfl, by rw [List.append_nil]; exact tallied⟩
  | @cons holding entry holdings entries made _ ih =>
      obtain ⟨summary, run, done⟩ := ih (tallied.addEntry entry)
      rw [List.append_assoc] at done
      refine ⟨summary, ?_, done⟩
      rw [List.foldlM_cons, made]
      exact run

/-- The entry of a holding that is no account. -/
structure SummaryEntryOf (db : HoldingDatabase) (row : HoldingRow) (entry : HoldingSummary) : Prop where
  holdingId : entry.holdingId = row.id
  holdingType : entry.holdingType = row.holdingType
  purpose : entry.purpose = row.purpose
  confirmed : entry.confirmedSats =
    balanceOfDescriptors db.toDatabase (DescriptorRows.idsForHolding db row.id)
  descriptors : entry.descriptorCount = (DescriptorRows.idsForHolding db row.id).length
  utxos : entry.utxoCount =
    coinsOfDescriptors db.toDatabase (DescriptorRows.idsForHolding db row.id)

/-- A holding in self-custody shows its confirmed balance. -/
theorem labelAndBalance_of_selfCustody (db : HoldingDatabase) {holding : LoadedHolding}
    (notAccount : holding.row.holdingType ≠ .account) (confirmed : Int) :
    ∃ label, labelAndBalance db holding confirmed = .ok (label, some confirmed) := by
  rw [labelAndBalance]
  split
  · next account => exact absurd account notAccount
  · exact ⟨_, rfl⟩
  · split <;> exact ⟨_, rfl⟩
  · exact ⟨_, rfl⟩

/-- A holding in self-custody is summarised when its descriptors load. -/
theorem summarizeHolding_of_selfCustody {holding : LoadedHolding}
    (notAccount : holding.row.holdingType ≠ .account) {descriptors : List DescriptorRow}
    (loads : loadDescriptors db holding.row.id = .ok descriptors) :
    ∃ entry, summarizeHolding db holding = .ok entry ∧ SummaryEntryOf db holding.row entry := by
  obtain ⟨rfl, -⟩ := loadDescriptors_ok_iff.mp loads
  obtain ⟨label, shown⟩ := labelAndBalance_of_selfCustody db notAccount
    (balanceOfDescriptors db.toDatabase (DescriptorRows.idsForHolding db holding.row.id))
  refine ⟨holding.summary db _ label _, ?_, ⟨rfl, rfl, rfl, rfl, (List.length_map ..).symm, rfl⟩⟩
  rw [summarizeHolding, loads]
  exact bind_ok_iff.mpr ⟨_, rfl, bind_ok_iff.mpr ⟨_, shown, rfl⟩⟩

theorem exists_forall₂ {α β : Type} {R : α → β → Prop} {items : List α}
    (each : ∀ item ∈ items, ∃ result, R item result) : ∃ results, List.Forall₂ R items results := by
  induction items with
  | nil => exact ⟨[], .nil⟩
  | cons item items ih =>
      obtain ⟨⟨first, here⟩, there⟩ := List.forall_mem_cons.mp each
      obtain ⟨results, later⟩ := ih there
      exact ⟨first :: results, .cons here later⟩

theorem map_eq_of_forall₂ {α β γ : Type} {R : α → β → Prop} {f : α → γ} {g : β → γ} {items : List α}
    {results : List β} (related : List.Forall₂ R items results)
    (same : ∀ item ∈ items, ∀ result, R item result → g result = f item) :
    results.map g = items.map f := by
  induction related with
  | nil => rfl
  | @cons item result items results here _ ih =>
      obtain ⟨first, later⟩ := List.forall_mem_cons.mp same
      rw [List.map_cons, List.map_cons, first result here, ih later]

theorem exists_of_mem_forall₂ {α β : Type} {R : α → β → Prop} {items : List α} {results : List β}
    (related : List.Forall₂ R items results) {result : β} (member : result ∈ results) :
    ∃ item ∈ items, R item result := by
  induction related with
  | nil => exact absurd member List.not_mem_nil
  | @cons item first items results here _ ih =>
      rcases List.mem_cons.mp member with rfl | later
      · exact ⟨item, List.mem_cons_self, here⟩
      · obtain ⟨other, listed, there⟩ := ih later
        exact ⟨other, List.mem_cons_of_mem item listed, there⟩

/-- The holding built of a row, as the listing and `get_holding` build it. -/
def BuiltOf (db : HoldingDatabase) (row : HoldingRow) (holding : LoadedHolding) : Prop :=
  rowToDomain row (db.columns row.id) (DescriptorRows.idsForHolding db row.id) none = .ok holding

/-- Every stored row of a summarisable database is built. -/
theorem Summarizable.built (guarded : Summarizable db) {row : HoldingRow}
    (stored : row ∈ db.holdings.rows) : ∃ holding, BuiltOf db row holding := by
  obtain ⟨purseMode, reads⟩ := guarded.readable row stored
  have accepted := And.intro (guarded.related row stored) (guarded.columns row stored)
  obtain ⟨holding, built⟩ := constructHolding_ok_iff.mpr accepted
  exact ⟨holding, bind_ok_iff.mpr ⟨purseMode, reads, built⟩⟩

theorem BuiltOf.row {row : HoldingRow} {holding : LoadedHolding} (built : BuiltOf db row holding) :
    holding.row = row := by
  obtain ⟨purseMode, -, construction⟩ := bind_ok_iff.mp built
  exact constructHolding_row construction

/-- A built holding is what the service answers with. -/
theorem Summarizable.getHolding (guarded : Summarizable db) {row : HoldingRow}
    (stored : row ∈ db.holdings.rows) {holding : LoadedHolding} (built : BuiltOf db row holding) :
    HoldingService.getHolding db row.id = .ok (some holding) := by
  obtain ⟨purseMode, reads, construction⟩ := bind_ok_iff.mp built
  refine getHolding_some_iff.mpr ⟨row, purseMode, none, Table.get?_of_mem stored, reads, ?_,
    construction⟩
  have nobody : db.custodialProviders.select (fun provider => decide (provider.holdingId = row.id)) =
      [] := by
    apply List.filter_eq_nil_iff.mpr
    intro provider attached same
    exact guarded.unattached row stored provider attached (of_decide_eq_true same)
  rw [HoldingService.providerOf, nobody]
  rfl

/-- The service lists the holdings as they are built. -/
theorem Summarizable.listHoldings (guarded : Summarizable db) :
    ∃ holdings, HoldingService.listHoldings db none none = .ok holdings ∧
      List.Forall₂ (BuiltOf db) db.holdings.rows holdings := by
  obtain ⟨holdings, built⟩ := exists_forall₂ fun _ stored => guarded.built stored
  refine ⟨holdings, ?_, built⟩
  have all : db.holdings.select (fun row =>
      ((none : Option HoldingType).all fun type => decide (row.holdingType = type)) &&
        (none : Option Purpose).all fun purpose => decide (row.purpose = purpose)) =
      db.holdings.rows := List.filter_eq_self.mpr fun _ _ => rfl
  rw [HoldingService.listHoldings, all, mapM_ok_iff]
  refine ((List.forall₂_and_left _ _).mpr ⟨guarded.selfCustody, built⟩).imp ?_
  rintro row holding ⟨notAccount, here⟩
  rw [HoldingService.batchProviderOf, if_neg notAccount]
  exact here

/-- The summaries of a database that can be summarized. -/
theorem Summarizable.faithful (guarded : Summarizable db) : BalanceViewsAgree classes db := by
  obtain ⟨holdings, listed, built⟩ := guarded.listHoldings
  have sorted := List.perm_insertionSort LoadedHolding.before holdings
  have loads : ∀ row ∈ db.holdings.rows, ∃ descriptors, loadDescriptors db row.id = .ok descriptors :=
    fun row stored => ⟨_, loadDescriptors_ok_iff.mpr ⟨rfl, guarded.descriptors row stored⟩⟩
  have rowOf : ∀ holding ∈ holdings.insertionSort LoadedHolding.before,
      holding.row ∈ db.holdings.rows := by
    intro holding member
    obtain ⟨row, stored, here⟩ := exists_of_mem_forall₂ built (sorted.mem_iff.mp member)
    rw [here.row]
    exact stored
  have summarized : ∀ holding ∈ holdings.insertionSort LoadedHolding.before, ∃ entry,
      summarizeHolding db holding = .ok entry ∧ SummaryEntryOf db holding.row entry := by
    intro holding member
    obtain ⟨descriptors, loaded⟩ := loads _ (rowOf holding member)
    exact summarizeHolding_of_selfCustody (guarded.selfCustody _ (rowOf holding member)) loaded
  obtain ⟨entries, made⟩ := exists_forall₂ summarized
  obtain ⟨summary, run, tallied⟩ := foldlM_addEntry (made.imp fun _ _ here => here.1) .empty
  rw [List.nil_append] at tallied
  have entryOf : ∀ entry ∈ summary.holdings, ∃ row ∈ db.holdings.rows, SummaryEntryOf db row entry := by
    intro entry member
    rw [tallied.holdings] at member
    obtain ⟨holding, listed, -, here⟩ := exists_of_mem_forall₂ made member
    exact ⟨holding.row, rowOf holding listed, here⟩
  refine ⟨summary, bind_ok_iff.mpr ⟨holdings, listed, run⟩, ?_⟩
  constructor
  case listed =>
    have ofEntries : entries.map (fun entry => (entry.holdingId, entry.holdingType, entry.purpose)) =
        (holdings.insertionSort LoadedHolding.before).map fun holding =>
          (holding.row.id, holding.row.holdingType, holding.row.purpose) :=
      map_eq_of_forall₂ made fun holding _ entry here => by
        rw [here.2.holdingId, here.2.holdingType, here.2.purpose]
    have ofHoldings : holdings.map (fun holding =>
        (holding.row.id, holding.row.holdingType, holding.row.purpose)) =
        db.holdings.rows.map fun row => (row.id, row.holdingType, row.purpose) :=
      map_eq_of_forall₂ built fun row _ holding here => by rw [here.row]
    rw [tallied.holdings, ofEntries, ← ofHoldings]
    exact sorted.map _
  case total => rw [tallied.total, tallied.holdings]
  case byType =>
    rw [tallied.holdings]
    exact tallied.byType
  case byPurpose =>
    rw [tallied.holdings]
    exact tallied.byPurpose
  case selfCustody =>
    intro entry member _
    obtain ⟨row, stored, here⟩ := entryOf entry member
    rw [here.confirmed, here.holdingId]
    exact (balance_eq_confirmedCoins_iff row.id).mpr (guarded.settled row stored)
  case accounts =>
    intro entry member account
    obtain ⟨row, stored, here⟩ := entryOf entry member
    rw [here.holdingType] at account
    exact absurd account (guarded.selfCustody row stored)
  case each =>
    intro entry member computedAt detectedAt
    obtain ⟨row, stored, here⟩ := entryOf entry member
    obtain ⟨holding, built⟩ := guarded.built stored
    have load := guarded.getHolding stored built
    have notAccount : holding.row.holdingType ≠ .account := by
      rw [built.row]
      exact guarded.selfCustody row stored
    have analysable : ∃ result, analyzeHolding classes db row.id computedAt detectedAt =
        .ok (some result) :=
      (analyzeHolding_some_iff (loadWithDescriptors_of_described load notAccount) notAccount).mpr
        (loads row stored)
    obtain ⟨result, analysed⟩ := analysable
    rw [here.holdingId, here.confirmed, here.descriptors, here.utxos]
    exact ⟨_, holdingSummary_ok_iff.mpr ⟨holding, some result, load, analysed, rfl⟩, rfl, rfl, rfl⟩

/-- What a faithful summary says of one holding. -/
theorem SummaryFaithful.succeeds {summary : GlobalSummary}
    (faithful : SummaryFaithful classes db summary) {row : HoldingRow}
    (stored : row ∈ db.holdings.rows) :
    ∃ deep, holdingSummary classes db row.id 0 0 = .ok deep ∧
      (row.holdingType ≠ .account → deep.confirmedSats = confirmedCoins db row.id) := by
  have member := faithful.listed.mem_iff.mpr (List.mem_map_of_mem stored)
  obtain ⟨entry, shown, same⟩ := List.mem_map.mp member
  have sameId : entry.holdingId = row.id := congrArg Prod.fst same
  have sameType : entry.holdingType = row.holdingType := congrArg (fun same => same.2.1) same
  obtain ⟨deep, succeeds, confirmed, -⟩ := faithful.each entry shown 0 0
  rw [sameId] at succeeds
  refine ⟨deep, succeeds, fun notAccount => ?_⟩
  rw [← sameType] at notAccount
  rw [confirmed, faithful.selfCustody entry shown notAccount, sameId]

/-- The views agree exactly on the databases that can be summarized. -/
theorem balanceViewsAgree_iff (classes : CharClasses) (db : HoldingDatabase) :
    BalanceViewsAgree classes db ↔ Summarizable db := by
  constructor
  · rintro ⟨summary, -, faithful⟩
    have rules : ∀ row ∈ db.holdings.rows, _ := fun row stored =>
      (faithful.succeeds stored).elim fun _ here => summarizable_of_holdingSummary stored here.1
    constructor
    case selfCustody => exact fun row stored => (rules row stored).1
    case readable => exact fun row stored => (rules row stored).2.1
    case related => exact fun row stored => (rules row stored).2.2.1
    case columns => exact fun row stored => (rules row stored).2.2.2.1
    case unattached => exact fun row stored => (rules row stored).2.2.2.2.1
    case descriptors => exact fun row stored => (rules row stored).2.2.2.2.2
    case settled =>
      intro row stored
      obtain ⟨deep, succeeds, confirmed⟩ := faithful.succeeds stored
      obtain ⟨holding, analysis, -, -, shown⟩ := holdingSummary_ok_iff.mp succeeds
      rw [shown] at confirmed
      exact (balance_eq_confirmedCoins_iff row.id).mp (confirmed (rules row stored).1)
  · exact Summarizable.faithful

/-- The summary of an account raises, while the summary over all holdings lists it. -/
theorem not_balanceViewsAgree_of_account : ¬BalanceViewsAgree .ascii accountDatabase := by
  rintro ⟨summary, -, faithful⟩
  have stored : exchangeDetails.row 1 .account ∈ accountDatabase.holdings.rows := by decide
  obtain ⟨deep, succeeds, -⟩ := faithful.succeeds stored
  exact (summarizable_of_holdingSummary stored succeeds).1 rfl

end TallyKeep
