/-
Module: TallyKeep.Api.HoldingSummaries
Layer: Api
Purpose: The summary over all holdings and the summary of one.
Trusted boundary: translation of `global_holdings_summary` and `holding_summary` in
  `api/v1/holdings.py`.  `descriptor_balance_sats` and `list_for_descriptor` read the coins of one
  descriptor.  The item about the principles, which the summary over all may add, and the rest of
  the holding in the response are left out
Main exports: UtxoRepo.descriptorBalanceSats, HoldingSummary, GlobalSummary, summarizeHolding,
  globalHoldingsSummary, HoldingDeepSummary, holdingSummary
-/
import TallyKeep.Library.Tally
import TallyKeep.Services.Analysis

namespace TallyKeep

open Regex Relational

/-! ### Coins -/

/-- `descriptor_balance_sats`. -/
def UtxoRepo.descriptorBalanceSats (db : Database) (descriptorId : Uuid) : Int :=
  ((UtxoRepo.listUnspentForDescriptor db descriptorId).map fun row => (row.valueSats : Int)).sum

/-- The balance that both summaries add up, over some descriptors. -/
def balanceOfDescriptors (db : Database) (descriptorIds : List Uuid) : Int :=
  (descriptorIds.map (UtxoRepo.descriptorBalanceSats db)).sum

/-- The number of coins that both summaries add up. -/
def coinsOfDescriptors (db : Database) (descriptorIds : List Uuid) : Int :=
  (descriptorIds.map fun id => ((UtxoRepo.listUnspentForDescriptor db id).length : Int)).sum

/-! ### The summary over all holdings -/

/-- `_CUSTODY_TIER`. -/
def HoldingType.custodyTier : HoldingType → Nat
  | .account => 0
  | .purse => 1
  | .strongbox => 2
  | .vault => 3

/-- The order of the summary: by custody tier, then by display order. -/
def LoadedHolding.before (holding later : LoadedHolding) : Prop :=
  holding.row.holdingType.custodyTier < later.row.holdingType.custodyTier ∨
    holding.row.holdingType.custodyTier = later.row.holdingType.custodyTier ∧
      holding.columns.displayOrder ≤ later.columns.displayOrder

instance (holding later : LoadedHolding) : Decidable (holding.before later) :=
  inferInstanceAs (Decidable (_ ∨ _))

/-- One entry of the summary. -/
structure HoldingSummary where
  holdingId : Uuid
  holdingType : HoldingType
  name : String
  purpose : Purpose
  confirmedSats : Int
  descriptorCount : Nat
  utxoCount : Int
  displayColor : String
  displayOrder : Int
  typeLabel : Option String
  scanStatus : String
deriving DecidableEq

/-- The summary: its entries, and the sums. -/
structure GlobalSummary where
  holdings : List HoldingSummary
  totalSats : Int
  byType : List (HoldingType × Int)
  byPurpose : List (Purpose × Int)

def GlobalSummary.empty : GlobalSummary := ⟨[], 0, [], []⟩

/-- `meta` and `confirmed_sats`: an account shows its provider, and a balance the provider does not
    know is none. -/
def labelAndBalance (db : HoldingDatabase) (holding : LoadedHolding) (confirmed : Int) :
    Except PyError (Option String × Option Int) :=
  let data := holding.columns.subtypeData
  match holding.row.holdingType with
  | .account => do
      match ← scalarOneOrNone (db.custodialProviders.select fun row =>
          decide (row.holdingId = holding.row.id)) with
      | none => return (none, some 0)
      | some provider => return (some provider.displayName, provider.lastKnownBalanceSats)
  | .strongbox => return (data.signingDeviceLabel, some confirmed)
  | .vault =>
      match data.requiredSigners, data.totalSigners with
      | some required, some total =>
          return (some (toString required ++ "-of-" ++ toString total ++ " multisig"), some confirmed)
      | _, _ => return (none, some confirmed)
  | .purse => return (none, some confirmed)

def scanStatus (holdingType : HoldingType) (descriptors : List DescriptorRow) : String :=
  if holdingType = .account then "n/a"
  else if descriptors = [] then "n/a"
  else if descriptors.all fun row => decide (0 < row.lastScannedHeight) then "scanned"
  else "scanning"

/-- The entry of a holding with its descriptors, its label and its balance. -/
def LoadedHolding.summary (holding : LoadedHolding) (db : HoldingDatabase)
    (descriptors : List DescriptorRow) (label : Option String) (confirmed : Int) : HoldingSummary where
  holdingId := holding.row.id
  holdingType := holding.row.holdingType
  name := holding.columns.name
  purpose := holding.row.purpose
  confirmedSats := confirmed
  descriptorCount := descriptors.length
  utxoCount := coinsOfDescriptors db.toDatabase (descriptors.map DescriptorRow.id)
  displayColor := holding.columns.displayColor
  displayOrder := holding.columns.displayOrder
  typeLabel := label
  scanStatus := scanStatus holding.row.holdingType descriptors

/-- One round of the loop; adding up a balance that is none raises. -/
def summarizeHolding (db : HoldingDatabase) (holding : LoadedHolding) :
    Except PyError HoldingSummary := do
  let descriptors ← loadDescriptors db holding.row.id
  let balance := balanceOfDescriptors db.toDatabase (descriptors.map DescriptorRow.id)
  match ← labelAndBalance db holding balance with
  | (_, none) =>
      throw ⟨.typeError, "unsupported operand type(s) for +=: 'int' and 'NoneType'"⟩
  | (label, some confirmed) => return holding.summary db descriptors label confirmed

/-- The entry is added, and its balance counted. -/
def GlobalSummary.addEntry (summary : GlobalSummary) (entry : HoldingSummary) : GlobalSummary where
  holdings := summary.holdings ++ [entry]
  totalSats := summary.totalSats + entry.confirmedSats
  byType := Tally.add summary.byType entry.holdingType entry.confirmedSats
  byPurpose := Tally.add summary.byPurpose entry.purpose entry.confirmedSats

/-- `global_holdings_summary`. -/
def globalHoldingsSummary (db : HoldingDatabase) : Except PyError GlobalSummary := do
  let holdings ← HoldingService.listHoldings db none none
  (holdings.insertionSort LoadedHolding.before).foldlM
    (fun summary holding => (summarizeHolding db holding).map summary.addEntry) .empty

/-! ### The summary of one -/

/-- What `holding_summary` returns. -/
structure HoldingDeepSummary where
  holding : LoadedHolding
  totalBalanceSats : Int
  confirmedSats : Int
  unconfirmedSats : Int
  descriptorCount : Nat
  utxoCount : Int
  observableSecurity : Option ObservableSecurity
  discrepancies : List Discrepancy

/-- `holding_summary`. -/
def holdingSummary (classes : CharClasses) (db : HoldingDatabase) (holdingId : Uuid)
    (computedAt detectedAt : Timestamp) : Except PyError HoldingDeepSummary := do
  match ← HoldingService.getHolding db holdingId with
  | none => throw ⟨.httpException, "Holding not found"⟩
  | some holding =>
      let descriptorIds := DescriptorRows.idsForHolding db holdingId
      let confirmed := balanceOfDescriptors db.toDatabase descriptorIds
      let analysis ← analyzeHolding classes db holdingId computedAt detectedAt
      return {
        holding := holding
        totalBalanceSats := confirmed
        confirmedSats := confirmed
        unconfirmedSats := 0
        descriptorCount := descriptorIds.length
        utxoCount := coinsOfDescriptors db.toDatabase descriptorIds
        observableSecurity := analysis.map SecurityAnalysisResult.observable
        discrepancies := (analysis.map SecurityAnalysisResult.discrepancies).getD [] }

end TallyKeep
