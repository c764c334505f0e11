/-
Module: TallyKeep.Proofs.HoldingLoads
Layer: Proofs
Purpose: The loads of a holding in payments, invoices and the security analysis, compared with that
  of `get_holding`.
Trusted boundary: none
Main exports: LoadersAgree, loadWithDescriptors_of_account, loadWithDescriptors_of_described,
  loadersAgree_iff
-/
import TallyKeep.Proofs.HoldingBook
import TallyKeep.Services.Analysis

namespace TallyKeep

open Regex Relational

variable {classes : CharClasses} {db : HoldingDatabase} {holdingId : Uuid}
  {holding : LoadedHolding}

/-! ### Agreement -/

/-- Past their load, the three operations do what they are documented to do: the row of the holding
    decides over payments and invoices, and an analysis has a result. -/
structure LoadersAgree (classes : CharClasses) (db : HoldingDatabase) (holdingId : Uuid)
    (holding : LoadedHolding) : Prop where
  loaded : loadWithDescriptors db holdingId = .ok (some holding)
  payments : ∀ {Psbt Tx : Type} (bdk : Bdk Psbt Tx) node order now, order.holdingId = holdingId →
    buildPaymentRequestFromLoad bdk node db order now =
      buildPaymentRequest bdk node db.toDatabase order now
  invoices : ∀ order, order.holdingId = holdingId →
    createInvoiceFromLoad db order = createInvoice db.toDatabase order
  analyses : ∀ computedAt detectedAt, ∃ result,
    analyzeHolding classes db holdingId computedAt detectedAt = .ok (some result)
  cannotSend : holding.row.holdingType = .account →
    ∀ {Psbt Tx : Type} (bdk : Bdk Psbt Tx) node order now, order.holdingId = holdingId →
      buildPaymentRequestFromLoad bdk node db order now =
        .error ⟨.holdingCannotSend,
          "Account holdings cannot create on-chain PaymentRequests; use the sweep / " ++
            "withdrawal flow."⟩
  cannotReceive : holding.row.holdingType = .account → ∀ order, order.holdingId = holdingId →
    createInvoiceFromLoad db order =
      .error ⟨.holdingCannotReceive,
        "Account holdings cannot have on-chain Invoices; their incoming payments come through " ++
          "the custodial provider, not this app."⟩
  custodial : holding.row.holdingType = .account → ∀ computedAt detectedAt,
    analyzeHolding classes db holdingId computedAt detectedAt =
      .ok (some (holding.analysis holdingId (custodialObservable holdingId computedAt) []))

/-! ### Loads -/

/-- What `get_holding` returns is built from the row of the holding, its descriptors and the provider
    it looks up. -/
theorem getHolding_some_iff :
    HoldingService.getHolding db holdingId = .ok (some holding) ↔
      ∃ row purseMode provider, db.holdings.get? holdingId = some row ∧
        (db.columns holdingId).subtypeData.readPurseMode = .ok purseMode ∧
        HoldingService.providerOf db holdingId = .ok provider ∧
        constructHolding row (db.columns holdingId) purseMode
          (DescriptorRows.idsForHolding db holdingId) provider = .ok holding := by
  rw [HoldingService.getHolding, bind_ok_iff]
  constructor
  · rintro ⟨provider, provided, load⟩
    rw [HoldingRepo.get] at load
    split at load
    · cases load
    · rename_i row found
      obtain ⟨built, construction, same⟩ := map_ok_iff.mp load
      cases same
      rw [rowToDomain, bind_ok_iff] at construction
      obtain ⟨purseMode, reads, construction⟩ := construction
      exact ⟨row, purseMode, provider, found, reads, provided, construction⟩
  · rintro ⟨row, purseMode, provider, found, reads, provided, construction⟩
    refine ⟨provider, provided, ?_⟩
    rw [HoldingRepo.get, found]
    refine map_ok_iff.mpr ⟨holding, ?_, rfl⟩
    rw [rowToDomain, reads]
    exact construction

theorem constructHolding_row {row : HoldingRow} {columns : HoldingColumns}
    {purseMode : Option PurseMode} {descriptorIds : List Uuid} {provider : Option Uuid}
    (run : constructHolding row columns purseMode descriptorIds provider = .ok holding) :
    holding.row = row := by
  obtain ⟨built, construction, rfl⟩ := map_ok_iff.mp run
  rw [Holding.postInit] at construction
  split at construction <;> split at construction <;> try cases construction
  all_goals split at construction <;> try cases construction
  all_goals split at construction <;> try cases construction
  all_goals
    obtain ⟨-, -, rfl⟩ := map_ok_iff.mp construction
    rfl

/-- A load with no provider succeeds exactly for the holdings that have none. -/
theorem loadWithDescriptors_of_described
    (found : HoldingService.getHolding db holdingId = .ok (some holding))
    (notAccount : holding.row.holdingType ≠ .account) :
    loadWithDescriptors db holdingId = .ok (some holding) := by
  obtain ⟨row, purseMode, provider, stored, reads, -, construction⟩ := getHolding_some_iff.mp found
  obtain ⟨relations, -⟩ := constructHolding_ok_iff.mp ⟨holding, construction⟩
  rw [constructHolding_row construction] at notAccount
  rw [RelationsFit, if_neg notAccount] at relations
  obtain ⟨-, rfl, -⟩ := relations
  rw [loadWithDescriptors, HoldingRepo.get, stored]
  refine map_ok_iff.mpr ⟨holding, ?_, rfl⟩
  rw [rowToDomain, reads]
  exact construction

/-- An account is not built without its provider. -/
theorem loadWithDescriptors_of_account
    (found : HoldingService.getHolding db holdingId = .ok (some holding))
    (account : holding.row.holdingType = .account) :
    loadWithDescriptors db holdingId =
      .error ⟨.valueError, "Account holdings require a CustodialProvider id"⟩ := by
  obtain ⟨row, purseMode, provider, stored, reads, -, construction⟩ := getHolding_some_iff.mp found
  obtain ⟨relations, -⟩ := constructHolding_ok_iff.mp ⟨holding, construction⟩
  rw [constructHolding_row construction] at account
  rw [RelationsFit, if_pos account] at relations
  rw [loadWithDescriptors, HoldingRepo.get, stored]
  simp only [rowToDomain, reads, relations.1, constructHolding, Holding.postInit, account, if_true,
    ne_eq, not_true_eq_false, if_false]
  rfl

/-! ### Descriptors -/

/-- The rules of the `Descriptor` constructor. -/
def DescriptorRow.Loads (row : DescriptorRow) : Prop := 1 ≤ row.gapLimit ∧ row.expression ≠ ""

theorem DescriptorRow.postInit_ok {row result : DescriptorRow} (run : row.postInit = .ok result) :
    result = row := by
  rw [postInit] at run
  split at run
  · cases run
  · split at run
    · cases run
    · cases run
      rfl

theorem DescriptorRow.loads_iff {row : DescriptorRow} : row.postInit = .ok row ↔ row.Loads := by
  rw [postInit, Loads]
  split
  · simp; omega
  · split
    · simp [*]
    · simp [*]; omega

/-- The descriptors of a holding load exactly when each satisfies the rules. -/
theorem loadDescriptors_ok_iff {descriptors : List DescriptorRow} :
    loadDescriptors db holdingId = .ok descriptors ↔
      descriptors = DescriptorRepo.listDescriptorsForHolding db.toDatabase holdingId ∧
        ∀ row ∈ db.descriptors.rows, row.holdingId = holdingId → row.Loads := by
  rw [loadDescriptors, mapM_check_ok_iff fun _ _ => DescriptorRow.postInit_ok]
  simp only [DescriptorRepo.listDescriptorsForHolding, Table.mem_select, decide_eq_true_eq,
    DescriptorRow.loads_iff, and_imp]

/-! ### Operations -/

/-- Behind its load, a payment is what the row of the holding decides. -/
theorem buildPaymentRequestFromLoad_of_loads {Psbt Tx : Type} {bdk : Bdk Psbt Tx}
    {node : PaymentNode} {order : PaymentOrder} {now : Timestamp}
    (loaded : loadWithDescriptors db order.holdingId = .ok (some holding))
    {descriptors : List DescriptorRow}
    (loads : loadDescriptors db order.holdingId = .ok descriptors) :
    buildPaymentRequestFromLoad bdk node db order now =
      buildPaymentRequest bdk node db.toDatabase order now := by
  simp only [buildPaymentRequestFromLoad, loaded, loads, bind, Except.bind]
  split <;> rfl

theorem createInvoiceFromLoad_of_loads {order : InvoiceOrder}
    (loaded : loadWithDescriptors db order.holdingId = .ok (some holding))
    {descriptors : List DescriptorRow}
    (loads : loadDescriptors db order.holdingId = .ok descriptors) :
    createInvoiceFromLoad db order = createInvoice db.toDatabase order := by
  simp only [createInvoiceFromLoad, loaded, loads, bind, Except.bind]
  split <;> rfl

/-- Behind its load, an analysis of a holding with descriptors ends exactly as their load does. -/
theorem analyzeHolding_some_iff {computedAt detectedAt : Timestamp}
    (loaded : loadWithDescriptors db holdingId = .ok (some holding))
    (notAccount : holding.row.holdingType ≠ .account) :
    (∃ result, analyzeHolding classes db holdingId computedAt detectedAt = .ok (some result)) ↔
      ∃ descriptors, loadDescriptors db holdingId = .ok descriptors := by
  rw [analyzeHolding, loaded]
  simp only [bind, Except.bind, analyzeLoaded, if_neg notAccount]
  cases loadDescriptors db holdingId with
  | error error => simp
  | ok descriptors => simp [pure, Except.pure]

/-- For every holding that `get_holding` returns, the other loads agree with it exactly when it is no
    account, and its descriptors satisfy the rules of their own constructor. -/
theorem loadersAgree_iff (classes : CharClasses) (db : HoldingDatabase) (holdingId : Uuid)
    (holding : LoadedHolding)
    (found : HoldingService.getHolding db holdingId = .ok (some holding)) :
    LoadersAgree classes db holdingId holding ↔
      holding.row.holdingType ≠ .account ∧
        ∀ row ∈ db.descriptors.rows, row.holdingId = holdingId → row.Loads := by
  constructor
  · intro agree
    have notAccount : holding.row.holdingType ≠ .account := by
      intro account
      have loaded := agree.loaded
      rw [loadWithDescriptors_of_account found account] at loaded
      cases loaded
    obtain ⟨descriptors, loads⟩ :=
      (analyzeHolding_some_iff agree.loaded notAccount).mp (agree.analyses 0 0)
    exact ⟨notAccount, (loadDescriptors_ok_iff.mp loads).2⟩
  · rintro ⟨notAccount, wellFormed⟩
    have loaded := loadWithDescriptors_of_described found notAccount
    have loads := loadDescriptors_ok_iff.mpr ⟨rfl, wellFormed⟩
    refine ⟨loaded, ?_, ?_, ?_, ?_, ?_, ?_⟩
    · rintro Psbt Tx bdk node order now rfl
      exact buildPaymentRequestFromLoad_of_loads loaded loads
    · rintro order rfl
      exact createInvoiceFromLoad_of_loads loaded loads
    · intro computedAt detectedAt
      exact (analyzeHolding_some_iff loaded notAccount).mpr ⟨_, loads⟩
    · exact fun account => absurd account notAccount
    · exact fun account => absurd account notAccount
    · exact fun account => absurd account notAccount

/-! ### A purse and an account -/

/-- A watch-only purse, alone in the database. -/
def purseDatabase : HoldingDatabase :=
  holdingStep .ascii accountLibrary .empty
    (.createPurse purseDetails [⟨"main", accountDescriptor, none, .mainnet, 1⟩] .watchOnly)

def loadedPurse : LoadedHolding :=
  ⟨⟨purseDetails.row 1 .purse, [1], none⟩,
    purseDetails.columns { SubtypeData.empty with purseMode := some "watch_only" }, some .watchOnly⟩

theorem loadersAgree_iff_purse :
    LoadersAgree .ascii purseDatabase 1 loadedPurse ↔
      loadedPurse.row.holdingType ≠ .account ∧
        ∀ row ∈ purseDatabase.descriptors.rows, row.holdingId = 1 → row.Loads :=
  loadersAgree_iff .ascii purseDatabase 1 loadedPurse (by decide +kernel)

def exchangeDetails : HoldingDetails where
  name := "Exchange"
  description := none
  purpose := .transit
  declaredSecurity := ⟨.thirdParty, .notApplicable, false, false, none⟩
  displayColor := "#3b82f6"
  displayOrder := 0

/-- An account at a provider, alone in the database. -/
def accountDatabase : HoldingDatabase :=
  holdingStep .ascii accountLibrary .empty
    (.createAccount exchangeDetails ⟨"Kraken", "kraken", false, 100000⟩)

def loadedAccount : LoadedHolding :=
  ⟨⟨exchangeDetails.row 1 .account, [], some 1⟩, exchangeDetails.columns .empty, none⟩

/-- `get_holding` returns the account, and the other loads raise. -/
theorem account_not_agreed :
    ¬∀ classes db holdingId holding, HoldingService.getHolding db holdingId = .ok (some holding) →
      LoadersAgree classes db holdingId holding := by
  intro agree
  have found : HoldingService.getHolding accountDatabase 1 = .ok (some loadedAccount) := by
    decide
  have loaded := (agree .ascii accountDatabase 1 loadedAccount found).loaded
  have raises : (loadWithDescriptors accountDatabase 1).isOk = false := by decide
  rw [loaded] at raises
  cases raises

end TallyKeep
