/-
Module: TallyKeep.Proofs.ReuseFlags
Layer: Proofs
Purpose: The reuse flags of addresses and coins say exactly which addresses several transactions have
  paid, in every state that scans, transactions, freezing and deletions lead to.
Trusted boundary: none
Main exports: ReuseLaw, ReuseExact, ReuseExact.recorded, ReuseExact.operation, HygieneStep,
  reuseLaw_of_reachable
-/
import TallyKeep.Library.SharedGroups
import TallyKeep.Proofs.Confirmation
import TallyKeep.Proofs.ScanCompleteness

namespace TallyKeep

open Relational Transition SharedGroups

/-! ### The law -/

/-- The transaction that made the coin. -/
def UtxoRow.txid (row : UtxoRow) : Txid := row.outpoint.txid

/-- Coins of two transactions are at the address. -/
def Database.PaidTwice (db : Database) (addressId : Uuid) : Prop :=
  Shared UtxoRow.addressId UtxoRow.txid db.utxos.rows addressId

/-- The coin carries `ADDRESS_REUSED`. -/
def UtxoRow.CarriesReuse (row : UtxoRow) : Prop := .addressReused ∈ row.hygieneFlags

/-- An address is marked as reused exactly when coins of two transactions are at it; then all its
    coins carry the flag, and otherwise none; and no coin carries a flag twice. -/
structure ReuseLaw (db : Database) : Prop where
  marked_iff : ∀ address ∈ db.addresses.rows,
    address.isReused = true ↔ db.PaidTwice address.id
  carried_iff : ∀ address ∈ db.addresses.rows,
    (∃ row ∈ db.utxos.rows, row.addressId = address.id) →
      (db.PaidTwice address.id ↔
        ∀ row ∈ db.utxos.rows, row.addressId = address.id → row.CarriesReuse)
  noneCarries : ∀ address ∈ db.addresses.rows, ¬db.PaidTwice address.id →
    ∀ row ∈ db.utxos.rows, row.addressId = address.id → ¬row.CarriesReuse
  flagsOnce : ∀ row ∈ db.utxos.rows, row.hygieneFlags.Nodup

/-! ### The invariant -/

/-- An address row of this id and descriptor is there. -/
def AddressRowOf (db : Database) (addressId descriptorId : Uuid) : Prop :=
  ∃ address ∈ db.addresses.rows, address.id = addressId ∧ address.descriptorId = descriptorId

/-- Where an address is placed depends on the core of the addresses only. -/
theorem AddressRowOf.congr {db db' : Database} {addressId descriptorId : Uuid}
    (same : db'.addresses.rows.map AddressRow.core = db.addresses.rows.map AddressRow.core)
    (placed : AddressRowOf db addressId descriptorId) : AddressRowOf db' addressId descriptorId := by
  obtain ⟨address, stored, sameId, sameDescriptor⟩ := placed
  have core := List.mem_map_of_mem (f := AddressRow.core) stored
  rw [← same] at core
  obtain ⟨address', stored', sameCore⟩ := List.mem_map.mp core
  have id' := congrArg AddressRow.id sameCore
  have descriptor' := congrArg AddressRow.descriptorId sameCore
  exact ⟨address', stored', id'.trans sameId, descriptor'.trans sameDescriptor⟩

/-- Coin flags and address marks are exact, and every coin is at an address of its descriptor. -/
structure ReuseExact (db : Database) : Prop where
  coins : ExactMarks UtxoRow.addressId UtxoRow.txid UtxoRow.CarriesReuse db.utxos.rows
  addresses : ∀ address ∈ db.addresses.rows, address.isReused = true ↔ db.PaidTwice address.id
  flagsOnce : ∀ row ∈ db.utxos.rows, row.hygieneFlags.Nodup
  placed : ∀ row ∈ db.utxos.rows, AddressRowOf db row.addressId row.descriptorId

/-- Exact flags obey the law. -/
theorem ReuseExact.law {db : Database} (exact : ReuseExact db) : ReuseLaw db where
  marked_iff := exact.addresses
  carried_iff := by
    rintro address - ⟨row, stored, here⟩
    constructor
    · rintro paidTwice other otherStored there
      rw [exact.coins other otherStored, there]
      exact paidTwice
    · intro carried
      have carries := carried row stored here
      rw [exact.coins row stored, here] at carries
      exact carries
  noneCarries := by
    rintro address - notTwice row stored here carries
    rw [exact.coins row stored, here] at carries
    exact notTwice carries
  flagsOnce := exact.flagsOnce

/-- The flags of the empty database are exact. -/
theorem ReuseExact.ofEmpty : ReuseExact Database.empty where
  coins := by
    intro row stored
    cases stored
  addresses := by
    intro address stored
    cases stored
  flagsOnce := by
    intro row stored
    cases stored
  placed := by
    intro row stored
    cases stored

namespace ReuseExact

variable {db db' : Database}

/-- Coins rewritten within their addresses and flags. -/
theorem of_rewritten (exact : ReuseExact db) {f : UtxoRow → UtxoRow}
    (sameCoins : db'.utxos.rows = db.utxos.rows.map f)
    (sameAddresses : db'.addresses = db.addresses)
    (sameAddress : ∀ row, (f row).addressId = row.addressId)
    (sameTx : ∀ row, (f row).txid = row.txid)
    (sameDescriptor : ∀ row, (f row).descriptorId = row.descriptorId)
    (sameFlags : ∀ row, (f row).hygieneFlags = row.hygieneFlags) : ReuseExact db' where
  coins := by
    rw [sameCoins]
    apply exact.coins.map sameAddress sameTx
    intro row
    rw [UtxoRow.CarriesReuse, sameFlags, UtxoRow.CarriesReuse]
  addresses := by
    rw [sameAddresses]
    intro address stored
    rw [Database.PaidTwice, sameCoins, shared_map sameAddress sameTx]
    exact exact.addresses address stored
  flagsOnce := by
    rw [sameCoins, List.forall_mem_map]
    intro row stored
    rw [sameFlags]
    exact exact.flagsOnce row stored
  placed := by
    rw [sameCoins, List.forall_mem_map]
    intro row stored
    rw [sameAddress, sameDescriptor, AddressRowOf, sameAddresses]
    exact exact.placed row stored

/-- The law is about the coin and the address table. -/
theorem of_tables (exact : ReuseExact db) (sameCoins : db'.utxos = db.utxos)
    (sameAddresses : db'.addresses = db.addresses) : ReuseExact db' :=
  exact.of_rewritten (f := id) (by rw [sameCoins, List.map_id]) sameAddresses (fun _ => rfl)
    (fun _ => rfl) (fun _ => rfl) fun _ => rfl

/-- Address rows with other labels, and new ones that are not marked. -/
theorem of_addresses (exact : ReuseExact db) (sameCoins : db'.utxos = db.utxos)
    (origin : ∀ address ∈ db'.addresses.rows,
      (∃ old ∈ db.addresses.rows, old.id = address.id ∧ old.isReused = address.isReused) ∨
        (address.isReused = false ∧ db.addresses.get? address.id = none))
    (kept : ∀ old ∈ db.addresses.rows, ∃ address ∈ db'.addresses.rows,
      address.id = old.id ∧ address.descriptorId = old.descriptorId) : ReuseExact db' where
  coins := by
    rw [sameCoins]
    exact exact.coins
  addresses := by
    intro address stored
    rw [Database.PaidTwice, sameCoins]
    rcases origin address stored with ⟨old, oldStored, sameId, sameMark⟩ | ⟨unmarked, new⟩
    · rw [← sameMark, ← sameId]
      exact exact.addresses old oldStored
    · rw [unmarked]
      refine iff_of_false Bool.false_ne_true ?_
      rintro ⟨row, coin, -, -, here, -⟩
      obtain ⟨old, oldStored, sameId, -⟩ := exact.placed row coin
      have found : db.addresses.get? old.id = some old := Table.get?_of_mem oldStored
      rw [sameId, here, new] at found
      cases found
  flagsOnce := by
    rw [sameCoins]
    exact exact.flagsOnce
  placed := by
    rw [sameCoins]
    intro row coin
    obtain ⟨old, oldStored, sameId, sameDescriptor⟩ := exact.placed row coin
    obtain ⟨address, stored, sameId', sameDescriptor'⟩ := kept old oldStored
    exact ⟨address, stored, sameId'.trans sameId, sameDescriptor'.trans sameDescriptor⟩

end ReuseExact

/-! ### A new coin -/

section NewCoin

variable {db : Database} {row : UtxoRow} {context : HygieneContext}

theorem flagWhen_sublist (holds : Bool) (flag : HygieneFlag) :
    (if holds then [flag] else []).Sublist [flag] := by
  split
  · exact List.Sublist.refl _
  · exact List.nil_sublist _

/-- The flags come in one order, each at most once. -/
theorem computeFlags_sublist (db : Database) (row : UtxoRow) (context : HygieneContext) :
    (computeFlags db row context).Sublist
      ([.addressReused] ++ [.dust] ++ ([.roundNumber] ++ [.suspectedConsolidation])) := by
  rw [computeFlags]
  refine ((flagWhen_sublist _ _).append (flagWhen_sublist _ _)).append ?_
  cases context.decodedTx with
  | none => exact List.nil_sublist _
  | some tx => exact (flagWhen_sublist _ _).append (flagWhen_sublist _ _)

/-- No flag is computed twice. -/
theorem nodup_computeFlags (db : Database) (row : UtxoRow) (context : HygieneContext) :
    (computeFlags db row context).Nodup :=
  (computeFlags_sublist db row context).nodup (by decide)

/-- A coin is flagged exactly when its address is reused. -/
theorem addressReused_mem_computeFlags :
    .addressReused ∈ computeFlags db row context ↔ isAddressReused db row = true := by
  rw [computeFlags]
  cases isAddressReused db row with
  | true => simp
  | false =>
      cases isDust row context <;> cases context.decodedTx with
      | none => simp
      | some tx =>
          cases isRoundNumber row.valueSats <;> cases isSuspectedConsolidation db tx <;> simp

/-- What the hygiene step makes of a coin row, from the flags of the new coin. -/
def UtxoRow.reflagged (newcomer : UtxoRow) (flags : List HygieneFlag) (row : UtxoRow) : UtxoRow :=
  if row.outpoint = newcomer.outpoint then { row with hygieneFlags := flags }
  else if .addressReused ∈ flags ∧ row.addressId = newcomer.addressId then row.flagReused
  else row

/-- The coin rows after the flags of one are computed and its reuse is propagated. -/
theorem rows_applyFlagsAndPropagateReuse (db : Database) (row : UtxoRow)
    (context : HygieneContext) :
    (applyFlagsAndPropagateReuse db row context).utxos.rows =
      db.utxos.rows.map (row.reflagged (computeFlags db row context)) := by
  rw [applyFlagsAndPropagateReuse]
  by_cases reused : .addressReused ∈ computeFlags db row context
  · rw [if_pos reused]
    simp only [propagateAddressReuse, Table.rows_updateAll, Table.update, List.map_map]
    apply List.map_congr_left
    intro other _
    simp only [Function.comp_apply, UtxoRow.reflagged]
    by_cases here : other.outpoint = row.outpoint
    · have hit : Keyed.key other = row.outpoint := here
      simp [here, hit]
    · have missed : ¬Keyed.key other = row.outpoint := here
      simp [here, missed, reused]
  · rw [if_neg reused]
    simp only [Table.rows_updateAll, Table.update]
    apply List.map_congr_left
    intro other _
    simp only [UtxoRow.reflagged]
    by_cases here : other.outpoint = row.outpoint
    · have hit : Keyed.key other = row.outpoint := here
      rw [if_pos hit, if_pos here]
    · have missed : ¬Keyed.key other = row.outpoint := here
      simp [here, missed, reused]

/-- The address rows after the reuse of a coin is propagated. -/
theorem addresses_applyFlagsAndPropagateReuse (db : Database) (row : UtxoRow)
    (context : HygieneContext) :
    (applyFlagsAndPropagateReuse db row context).addresses.rows =
      db.addresses.rows.map fun address =>
        if isAddressReused db row = true ∧ address.id = row.addressId then
          { address with isReused := true }
        else address := by
  rw [applyFlagsAndPropagateReuse]
  by_cases reused : .addressReused ∈ computeFlags db row context
  · simp only [if_pos reused, propagateAddressReuse, Table.update, Table.rows_updateAll,
      addressReused_mem_computeFlags.mp reused, true_and]
    rfl
  · rw [if_neg reused]
    simp [mt addressReused_mem_computeFlags.mpr reused]

/-- For the newest coin the query finds whether its address had a coin of another transaction. -/
theorem isAddressReused_iff {old : List UtxoRow} (rows : db.utxos.rows = old ++ [row]) :
    isAddressReused db row = true ↔ Meets UtxoRow.addressId UtxoRow.txid old row := by
  rw [isAddressReused, Table.select, rows, Bool.not_eq_true', List.isEmpty_eq_false_iff_exists_mem]
  simp only [List.mem_filter, decide_eq_true_eq]
  constructor
  · rintro ⟨other, member, here, apart⟩
    rcases List.mem_append.mp member with earlier | newest
    · exact ⟨other, earlier, here, apart⟩
    · rw [List.mem_singleton.mp newest] at apart
      exact absurd rfl apart
  · rintro ⟨other, member, here, apart⟩
    exact ⟨other, List.mem_append_left _ member, here, apart⟩

theorem carriesReuse_flagReused (row : UtxoRow) : row.flagReused.CarriesReuse := by
  rw [UtxoRow.flagReused]
  split
  · assumption
  · exact List.mem_append_right _ (List.mem_singleton.mpr rfl)

/-- Flagging reuse adds the flag once. -/
theorem nodup_flagReused {row : UtxoRow} (once : row.hygieneFlags.Nodup) :
    row.flagReused.hygieneFlags.Nodup := by
  rw [UtxoRow.flagReused]
  split
  · exact once
  · rename_i absent
    exact List.nodup_append.mpr ⟨once, List.nodup_singleton _, by
      rintro flag member _ single rfl
      rw [List.mem_singleton.mp single] at member
      exact absent member⟩

section Reflagged

variable (newcomer : UtxoRow) (flags : List HygieneFlag) (row : UtxoRow)

/-- The step touches nothing but flags. -/
theorem reflagged_core : (newcomer.reflagged flags row).core = row.core := by
  rw [UtxoRow.reflagged]
  split
  · rfl
  · split
    · exact row.core_flagReused
    · rfl

theorem reflagged_addressId : (newcomer.reflagged flags row).addressId = row.addressId := by
  have same := congrArg UtxoRow.addressId (reflagged_core newcomer flags row)
  exact same

theorem reflagged_txid : (newcomer.reflagged flags row).txid = row.txid := by
  have same := congrArg UtxoRow.txid (reflagged_core newcomer flags row)
  exact same

theorem reflagged_descriptorId : (newcomer.reflagged flags row).descriptorId = row.descriptorId := by
  have same := congrArg UtxoRow.descriptorId (reflagged_core newcomer flags row)
  exact same

end Reflagged

variable (row) in
/-- A coin that is recorded with its hygiene step keeps the flags exact. -/
theorem ReuseExact.recorded (exact : ReuseExact db)
    (fresh : db.utxos.get? row.outpoint = none)
    (placed : AddressRowOf db row.addressId row.descriptorId) (context : HygieneContext) :
    ReuseExact (applyFlagsAndPropagateReuse (db.withUtxos (db.utxos.insert row)) row context) := by
  have inserted : (db.withUtxos (db.utxos.insert row)).utxos.rows = db.utxos.rows ++ [row] :=
    Table.rows_insert_of_fresh fresh
  have meets := isAddressReused_iff inserted
  have elsewhere : ∀ other ∈ db.utxos.rows, other.outpoint ≠ row.outpoint := by
    intro other stored same
    have found : db.utxos.get? other.outpoint = some other := Table.get?_of_mem stored
    rw [same, fresh] at found
    cases found
  have coins := rows_applyFlagsAndPropagateReuse (db.withUtxos (db.utxos.insert row)) row context
  have addresses :=
    addresses_applyFlagsAndPropagateReuse (db.withUtxos (db.utxos.insert row)) row context
  generalize flagsEq : computeFlags (db.withUtxos (db.utxos.insert row)) row context = flags at coins
  have reused : .addressReused ∈ flags ↔
      Meets UtxoRow.addressId UtxoRow.txid db.utxos.rows row := by
    rw [← flagsEq, addressReused_mem_computeFlags, meets]
  have once : flags.Nodup := by
    rw [← flagsEq]
    exact nodup_computeFlags _ row context
  generalize applyFlagsAndPropagateReuse (db.withUtxos (db.utxos.insert row)) row context = db'
    at coins addresses
  rw [inserted] at coins
  constructor
  case coins =>
    rw [coins]
    apply exact.coins.concat_map (reflagged_addressId row flags) (reflagged_txid row flags)
    · rw [UtxoRow.CarriesReuse, UtxoRow.reflagged, if_pos rfl, reused]
    · intro other stored
      rw [← reused, UtxoRow.reflagged, if_neg (elsewhere other stored)]
      split
      · rename_i sibling
        exact iff_of_true (carriesReuse_flagReused other) (.inr ⟨sibling.2.symm, sibling.1⟩)
      · rename_i apart
        rw [or_iff_left]
        rintro ⟨here, flagged⟩
        exact apart ⟨flagged, here.symm⟩
  case addresses =>
    rw [addresses, List.forall_mem_map]
    intro address stored
    rw [Database.PaidTwice, coins,
      shared_map (reflagged_addressId row flags) (reflagged_txid row flags), shared_concat, ← meets]
    have before := exact.addresses address stored
    rw [Database.PaidTwice] at before
    split
    · rename_i marked
      exact iff_of_true rfl (.inr ⟨marked.2.symm, marked.1⟩)
    · rename_i unmarked
      rw [before, or_iff_left]
      rintro ⟨here, met⟩
      exact unmarked ⟨met, here.symm⟩
  case flagsOnce =>
    rw [coins, List.forall_mem_map]
    intro other member
    rw [UtxoRow.reflagged]
    split
    · exact once
    · rename_i apart
      have stored : other ∈ db.utxos.rows := by
        rcases List.mem_append.mp member with earlier | newest
        · exact earlier
        · rw [List.mem_singleton.mp newest] at apart
          exact absurd rfl apart
      split
      · exact nodup_flagReused (exact.flagsOnce other stored)
      · exact exact.flagsOnce other stored
  case placed =>
    rw [coins, List.forall_mem_map]
    intro other member
    rw [reflagged_addressId, reflagged_descriptorId, AddressRowOf, addresses]
    have before : AddressRowOf db other.addressId other.descriptorId := by
      rcases List.mem_append.mp member with earlier | newest
      · exact exact.placed other earlier
      · rw [List.mem_singleton.mp newest]
        exact placed
    obtain ⟨address, stored, sameId, sameDescriptor⟩ := before
    refine ⟨_, List.mem_map_of_mem stored, ?_, ?_⟩
    · rw [← sameId]
      split <;> rfl
    · rw [← sameDescriptor]
      split <;> rfl

end NewCoin

/-! ### The operations -/

namespace ReuseExact

variable {db db' : Database}

/-- A rewrite of one coin within its address and flags. -/
theorem updated (exact : ReuseExact db) (outpoint : Outpoint) {f : UtxoRow → UtxoRow}
    (keeps : ∀ row, (f row).outpoint = row.outpoint)
    (sameAddress : ∀ row, (f row).addressId = row.addressId)
    (sameDescriptor : ∀ row, (f row).descriptorId = row.descriptorId)
    (sameFlags : ∀ row, (f row).hygieneFlags = row.hygieneFlags) :
    ReuseExact (db.withUtxos (db.utxos.update outpoint f keeps)) := by
  have rows : (db.withUtxos (db.utxos.update outpoint f keeps)).utxos.rows =
      db.utxos.rows.map fun row => if Keyed.key row = outpoint then f row else row := rfl
  apply exact.of_rewritten rows rfl
  · intro row
    split
    · exact sameAddress row
    · rfl
  · intro row
    split
    · exact congrArg Outpoint.txid (keeps row)
    · rfl
  · intro row
    split
    · exact sameDescriptor row
    · rfl
  · intro row
    split
    · exact sameFlags row
    · rfl

/-- Freezing keeps the flags exact. -/
theorem freeze (exact : ReuseExact db) (outpoint : Outpoint) (frozen : Bool) :
    ReuseExact (UtxoRepo.freeze db outpoint frozen) :=
  exact.updated outpoint (f := fun row => { row with isFrozen := frozen }) (fun _ => rfl)
    (fun _ => rfl) (fun _ => rfl) fun _ => rfl

/-- Spending keeps the flags exact. -/
theorem markInputsSpent (exact : ReuseExact db) (tx : DecodedTx) :
    ReuseExact (TallyKeep.markInputsSpent db tx).db := by
  rw [markInputsSpent_db]
  have rows : (db.withUtxos (db.utxos.updateAll tx.markRow tx.markRow_outpoint)).utxos.rows =
      db.utxos.rows.map tx.markRow := rfl
  apply exact.of_rewritten rows rfl
  · intro row
    rw [DecodedTx.markRow]
    split
    · exact row.markSpent_addressId tx.txid
    · rfl
  · intro row
    exact congrArg Outpoint.txid (tx.markRow_outpoint row)
  · intro row
    rw [DecodedTx.markRow]
    split
    · exact row.markSpent_descriptorId tx.txid
    · rfl
  · intro row
    rw [DecodedTx.markRow, UtxoRow.markSpent]
    split
    · split <;> rfl
    · rfl

end ReuseExact

section Outputs

variable {db : Database} {tx : DecodedTx} {ctx : TxContext}

/-- Recording an output keeps the flags exact. -/
theorem ReuseExact.recordOutput (exact : ReuseExact db) {ids : List Uuid}
    {found : DiscoveredOutput} (placed : AddressRowOf db found.addressId found.descriptorId) :
    ReuseExact (TallyKeep.recordOutput tx ctx (db, ids) found).1 := by
  rw [TallyKeep.recordOutput]
  split
  · rename_i unknown
    exact exact.recorded (UtxoRow.discovered (UtxoRepo.freshId db) found.descriptorId
      found.addressId ⟨tx.txid, found.vout⟩ found.valueSats ctx.confirmationHeight) unknown placed _
  · apply exact.updated ⟨tx.txid, found.vout⟩
      (fun row => row.refreshHeight_outpoint ctx.confirmationHeight)
    · exact fun row => row.refreshHeight_addressId ctx.confirmationHeight
    · exact fun row => row.refreshHeight_descriptorId ctx.confirmationHeight
    · intro row
      rw [UtxoRow.refreshHeight]
      split <;> rfl

/-- The loop over found outputs keeps the flags exact. -/
theorem ReuseExact.recordOutputs {acc : Database × List Uuid} (exact : ReuseExact acc.1)
    {discovered : List DiscoveredOutput}
    (placed : ∀ found ∈ discovered, AddressRowOf acc.1 found.addressId found.descriptorId) :
    ReuseExact (discovered.foldl (TallyKeep.recordOutput tx ctx) acc).1 := by
  induction discovered generalizing acc with
  | nil => exact exact
  | cons found rest inductionHypothesis =>
      apply inductionHypothesis (exact.recordOutput (placed found List.mem_cons_self))
      intro other member
      exact (placed other (List.mem_cons_of_mem found member)).congr
        (recordOutput_sameButCoins tx ctx acc found).addresses

variable (tx ctx) in

/-- The recorded stage keeps the flags exact. -/
theorem ReuseExact.staged (exact : ReuseExact db) :
    ReuseExact (recordedStage db tx ctx).1 := by
  have marked := exact.markInputsSpent tx
  rw [recordedStage, TallyKeep.recordOutputs, upsert_eq,
    discoverOutputs_markInputsSpent]
  apply ReuseExact.recordOutputs
  · exact marked.of_tables rfl rfl
  · intro found member
    have watched := (discoverOutputs_perm db ctx.rowOrder tx).mem_iff.mp member
    obtain ⟨address, stored, -, -, -, sameId, sameDescriptor⟩ := mem_watchedOutputs.mp watched
    refine ⟨address, ?_, sameId.symm, sameDescriptor.symm⟩
    simp only [markInputsSpent_db]
    exact stored

/-- A processed transaction keeps the flags exact. -/
theorem ReuseExact.processed (exact : ReuseExact db) {db' : Database} {result : TxProcessingResult}
    (run : processDecodedTransaction db tx ctx = .ok (db', result)) : ReuseExact db' := by
  have marked := exact.markInputsSpent tx
  by_cases touched : Touches db tx
  · rw [processDecodedTransaction_of_touches ctx touched] at run
    cases created : createEntries (recordedStage db tx ctx).1 tx ctx
        (discoverOutputs (TallyKeep.markInputsSpent db tx).db ctx.rowOrder tx)
        (stageDirection db tx ctx) (ctx.setOrder.enumerate (affectedHoldings db tx)) with
    | error error =>
        rw [created] at run
        cases run
    | ok booked =>
        rw [created] at run
        cases run
        have tables := createEntries_tables created
        have stage := exact.staged tx ctx
        exact stage.of_tables (by rw [tables]) (by rw [tables])
  · rw [processDecodedTransaction_of_not_touches ctx touched] at run
    cases run
    exact marked

/-- So does what the listener does with it. -/
theorem ReuseExact.handled (exact : ReuseExact db) {db' : Database} {events : TxEvents}
    (run : handleTxDb db tx ctx = .ok (db', events)) : ReuseExact db' := by
  cases processed : processDecodedTransaction db tx ctx with
  | error error =>
      rw [handleTxDb, processed] at run
      cases run
  | ok out =>
      have same := ((handleTxDb_ok_iff_steps processed).mp run).2.2.2
      cases same
      have tables := afterSweep_tables out.1 out.2 tx ctx.now
      exact (exact.processed processed).of_tables (by rw [tables]) (by rw [tables])

end Outputs

section Scan

variable {db db' : Database} {node : ScanNode} {descriptor : DescriptorRow} {unspent : ScanUtxo}
  {address : AddressRow}

/-- The address of a scanned coin is stored, under the scanned descriptor. -/
theorem addressOfUnspent_mem {isChange : Bool}
    (matched : addressOfUnspent db descriptor isChange unspent = some address) :
    address ∈ db.addresses.rows ∧ address.descriptorId = descriptor.id := by
  rw [addressOfUnspent, Option.bind_eq_some_iff] at matched
  obtain ⟨index, -, found⟩ := matched
  have selected := List.mem_of_find?_eq_some found
  rw [Table.mem_select] at selected
  exact ⟨selected.1, of_decide_eq_true selected.2⟩

/-- A coin that a scan records keeps the flags exact. -/
theorem ReuseExact.scannedCoin (exact : ReuseExact db)
    (unknown : db.utxos.get? unspent.outpoint = none)
    (placed : AddressRowOf db address.id descriptor.id)
    (run : recordUnspent node descriptor address unspent db = .ok db') : ReuseExact db' := by
  rw [recordUnspent_eq] at run
  have tables := (maybeCreateLedgerEntry_spec run).1
  have staged : ReuseExact (coinStage node descriptor address unspent db) := by
    have sameTables := upsert_eq db unspent.txid none unspent.confirmationHeight none
    have sameCoins : (OnchainRepo.upsert db unspent.txid none unspent.confirmationHeight
        none).utxos = db.utxos := by rw [sameTables]
    have base : ReuseExact (OnchainRepo.upsert db unspent.txid none unspent.confirmationHeight
        none) := exact.of_tables sameCoins (by rw [sameTables])
    have recorded := base.recorded (UtxoRow.discovered (UtxoRepo.freshId db) descriptor.id address.id
      ⟨unspent.txid, unspent.vout⟩ unspent.amountSats unspent.confirmationHeight)
      (by rw [sameCoins]; exact unknown)
      (by rw [sameTables]; exact placed) ⟨none, descriptor.addressType, node.feeRate⟩
    rw [sameCoins] at recorded
    simp only [coinStage]
    rw [upsertUnspent_of_unknown unknown, upsert_withUtxos]
    exact recorded
  exact staged.of_tables (by rw [tables]) (by rw [tables])

/-- A scan keeps the flags exact. -/
theorem ReuseExact.scanned (exact : ReuseExact db) {report : ScanReport}
    (run : initialScan node db descriptor = .ok (db', report)) : ReuseExact db' := by
  have keeps : ReportKeeps (fun current => ReuseExact current ∧
      current.addresses.rows.map AddressRow.core = db.addresses.rows.map AddressRow.core)
      db node descriptor := by
    intro current address unspent next both unknown reported recorded
    obtain ⟨currentExact, sameAddresses⟩ := both
    obtain ⟨branch, -, result, -, -, matched⟩ := reported
    obtain ⟨stored, sameDescriptor⟩ := addressOfUnspent_mem matched
    have placed : AddressRowOf db address.id descriptor.id := ⟨address, stored, rfl, sameDescriptor⟩
    refine ⟨currentExact.scannedCoin unknown (placed.congr sameAddresses) recorded, ?_⟩
    rw [recordUnspent_eq] at recorded
    have tables := (maybeCreateLedgerEntry_spec recorded).1
    rw [tables, ← sameAddresses]
    exact (coinStage_tables unknown).2.1
  obtain ⟨current, height, ⟨currentExact, -⟩, rfl⟩ := initialScan_reports keeps run ⟨exact, rfl⟩
  exact currentExact.of_tables rfl rfl

end Scan

/-! ### Addresses come and go -/

/-- After a registration an address is an old one, or new and not reused. -/
theorem of_mem_registerAddresses {addresses : Table AddressRow} {descriptorId : Uuid}
    {isChange : Bool} {derived : List String} {address : AddressRow}
    (stored : address ∈ (registerAddresses addresses descriptorId isChange derived).rows) :
    address ∈ addresses.rows ∨
      (address.isReused = false ∧ addresses.get? address.id = none) := by
  rw [registerAddresses] at stored
  generalize derived.zipIdx = numbered at stored
  induction numbered generalizing addresses with
  | nil => exact .inl stored
  | cons head rest inductionHypothesis =>
      have fresh := Table.get?_freshKey addresses
      have split := inductionHypothesis stored
      rw [Table.rows_insert_of_fresh fresh, Table.get?_insert_of_fresh fresh] at split
      rcases split with member | ⟨unmarked, absent⟩
      · rcases List.mem_append.mp member with old | new
        · exact .inl old
        · rw [List.mem_singleton.mp new]
          exact .inr ⟨rfl, fresh⟩
      · split at absent
        · cases absent
        · exact .inr ⟨unmarked, absent⟩

section Addresses

variable {db db' : Database}

/-- Registering a descriptor keeps the flags exact. -/
theorem ReuseExact.registered (exact : ReuseExact db) {holdingId : Uuid} {spec : DescriptorSpec}
    (run : registerDescriptor db holdingId spec = .ok db') : ReuseExact db' := by
  have sameCoins := (registerDescriptor_kept run).2
  simp only [registerDescriptor] at run
  split at run
  · cases run
  · split at run
    · cases run
    · cases run
      refine exact.of_addresses (by rfl) ?_ ?_
      · intro address stored
        have origin : address ∈ db.addresses.rows ∨
            (address.isReused = false ∧ db.addresses.get? address.id = none) := by
          simp only at stored
          split at stored
          · rcases of_mem_registerAddresses stored with external | ⟨unmarked, absent⟩
            · exact of_mem_registerAddresses external
            · refine .inr ⟨unmarked, ?_⟩
              rw [Table.get?_eq_none_iff] at absent ⊢
              intro known
              obtain ⟨old, oldStored, sameId⟩ := List.mem_map.mp known
              exact absent (List.mem_map.mpr
                ⟨old, mem_registerAddresses oldStored _ _ _, sameId⟩)
          · exact of_mem_registerAddresses stored
        rcases origin with old | new
        · exact .inl ⟨address, old, rfl, rfl⟩
        · exact .inr new
      · intro old stored
        refine ⟨old, ?_, rfl, rfl⟩
        simp only
        split
        · exact mem_registerAddresses (mem_registerAddresses stored _ _ _) _ _ _
        · exact mem_registerAddresses stored _ _ _

/-- Reserving an address for an invoice keeps the flags exact. -/
theorem ReuseExact.invoiced (exact : ReuseExact db) {order : InvoiceOrder}
    (run : createInvoice db order = .ok db') : ReuseExact db' := by
  rw [createInvoice, bind_ok_iff] at run
  obtain ⟨reserved, -, run⟩ := run
  rw [bind_ok_iff] at run
  obtain ⟨invoice, -, run⟩ := run
  cases run
  refine exact.of_addresses (by rfl) ?_ ?_
  · intro address stored
    obtain ⟨old, oldStored, rfl⟩ := List.mem_map.mp stored
    refine .inl ⟨old, oldStored, ?_, ?_⟩ <;> split <;> rfl
  · intro old stored
    refine ⟨_, List.mem_map_of_mem stored, ?_, ?_⟩ <;> split <;> rfl

/-- A deletion takes the coins of an address with the address, and leaves the others. -/
theorem ReuseExact.deleted (exact : ReuseExact db) (holdingId : Uuid) (policyIds : List Uuid) :
    ReuseExact (deletionResult db holdingId policyIds) := by
  have sameHolder : ∀ row ∈ db.utxos.rows, ∀ address ∈ db.addresses.rows,
      address.id = row.addressId → address.descriptorId = row.descriptorId := by
    intro row coin address stored here
    obtain ⟨other, otherStored, sameId, sameDescriptor⟩ := exact.placed row coin
    have same : address = other :=
      Table.eq_of_key_eq stored otherStored (here.trans sameId.symm)
    rw [same]
    exact sameDescriptor
  have coins : (deletionResult db holdingId policyIds).utxos.rows =
      db.utxos.rows.filter fun row => !db.heldBy holdingId row.descriptorId := rfl
  have addresses : (deletionResult db holdingId policyIds).addresses.rows =
      db.addresses.rows.filter fun address => !db.heldBy holdingId address.descriptorId := rfl
  constructor
  case coins =>
    rw [coins]
    apply exact.coins.filter
    intro row coin other otherCoin here kept
    obtain ⟨address, stored, sameId, sameDescriptor⟩ := exact.placed row coin
    rw [← sameHolder other otherCoin address stored (sameId.trans here.symm), sameDescriptor]
    exact kept
  case addresses =>
    intro address member
    rw [addresses] at member
    obtain ⟨stored, kept⟩ := List.mem_filter.mp member
    rw [Database.PaidTwice, coins, shared_filter]
    · exact exact.addresses address stored
    · intro row coin here
      rw [← sameHolder row coin address stored here.symm]
      exact kept
  case flagsOnce =>
    intro row member
    rw [coins] at member
    exact exact.flagsOnce row (List.mem_of_mem_filter member)
  case placed =>
    intro row member
    rw [coins] at member
    obtain ⟨coin, kept⟩ := List.mem_filter.mp member
    obtain ⟨address, stored, sameId, sameDescriptor⟩ := exact.placed row coin
    refine ⟨address, ?_, sameId, sameDescriptor⟩
    rw [addresses]
    refine List.mem_filter.mpr ⟨stored, ?_⟩
    rw [sameDescriptor]
    exact kept

end Addresses

/-! ### Every reachable state -/

variable {Psbt Tx : Type}

/-- One operation of the program, on whatever its environment answers, or a bare call of
    `process_decoded_transaction` that is committed. -/
inductive HygieneStep (bdk : Bdk Psbt Tx) : Database → Operation ⊕ Delivery → Database → Prop where
  | operation (db : Database) (operation : Operation) :
      HygieneStep bdk db (.inl operation) (step bdk db operation)
  | delivered {db db' : Database} {delivery : Delivery} (run : deliver db delivery = .ok db') :
      HygieneStep bdk db (.inr delivery) db'

/-- Every operation and every delivery keeps the flags exact. -/
theorem ReuseExact.of_step {bdk : Bdk Psbt Tx} (db : Database) (label : Operation ⊕ Delivery)
    (db' : Database) (exact : ReuseExact db) (taken : HygieneStep bdk db label db') :
    ReuseExact db' := by
  cases taken with
  | operation operation =>
      have effect := sessionEffect_of_step bdk db operation
      generalize step bdk db operation = db' at effect
      cases effect with
      | kept _ addresses utxos => exact exact.of_tables utxos addresses
      | registered run => exact exact.registered run
      | deleted holdingId policyIds => exact exact.deleted holdingId policyIds
      | scanned _ run => exact exact.scanned run
      | frozen outpoint frozen => exact exact.freeze outpoint frozen
      | invoiced run => exact exact.invoiced run
      | handled run => exact exact.handled run
  | delivered run =>
      rw [deliver, bind_ok_iff] at run
      obtain ⟨out, run, same⟩ := run
      cases same
      exact exact.processed run

/-- In every state that operations and processed transactions lead to, in any order and number, the
    reuse flags of addresses and coins are exact. -/
theorem reuseLaw_of_reachable {bdk : Bdk Psbt Tx} {db : Database}
    (reached : Reachable (· = Database.empty) (HygieneStep bdk) db) : ReuseLaw db := by
  have exact : ReuseExact db := by
    apply reached.invariant _ ReuseExact.of_step
    rintro start rfl
    exact ReuseExact.ofEmpty
  exact exact.law

/-- Operations alone are a run of the steps. -/
theorem reachable_of_operations (bdk : Bdk Psbt Tx) (operations : List Operation) :
    Reachable (· = Database.empty) (HygieneStep bdk)
      (operations.foldl (step bdk) Database.empty) := by
  have run : ∀ db : Database, Run (HygieneStep bdk) db (operations.map Sum.inl)
      (operations.foldl (step bdk) db) := by
    induction operations with
    | nil => exact fun db => .stop db
    | cons operation rest inductionHypothesis =>
        exact fun db => .cons (.operation db operation) (inductionHypothesis _)
  exact ⟨Database.empty, _, rfl, run Database.empty⟩

/-- The change of a transfer goes back to the address of the payment. -/
theorem reuseLaw_of_transfer :
    transferSeen.addresses.rows.map AddressRow.isReused = [true, false, false, false] ∧
      ReuseLaw transferSeen :=
  ⟨by decide +kernel,
    reuseLaw_of_reachable (reachable_of_operations sampleBdk transferOperations)⟩

end TallyKeep
