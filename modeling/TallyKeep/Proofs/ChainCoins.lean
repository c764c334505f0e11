/-
Module: TallyKeep.Proofs.ChainCoins
Layer: Proofs
Purpose: What marking, discovery and recording do to the coin table, up to surrogate ids and hygiene
  flags, and that everything else stays.
Trusted boundary: none
Main exports: UtxoRow.core, Database.coinAt, coinAt_markInputsSpent, watchedOutputs,
  discoverOutputs_perm, coinAt_foldl_recordOutput
-/
import TallyKeep.Services.ChainProcessing

namespace TallyKeep

open Relational

/-! ### Coins up to surrogate id and hygiene flags -/

/-- What a coin row says about money: the row without its surrogate id and its hygiene flags. -/
def UtxoRow.core (row : UtxoRow) : UtxoRow := { row with id := 0, hygieneFlags := [] }

namespace Database

/-- The coin at an outpoint, up to surrogate id and hygiene flags. -/
def coinAt (db : Database) (outpoint : Outpoint) : Option UtxoRow :=
  (db.utxos.get? outpoint).map UtxoRow.core

/-- There is no coin at an outpoint without a row of it. -/
theorem coinAt_eq_none_iff {db : Database} {outpoint : Outpoint} :
    db.coinAt outpoint = none ↔ db.utxos.get? outpoint = none := by
  simp [coinAt]

theorem coinAt_isSome {db : Database} {outpoint : Outpoint} :
    (db.coinAt outpoint).isSome = (db.utxos.get? outpoint).isSome := by
  simp [coinAt]

/-- A stored row is the coin of its outpoint. -/
theorem coinAt_of_mem {db : Database} {row : UtxoRow} (stored : row ∈ db.utxos.rows) :
    db.coinAt row.outpoint = some row.core := by
  have found : db.utxos.get? row.outpoint = some row := Table.get?_of_mem stored
  rw [coinAt, found, Option.map_some]

/-- The database with another coin table. -/
def withUtxos (db : Database) (utxos : Table UtxoRow) : Database := { db with utxos := utxos }

@[simp] theorem utxos_withUtxos (db : Database) (utxos : Table UtxoRow) :
    (db.withUtxos utxos).utxos = utxos := rfl

@[simp] theorem withUtxos_utxos (db : Database) : db.withUtxos db.utxos = db := rfl

@[simp] theorem holdingOf_withUtxos (db : Database) (utxos : Table UtxoRow) :
    (db.withUtxos utxos).holdingOf = db.holdingOf := rfl

/-- A row is found under its own outpoint. -/
theorem outpoint_of_get? {db : Database} {outpoint : Outpoint} {row : UtxoRow}
    (found : db.utxos.get? outpoint = some row) : row.outpoint = outpoint :=
  Table.key_of_get? found

end Database

namespace UtxoRow

@[simp] theorem core_outpoint (row : UtxoRow) : row.core.outpoint = row.outpoint := rfl

@[simp] theorem core_descriptorId (row : UtxoRow) : row.core.descriptorId = row.descriptorId := rfl

@[simp] theorem core_addressId (row : UtxoRow) : row.core.addressId = row.addressId := rfl

@[simp] theorem core_valueSats (row : UtxoRow) : row.core.valueSats = row.valueSats := rfl

@[simp] theorem core_isSpent (row : UtxoRow) : row.core.isSpent = row.isSpent := rfl

@[simp] theorem core_spentInTxid (row : UtxoRow) : row.core.spentInTxid = row.spentInTxid := rfl

@[simp] theorem core_confirmationHeight (row : UtxoRow) :
    row.core.confirmationHeight = row.confirmationHeight := rfl

@[simp] theorem core_flagReused (row : UtxoRow) : row.flagReused.core = row.core := by
  rw [flagReused]
  split <;> rfl

theorem core_markSpent (row : UtxoRow) (txid : Txid) :
    (row.markSpent txid).core = row.core.markSpent txid := by
  by_cases spent : row.isSpent <;> simp [markSpent, core, spent]

theorem core_refreshHeight (row : UtxoRow) (height : Option Nat) :
    (row.refreshHeight height).core = row.core.refreshHeight height := by
  by_cases stale : height.isSome ∧ row.confirmationHeight = none <;>
    simp [refreshHeight, core, stale]

@[simp] theorem markSpent_descriptorId (row : UtxoRow) (txid : Txid) :
    (row.markSpent txid).descriptorId = row.descriptorId := by
  rw [markSpent]
  split <;> rfl

@[simp] theorem markSpent_valueSats (row : UtxoRow) (txid : Txid) :
    (row.markSpent txid).valueSats = row.valueSats := by
  rw [markSpent]
  split <;> rfl

@[simp] theorem markSpent_addressId (row : UtxoRow) (txid : Txid) :
    (row.markSpent txid).addressId = row.addressId := by
  rw [markSpent]
  split <;> rfl

@[simp] theorem refreshHeight_addressId (row : UtxoRow) (height : Option Nat) :
    (row.refreshHeight height).addressId = row.addressId := by
  rw [refreshHeight]
  split <;> rfl

/-- Marking a row by one transaction twice is marking it once. -/
@[simp] theorem markSpent_markSpent (row : UtxoRow) (txid : Txid) :
    (row.markSpent txid).markSpent txid = row.markSpent txid := by
  by_cases spent : row.isSpent <;> simp [markSpent, spent]

/-- Marking keeps an earlier spender and records the new one otherwise. -/
theorem markSpent_spentInTxid (row : UtxoRow) (txid : Txid) :
    (row.markSpent txid).spentInTxid = row.spentInTxid.or (some txid) := by
  have consistent := row.spentConsistent
  rw [markSpent]
  cases spender : row.spentInTxid with
  | none => simp [consistent, spender]
  | some other => simp [consistent, spender]

@[simp] theorem refreshHeight_descriptorId (row : UtxoRow) (height : Option Nat) :
    (row.refreshHeight height).descriptorId = row.descriptorId := by
  rw [refreshHeight]
  split <;> rfl

@[simp] theorem refreshHeight_valueSats (row : UtxoRow) (height : Option Nat) :
    (row.refreshHeight height).valueSats = row.valueSats := by
  rw [refreshHeight]
  split <;> rfl

@[simp] theorem refreshHeight_spentInTxid (row : UtxoRow) (height : Option Nat) :
    (row.refreshHeight height).spentInTxid = row.spentInTxid := by
  rw [refreshHeight]
  split <;> rfl

/-- A refresh keeps the height that is there, and takes the new one where there is none. -/
theorem refreshHeight_confirmationHeight (row : UtxoRow) (height : Option Nat) :
    (row.refreshHeight height).confirmationHeight = row.confirmationHeight.or height := by
  rw [refreshHeight]
  cases already : row.confirmationHeight <;> cases height <;> simp [already]

end UtxoRow

/-! ### Marking -/

namespace DecodedTx

/-- What marking does to one coin row. -/
def markRow (tx : DecodedTx) (row : UtxoRow) : UtxoRow :=
  if row.outpoint ∈ tx.prevouts then row.markSpent tx.txid else row

@[simp] theorem markRow_outpoint (tx : DecodedTx) (row : UtxoRow) :
    (tx.markRow row).outpoint = row.outpoint := by
  rw [markRow]
  split
  · exact row.markSpent_outpoint tx.txid
  · rfl

theorem prevouts_nodup (tx : DecodedTx) : tx.prevouts.Nodup := tx.prevoutsNodup

/-- No transaction spends an output of its own. -/
theorem own_not_mem_prevouts (tx : DecodedTx) (vout : Nat) :
    (⟨tx.txid, vout⟩ : Outpoint) ∉ tx.prevouts :=
  fun consumed => tx.noSelfSpend _ consumed rfl

end DecodedTx

/-- The known coins a transaction consumes, in input order. -/
def consumedRows (db : Database) (tx : DecodedTx) : List UtxoRow :=
  tx.prevouts.filterMap db.utxos.get?

/-- Updating under a key that no row has changes nothing. -/
theorem update_of_get?_eq_none {t : Table UtxoRow} {outpoint : Outpoint} {f : UtxoRow → UtxoRow}
    {keeps : ∀ row, key (f row) = key row} (absent : t.get? outpoint = none) :
    t.update outpoint f keeps = t := by
  apply Table.ext
  rw [Table.update, Table.rows_updateAll]
  conv_rhs => rw [← List.map_id t.rows]
  refine List.map_congr_left fun row member => ?_
  have other : key row ≠ outpoint := by
    intro same
    rw [← same, Table.get?_of_mem member] at absent
    cases absent
  simp [other]

/-- Marking one output and then others is marking all of them. -/
private theorem updateAll_markSpent_cons (t : Table UtxoRow) (txid : Txid) (head : Outpoint)
    (rest : List Outpoint) :
    (t.update head (fun row => row.markSpent txid)
        (fun row => row.markSpent_outpoint txid)).rows.map
      (fun row => if row.outpoint ∈ rest then row.markSpent txid else row) =
    t.rows.map fun row => if row.outpoint ∈ head :: rest then row.markSpent txid else row := by
  rw [Table.update, Table.rows_updateAll, List.map_map]
  refine List.map_congr_left fun row _ => ?_
  change (fun row => if row.outpoint ∈ rest then row.markSpent txid else row)
    (if row.outpoint = head then row.markSpent txid else row) = _
  by_cases first : row.outpoint = head <;> by_cases later : row.outpoint ∈ rest <;>
    simp [first, later]

/-- The loop over the inputs, from any point of it on. -/
theorem foldl_markInputSpent (txid : Txid) (prevouts : List Outpoint) (nodup : prevouts.Nodup)
    (acc : SpentInputs) :
    let rows := prevouts.filterMap acc.db.utxos.get?
    let final := prevouts.foldl (markInputSpent txid) acc
    final.db = acc.db.withUtxos (acc.db.utxos.updateAll
        (fun row => if row.outpoint ∈ prevouts then row.markSpent txid else row)
        (by intro row; split; exacts [row.markSpent_outpoint txid, rfl])) ∧
      final.spentValueSats = acc.spentValueSats + (rows.map UtxoRow.valueSats).sum ∧
      final.spentUtxoIds = acc.spentUtxoIds ++ rows.map UtxoRow.id ∧
      final.descriptorIds = acc.descriptorIds ∪ (rows.map UtxoRow.descriptorId).toFinset ∧
      final.holdingIds = acc.holdingIds ∪
        (rows.filterMap fun row => acc.db.holdingOf row.descriptorId).toFinset := by
  induction prevouts generalizing acc with
  | nil =>
      have same : acc.db.utxos.updateAll
          (fun row => if row.outpoint ∈ ([] : List Outpoint) then row.markSpent txid else row)
          (by intro row; split; exacts [row.markSpent_outpoint txid, rfl]) = acc.db.utxos := by
        apply Table.ext
        simp
      simp only [same]
      simp
  | cons head rest inductionHypothesis =>
      obtain ⟨fresh, nodup⟩ := List.nodup_cons.mp nodup
      have later : ∀ outpoint ∈ rest,
          (markInputSpent txid acc head).db.utxos.get? outpoint =
            acc.db.utxos.get? outpoint := by
        intro outpoint member
        rw [markInputSpent]
        cases found : acc.db.utxos.get? head with
        | none => rfl
        | some row =>
            have other : outpoint ≠ head := by
              rintro rfl
              exact fresh member
            simp only [Table.get?_update, if_neg other]
      have rowsEq : rest.filterMap (markInputSpent txid acc head).db.utxos.get? =
          rest.filterMap acc.db.utxos.get? := List.filterMap_congr later
      obtain ⟨dbEq, valueEq, idsEq, descriptorsEq, holdingsEq⟩ :=
        inductionHypothesis nodup (markInputSpent txid acc head)
      rw [rowsEq] at valueEq idsEq descriptorsEq holdingsEq
      have headDb : (markInputSpent txid acc head).db =
          acc.db.withUtxos (acc.db.utxos.update head (fun row => row.markSpent txid)
            (fun row => row.markSpent_outpoint txid)) := by
        rw [markInputSpent]
        cases found : acc.db.utxos.get? head with
        | none =>
            rw [update_of_get?_eq_none found]
            rfl
        | some row => rfl
      have holdingOfEq : (markInputSpent txid acc head).db.holdingOf = acc.db.holdingOf := by
        rw [headDb]
        rfl
      rw [holdingOfEq] at holdingsEq
      simp only [List.foldl_cons]
      refine ⟨?_, ?_, ?_, ?_, ?_⟩
      · rw [dbEq, headDb]
        change acc.db.withUtxos _ = acc.db.withUtxos _
        congr 1
        apply Table.ext
        exact updateAll_markSpent_cons acc.db.utxos txid head rest
      all_goals
        first | rw [valueEq] | rw [idsEq] | rw [descriptorsEq] | rw [holdingsEq]
        cases found : acc.db.utxos.get? head with
        | none => simp [markInputSpent, found]
        | some row => ?_
      · simp [markInputSpent, found, Nat.add_assoc]
      · simp [markInputSpent, found]
      · simp [markInputSpent, found]
      · cases holder : acc.db.holdingOf row.descriptorId <;>
          simp [markInputSpent, found, holder]

section Marking

variable (db : Database) (tx : DecodedTx)

/-- The sweep over the inputs rewrites every coin row, and no other table. -/
theorem markInputsSpent_db :
    (markInputsSpent db tx).db =
      db.withUtxos (db.utxos.updateAll tx.markRow tx.markRow_outpoint) :=
  (foldl_markInputSpent tx.txid tx.prevouts tx.prevoutsNodup (.start db)).1

/-- The spent value is the one of the coins that are consumed. -/
theorem markInputsSpent_spentValueSats :
    (markInputsSpent db tx).spentValueSats =
      ((consumedRows db tx).map UtxoRow.valueSats).sum := by
  rw [markInputsSpent, (foldl_markInputSpent tx.txid tx.prevouts tx.prevoutsNodup _).2.1]
  exact Nat.zero_add _

/-- The spent ids are the ones of the coins that are consumed, in table order. -/
theorem markInputsSpent_spentUtxoIds :
    (markInputsSpent db tx).spentUtxoIds = (consumedRows db tx).map UtxoRow.id :=
  (foldl_markInputSpent tx.txid tx.prevouts tx.prevoutsNodup (.start db)).2.2.1

/-- The holdings of the inputs are the holders of the coins that are consumed. -/
theorem markInputsSpent_holdingIds :
    (markInputsSpent db tx).holdingIds =
      ((consumedRows db tx).filterMap fun row => db.holdingOf row.descriptorId).toFinset := by
  rw [markInputsSpent, (foldl_markInputSpent tx.txid tx.prevouts tx.prevoutsNodup _).2.2.2.2]
  exact Finset.empty_union _

/-- A coin row after the sweep over the inputs. -/
theorem get?_markInputsSpent (outpoint : Outpoint) :
    (markInputsSpent db tx).db.utxos.get? outpoint =
      (db.utxos.get? outpoint).map tx.markRow := by
  rw [markInputsSpent_db]
  exact Table.get?_updateAll db.utxos tx.markRow tx.markRow_outpoint outpoint

/-- Marking touches exactly the consumed coins. -/
theorem coinAt_markInputsSpent (outpoint : Outpoint) :
    (markInputsSpent db tx).db.coinAt outpoint =
      if outpoint ∈ tx.prevouts then (db.coinAt outpoint).map fun row => row.markSpent tx.txid
      else db.coinAt outpoint := by
  rw [Database.coinAt, get?_markInputsSpent, Database.coinAt]
  cases found : db.utxos.get? outpoint with
  | none => simp
  | some row =>
      have place := Database.outpoint_of_get? found
      by_cases consumed : outpoint ∈ tx.prevouts <;>
        simp [DecodedTx.markRow, place, consumed, UtxoRow.core_markSpent]

/-- A row is consumed when a prevout of the transaction names it. -/
theorem mem_consumedRows {row : UtxoRow} :
    row ∈ consumedRows db tx ↔ row ∈ db.utxos.rows ∧ row.outpoint ∈ tx.prevouts := by
  rw [consumedRows, List.mem_filterMap]
  constructor
  · rintro ⟨prevout, member, found⟩
    obtain ⟨stored, rfl⟩ := Table.get?_eq_some_iff.mp found
    exact ⟨stored, member⟩
  · rintro ⟨stored, member⟩
    exact ⟨row.outpoint, member, Table.get?_of_mem stored⟩

end Marking

/-! ### Discovery -/

/-- An address row without the one field that processing a transaction rewrites. -/
def AddressRow.core (row : AddressRow) : AddressRow := { row with isReused := false }

/-- Every output of the transaction that pays a watched address, in storage order. -/
def watchedOutputs (db : Database) (tx : DecodedTx) : List DiscoveredOutput :=
  db.addresses.rows.flatMap (discoverForRow db tx)

/-- A query may return its rows in any order, but what it finds is fixed. -/
theorem discoverOutputs_perm (db : Database) (order : RowOrder) (tx : DecodedTx) :
    (discoverOutputs db order tx).Perm (watchedOutputs db tx) := by
  have arranged := (order.perm (db.addresses.select fun row =>
    decide (row.address ∈ tx.payments.map Prod.fst))).flatMap_right (discoverForRow db tx)
  refine arranged.trans (List.Perm.of_eq ?_)
  rw [watchedOutputs, Table.select]
  induction db.addresses.rows with
  | nil => rfl
  | cons row rest inductionHypothesis =>
      by_cases paid : row.address ∈ tx.payments.map Prod.fst
      · rw [List.filter_cons_of_pos (by simpa using paid), List.flatMap_cons, List.flatMap_cons,
          inductionHypothesis]
      · have nothing : discoverForRow db tx row = [] := by
          have unpaid : tx.payments.filter (fun payment => decide (payment.1 = row.address)) = [] := by
            rw [List.filter_eq_nil_iff]
            intro payment member
            simp only [decide_eq_true_eq]
            rintro same
            exact paid (List.mem_map.mpr ⟨payment, member, same⟩)
          rw [discoverForRow]
          cases db.holdingOf row.descriptorId with
          | none => rfl
          | some holdingId => simp [unpaid]
        rw [List.filter_cons_of_neg (by simpa using paid), List.flatMap_cons, nothing,
          List.nil_append, inductionHypothesis]

/-- What is watched depends on the descriptors and on the address rows up to their reuse flag. -/
theorem watchedOutputs_congr {db db' : Database} (sameDescriptors : db'.descriptors = db.descriptors)
    (sameAddresses : db'.addresses.rows.map AddressRow.core = db.addresses.rows.map AddressRow.core)
    (tx : DecodedTx) : watchedOutputs db' tx = watchedOutputs db tx := by
  have throughCore : ∀ base : Database, base.descriptors = db.descriptors →
      watchedOutputs base tx =
        (base.addresses.rows.map AddressRow.core).flatMap (discoverForRow db tx) := by
    intro base same
    rw [watchedOutputs, List.flatMap_map]
    congr 1
    funext row
    simp only [discoverForRow, Database.holdingOf, same, AddressRow.core]
    cases db.descriptors.get? row.descriptorId <;> rfl
  rw [throughCore db' sameDescriptors, throughCore db rfl, sameAddresses]

/-- An output is watched when a stored address of a held descriptor is the one that it pays. -/
theorem mem_watchedOutputs {db : Database} {tx : DecodedTx} {found : DiscoveredOutput} :
    found ∈ watchedOutputs db tx ↔
      ∃ row ∈ db.addresses.rows, db.holdingOf row.descriptorId = some found.holdingId ∧
        (found.address, found.valueSats, found.vout) ∈ tx.payments ∧
        found.address = row.address ∧ found.addressId = row.id ∧
        found.descriptorId = row.descriptorId := by
  rw [watchedOutputs, List.mem_flatMap]
  constructor
  · rintro ⟨row, stored, member⟩
    refine ⟨row, stored, ?_⟩
    rw [discoverForRow] at member
    cases holder : db.holdingOf row.descriptorId with
    | none => simp [holder] at member
    | some holdingId =>
        simp only [holder, List.mem_map, List.mem_filter, decide_eq_true_eq] at member
        obtain ⟨⟨address, value, vout⟩, ⟨paid, same⟩, rfl⟩ := member
        simp only at same
        subst same
        exact ⟨rfl, paid, rfl, rfl, rfl⟩
  · rintro ⟨row, stored, holder, paid, sameAddress, sameId, sameDescriptor⟩
    refine ⟨row, stored, ?_⟩
    rw [discoverForRow, holder]
    simp only [List.mem_map, List.mem_filter, decide_eq_true_eq]
    refine ⟨_, ⟨paid, sameAddress⟩, ?_⟩
    cases found
    simp_all

/-- Payments are numbered apart, as the outputs are. -/
theorem payments_nodup (tx : DecodedTx) : (tx.payments.map fun payment => payment.2.2).Nodup := by
  have sublist : (tx.payments.map fun payment => payment.2.2).Sublist
      (tx.vout.map DecodedOutput.index) := by
    rw [DecodedTx.payments]
    induction tx.vout with
    | nil => simp
    | cons output rest inductionHypothesis =>
        rw [List.map_cons]
        cases paid : output.payment? with
        | none =>
            rw [List.filterMap_cons_none paid]
            exact inductionHypothesis.cons _
        | some payment =>
            rw [List.filterMap_cons_some paid, List.map_cons]
            have sameIndex : payment.2.2 = output.index := by
              simp only [DecodedOutput.payment?] at paid
              split at paid
              · split at paid
                · cases paid
                · cases paid
                  rfl
              · cases paid
            rw [sameIndex]
            exact inductionHypothesis.cons_cons _
  exact tx.indicesNodup.sublist sublist

/-- Found outputs at one index agree on address and value. -/
theorem payment_of_sameVout {db : Database} {tx : DecodedTx} {found found' : DiscoveredOutput}
    (watched : found ∈ watchedOutputs db tx) (watched' : found' ∈ watchedOutputs db tx)
    (sameVout : found.vout = found'.vout) :
    found.address = found'.address ∧ found.valueSats = found'.valueSats := by
  obtain ⟨-, -, -, paid, -⟩ := mem_watchedOutputs.mp watched
  obtain ⟨-, -, -, paid', -⟩ := mem_watchedOutputs.mp watched'
  have same := List.inj_on_of_nodup_map (payments_nodup tx) paid paid' sameVout
  simp only [Prod.mk.injEq] at same
  exact ⟨same.1, same.2.1⟩

/-! ### Recording -/

/-- The two databases differ at most in coins and in reuse flags of addresses. -/
structure SameButCoins (db db' : Database) : Prop where
  tables : db' = { db with utxos := db'.utxos, addresses := db'.addresses }
  addresses : db'.addresses.rows.map AddressRow.core = db.addresses.rows.map AddressRow.core

namespace SameButCoins

theorem refl (db : Database) : SameButCoins db db := ⟨rfl, rfl⟩

/-- Coin writes after coin writes are coin writes. -/
theorem trans {db db' db'' : Database} (first : SameButCoins db db')
    (second : SameButCoins db' db'') : SameButCoins db db'' := by
  refine ⟨?_, second.addresses.trans first.addresses⟩
  rw [second.tables, first.tables]

theorem withUtxos (db : Database) (utxos : Table UtxoRow) : SameButCoins db (db.withUtxos utxos) :=
  ⟨rfl, rfl⟩

end SameButCoins

/-- A reuse propagation writes coins only. -/
theorem propagateAddressReuse_sameButCoins (db : Database) (utxo : UtxoRow) :
    SameButCoins db (propagateAddressReuse db utxo) := by
  refine ⟨rfl, ?_⟩
  rw [propagateAddressReuse, Table.update, Table.rows_updateAll, List.map_map]
  refine List.map_congr_left fun row _ => ?_
  simp only [Function.comp_apply]
  split <;> rfl

/-- A reuse propagation keeps the core of every coin. -/
theorem coinAt_propagateAddressReuse (db : Database) (utxo : UtxoRow) (outpoint : Outpoint) :
    (propagateAddressReuse db utxo).coinAt outpoint = db.coinAt outpoint := by
  simp only [Database.coinAt, propagateAddressReuse, Table.get?_updateAll, Option.map_map]
  congr 1
  funext row
  simp only [Function.comp_apply]
  split
  · exact row.core_flagReused
  · rfl

/-- The flags of a coin are written on coins only. -/
theorem applyFlagsAndPropagateReuse_sameButCoins (db : Database) (utxo : UtxoRow)
    (context : HygieneContext) :
    SameButCoins db (applyFlagsAndPropagateReuse db utxo context) := by
  rw [applyFlagsAndPropagateReuse]
  split
  · exact (SameButCoins.withUtxos db _).trans (propagateAddressReuse_sameButCoins _ _)
  · exact SameButCoins.withUtxos db _

/-- Hygiene flags are no part of what a coin says about money. -/
theorem coinAt_applyFlagsAndPropagateReuse (db : Database) (utxo : UtxoRow)
    (context : HygieneContext) (outpoint : Outpoint) :
    (applyFlagsAndPropagateReuse db utxo context).coinAt outpoint = db.coinAt outpoint := by
  have flagged : ∀ flags : List HygieneFlag,
      (db.withUtxos (db.utxos.update utxo.outpoint
        fun row => { row with hygieneFlags := flags })).coinAt outpoint = db.coinAt outpoint := by
    intro flags
    rw [Database.coinAt, Database.utxos_withUtxos, Table.get?_update]
    split
    · rename_i same
      rw [same, Option.map_map]
      rfl
    · rfl
  rw [applyFlagsAndPropagateReuse]
  split
  · rw [coinAt_propagateAddressReuse]
    exact flagged _
  · exact flagged _

namespace DiscoveredOutput

/-- The coin a found output stands for, as it is first recorded. -/
def coin (found : DiscoveredOutput) (txid : Txid) (confirmationHeight : Option Nat) : UtxoRow :=
  UtxoRow.discovered 0 found.descriptorId found.addressId ⟨txid, found.vout⟩ found.valueSats
    confirmationHeight

/-- The coin after the found output was handled, from the coin before. -/
def recorded (found : DiscoveredOutput) (txid : Txid) (confirmationHeight : Option Nat) :
    Option UtxoRow → UtxoRow
  | none => found.coin txid confirmationHeight
  | some row => row.refreshHeight confirmationHeight

/-- A second found output at the same index changes nothing any more. -/
theorem recorded_recorded (found later : DiscoveredOutput) (txid : Txid)
    (confirmationHeight : Option Nat) (before : Option UtxoRow) :
    later.recorded txid confirmationHeight (some (found.recorded txid confirmationHeight before)) =
      found.recorded txid confirmationHeight before := by
  cases before with
  | none =>
      cases confirmationHeight <;> simp [recorded, coin, UtxoRow.discovered, UtxoRow.refreshHeight]
  | some row =>
      by_cases stale : confirmationHeight.isSome ∧ row.confirmationHeight = none
      · have fresh : confirmationHeight ≠ none := Option.isSome_iff_ne_none.mp stale.1
        simp [recorded, UtxoRow.refreshHeight, stale, fresh]
      · simp [recorded, UtxoRow.refreshHeight, stale]

end DiscoveredOutput

/-- An output is recorded on coins only. -/
theorem recordOutput_sameButCoins (tx : DecodedTx) (ctx : TxContext) (acc : Database × List Uuid)
    (found : DiscoveredOutput) : SameButCoins acc.1 (recordOutput tx ctx acc found).1 := by
  rw [recordOutput]
  split
  · exact (SameButCoins.withUtxos acc.1 _).trans (applyFlagsAndPropagateReuse_sameButCoins _ _ _)
  · exact SameButCoins.withUtxos acc.1 _

/-- The coin of every outpoint after an output is recorded. -/
theorem coinAt_recordOutput (tx : DecodedTx) (ctx : TxContext) (acc : Database × List Uuid)
    (found : DiscoveredOutput) (outpoint : Outpoint) :
    (recordOutput tx ctx acc found).1.coinAt outpoint =
      if (⟨tx.txid, found.vout⟩ : Outpoint) = outpoint then
        some (found.recorded tx.txid ctx.confirmationHeight (acc.1.coinAt outpoint))
      else acc.1.coinAt outpoint := by
  rw [recordOutput]
  cases known : acc.1.utxos.get? ⟨tx.txid, found.vout⟩ with
  | none =>
      simp only [coinAt_applyFlagsAndPropagateReuse]
      rw [Database.coinAt, Table.get?_insert_of_fresh known]
      by_cases here : (⟨tx.txid, found.vout⟩ : Outpoint) = outpoint
      · subst here
        have absent : acc.1.coinAt ⟨tx.txid, found.vout⟩ = none :=
          Database.coinAt_eq_none_iff.mpr known
        rw [if_pos rfl, absent]
        change Option.map _ (if (⟨tx.txid, found.vout⟩ : Outpoint) = ⟨tx.txid, found.vout⟩ then _
          else _) = _
        rw [if_pos rfl]
        rfl
      · change Option.map _ (if outpoint = (⟨tx.txid, found.vout⟩ : Outpoint) then _ else _) = _
        rw [if_neg here, if_neg (Ne.symm here)]
        rfl
  | some row =>
      simp only [Database.coinAt, Table.get?_update]
      by_cases here : (⟨tx.txid, found.vout⟩ : Outpoint) = outpoint
      · subst here
        simp [known, DiscoveredOutput.recorded, UtxoRow.core_refreshHeight]
      · rw [if_neg here, if_neg (Ne.symm here)]

/-- The outputs of a transaction are recorded on coins only. -/
theorem recordOutputs_sameButCoins (tx : DecodedTx) (ctx : TxContext)
    (discovered : List DiscoveredOutput) (acc : Database × List Uuid) :
    SameButCoins acc.1 (discovered.foldl (recordOutput tx ctx) acc).1 := by
  induction discovered generalizing acc with
  | nil => exact .refl acc.1
  | cons found rest inductionHypothesis =>
      exact (recordOutput_sameButCoins tx ctx acc found).trans (inductionHypothesis _)

/-- The coin at an outpoint after all found outputs were handled, from the coin before. -/
def recordedAt (tx : DecodedTx) (confirmationHeight : Option Nat)
    (discovered : List DiscoveredOutput) (outpoint : Outpoint) (before : Option UtxoRow) :
    Option UtxoRow :=
  match discovered.find? fun found => (⟨tx.txid, found.vout⟩ : Outpoint) = outpoint with
  | none => before
  | some found => some (found.recorded tx.txid confirmationHeight before)

/-- The loop decides each coin by the first output found at its index. -/
theorem coinAt_foldl_recordOutput (tx : DecodedTx) (ctx : TxContext)
    (discovered : List DiscoveredOutput) (acc : Database × List Uuid) (outpoint : Outpoint) :
    (discovered.foldl (recordOutput tx ctx) acc).1.coinAt outpoint =
      recordedAt tx ctx.confirmationHeight discovered outpoint (acc.1.coinAt outpoint) := by
  induction discovered generalizing acc with
  | nil => rfl
  | cons head rest inductionHypothesis =>
      rw [List.foldl_cons, inductionHypothesis, coinAt_recordOutput, recordedAt, recordedAt]
      by_cases here : (⟨tx.txid, head.vout⟩ : Outpoint) = outpoint
      · simp only [here, decide_true, List.find?_cons_of_pos, if_true]
        cases rest.find? fun found => (⟨tx.txid, found.vout⟩ : Outpoint) = outpoint with
        | none => rfl
        | some later => simp only [DiscoveredOutput.recorded_recorded]
      · simp only [here, decide_false, Bool.false_eq_true, not_false_eq_true,
          List.find?_cons_of_neg, if_false]

/-- No coin is reported as discovered exactly when every found output was known before. -/
theorem recordOutput_ids_eq_nil_iff (tx : DecodedTx) (ctx : TxContext)
    (discovered : List DiscoveredOutput) (acc : Database × List Uuid) :
    (discovered.foldl (recordOutput tx ctx) acc).2 = [] ↔
      acc.2 = [] ∧ ∀ found ∈ discovered, (acc.1.coinAt ⟨tx.txid, found.vout⟩).isSome := by
  induction discovered generalizing acc with
  | nil => simp
  | cons head rest inductionHypothesis =>
      rw [List.foldl_cons, inductionHypothesis]
      cases known : acc.1.utxos.get? ⟨tx.txid, head.vout⟩ with
      | none =>
          have absent : acc.1.coinAt ⟨tx.txid, head.vout⟩ = none :=
            Database.coinAt_eq_none_iff.mpr known
          simp [recordOutput, known, absent]
      | some row =>
          have ids : (recordOutput tx ctx acc head).2 = acc.2 := by simp [recordOutput, known]
          have present : (acc.1.coinAt ⟨tx.txid, head.vout⟩).isSome := by
            simp [Database.coinAt, known]
          have known' : ∀ found : DiscoveredOutput,
              ((recordOutput tx ctx acc head).1.coinAt ⟨tx.txid, found.vout⟩).isSome =
                (acc.1.coinAt ⟨tx.txid, found.vout⟩).isSome := by
            intro found
            rw [coinAt_recordOutput]
            split
            · rename_i same
              rw [← same, present]
              rfl
            · rfl
          simp only [ids, known', List.forall_mem_cons, present, true_and]

end TallyKeep
