/-
Module: TallyKeep.Services.ChainProcessing
Layer: Services
Purpose: `ChainProcessingService`: the effects of one decoded transaction on the database.
Trusted boundary: translation of `services/chain_processing_service.py`.  Every call
  has a session of its own that its caller commits, as the chain listener does; the order of query
  rows and the iteration order of Python sets are parameters
Main exports: SetOrder, RowOrder, TxContext, TxProcessingResult, processDecodedTransaction,
  Delivery, deliverAll
-/
import TallyKeep.Repositories
import TallyKeep.Services.UtxoHygiene
import Mathlib.Data.Finset.Card
import Mathlib.Data.List.Sort

namespace TallyKeep

open Relational

/-- How a Python set of identifiers is iterated: any order, each element once. -/
structure SetOrder where
  enumerate : Finset Uuid → List Uuid
  nodup : ∀ s, (enumerate s).Nodup
  mem : ∀ s x, x ∈ enumerate s ↔ x ∈ s

/-- The order in which a query without ORDER BY returns its rows. -/
structure RowOrder where
  arrange : List AddressRow → List AddressRow
  perm : ∀ rows, (arrange rows).Perm rows

/-- `sorted`: the elements of a set in increasing order. -/
def sorted (s : Finset Uuid) : List Uuid :=
  Quot.liftOn s.val (fun ids => ids.insertionSort (· ≤ ·)) fun ids ids' same =>
    (((ids.perm_insertionSort _).trans same).trans (ids'.perm_insertionSort _).symm).eq_of_pairwise'
      (ids.pairwise_insertionSort _) (ids'.pairwise_insertionSort _)

theorem coe_sorted (s : Finset Uuid) : (sorted s : Multiset Uuid) = s.val := by
  obtain ⟨ids, nodup⟩ := s
  induction ids using Quot.inductionOn with
  | h ids => exact Quot.sound (ids.perm_insertionSort (· ≤ ·))

/-- Sets iterated in increasing order. -/
def SetOrder.increasing : SetOrder where
  enumerate := sorted
  nodup s := by
    rw [← Multiset.coe_nodup, coe_sorted]
    exact s.nodup
  mem s x := by
    rw [← Multiset.mem_coe, coe_sorted]
    exact Iff.rfl

/-- Rows returned as they are stored. -/
def RowOrder.stored : RowOrder where
  arrange := id
  perm _ := .refl _

/-- The keyword arguments of `process_decoded_transaction`, the clock and the two orders. -/
structure TxContext where
  confirmationHeight : Option Nat
  blockTime : Option Timestamp
  feeRateSatPerVbyte : Option ℚ
  now : Timestamp
  rowOrder : RowOrder
  setOrder : SetOrder

/-- One output that pays a watched address. -/
structure DiscoveredOutput where
  vout : Nat
  valueSats : Nat
  address : String
  addressId : Uuid
  descriptorId : Uuid
  holdingId : Uuid
deriving DecidableEq

structure TxProcessingResult where
  txid : Txid
  confirmationHeight : Option Nat
  isNew : Bool
  spentUtxoIds : List Uuid
  discoveredUtxoIds : List Uuid
  newLedgerEntryIds : List Uuid
  affectedHoldingIds : List Uuid
  affectedDescriptorIds : List Uuid
  direction : Option Direction
  netAmountSats : Int
deriving DecidableEq

/-! ### `_mark_inputs_spent` -/

/-- The write to one consumed coin; the first spender stays recorded. -/
def UtxoRow.markSpent (row : UtxoRow) (spendingTxid : Txid) : UtxoRow :=
  if row.isSpent then row
  else
    { row with
      isSpent := true
      spentInTxid := some spendingTxid
      spentConsistent := rfl }

@[simp] theorem UtxoRow.markSpent_outpoint (row : UtxoRow) (spendingTxid : Txid) :
    (row.markSpent spendingTxid).outpoint = row.outpoint := by
  rw [markSpent]
  split <;> rfl

/-- What `_mark_inputs_spent` has done and collected so far. -/
structure SpentInputs where
  db : Database
  spentValueSats : Nat
  spentUtxoIds : List Uuid
  descriptorIds : Finset Uuid
  holdingIds : Finset Uuid

def SpentInputs.start (db : Database) : SpentInputs := ⟨db, 0, [], ∅, ∅⟩

/-- One round of the loop over `vin`, for an input that names an output. -/
def markInputSpent (spendingTxid : Txid) (acc : SpentInputs) (prevout : Outpoint) : SpentInputs :=
  match acc.db.utxos.get? prevout with
  | none => acc
  | some row =>
      { db :=
          { acc.db with
            utxos := acc.db.utxos.update prevout
              (fun row => row.markSpent spendingTxid)
              (fun row => row.markSpent_outpoint spendingTxid) }
        spentValueSats := acc.spentValueSats + row.valueSats
        spentUtxoIds := acc.spentUtxoIds ++ [row.id]
        descriptorIds := insert row.descriptorId acc.descriptorIds
        holdingIds :=
          match acc.db.holdingOf row.descriptorId with
          | some holdingId => insert holdingId acc.holdingIds
          | none => acc.holdingIds }

/-- `_mark_inputs_spent`; coinbase inputs name no output and are passed over. -/
def markInputsSpent (db : Database) (tx : DecodedTx) : SpentInputs :=
  tx.prevouts.foldl (markInputSpent tx.txid) (.start db)

/-! ### `_discover_outputs` -/

/-- The address an output pays with its value and index, when the output has a value and a single
    non-empty address: the entries of the `per_address` dictionary. -/
def DecodedOutput.payment? (output : DecodedOutput) : Option (String × Nat × Nat) :=
  match output.value, output.address with
  | some value, some address =>
      if address = "" then none else some (address, btcToSats value, output.index)
  | _, _ => none

/-- The payments of a transaction, in output order. -/
def DecodedTx.payments (tx : DecodedTx) : List (String × Nat × Nat) :=
  tx.vout.filterMap DecodedOutput.payment?

/-- The outputs found for one address row.  A row without a descriptor row is passed over. -/
def discoverForRow (db : Database) (tx : DecodedTx) (row : AddressRow) : List DiscoveredOutput :=
  match db.holdingOf row.descriptorId with
  | none => []
  | some holdingId =>
      (tx.payments.filter fun payment => decide (payment.1 = row.address)).map
        fun (_, valueSats, vout) =>
          ⟨vout, valueSats, row.address, row.id, row.descriptorId, holdingId⟩

/-- `_discover_outputs`: every address row with a paid address, and for it every output that pays
    this address. -/
def discoverOutputs (db : Database) (rowOrder : RowOrder) (tx : DecodedTx) :
    List DiscoveredOutput :=
  let rows := db.addresses.select fun row =>
    decide (row.address ∈ tx.payments.map Prod.fst)
  (rowOrder.arrange rows).flatMap (discoverForRow db tx)

/-! ### The loop over discovered outputs -/

/-- `fee_rate_sat_per_vbyte if fee_rate_sat_per_vbyte is not None else 10.0`. -/
def TxContext.feeRate (ctx : TxContext) : ℚ := ctx.feeRateSatPerVbyte.getD fallbackFeeRate

/-- The address type the hygiene check uses for a descriptor. -/
def Database.addressTypeOf (db : Database) (descriptorId : Uuid) : AddressType :=
  match db.descriptors.get? descriptorId with
  | some row => row.addressType
  | none => .nativeSegwit

/-- One round of the loop: insert an unknown coin with its hygiene flags, or refresh the height of a
    known one. -/
def recordOutput (tx : DecodedTx) (ctx : TxContext) (acc : Database × List Uuid)
    (found : DiscoveredOutput) : Database × List Uuid :=
  let db := acc.1
  let outpoint : Outpoint := ⟨tx.txid, found.vout⟩
  match db.utxos.get? outpoint with
  | none =>
      let row := UtxoRow.discovered (UtxoRepo.freshId db) found.descriptorId found.addressId
        outpoint found.valueSats ctx.confirmationHeight
      let db := { db with utxos := db.utxos.insert row }
      let context : HygieneContext :=
        ⟨some tx, db.addressTypeOf found.descriptorId, ctx.feeRate⟩
      (applyFlagsAndPropagateReuse db row context, acc.2 ++ [row.id])
  | some _ =>
      ({ db with
          utxos := db.utxos.update outpoint
            (fun row => row.refreshHeight ctx.confirmationHeight)
            (fun row => row.refreshHeight_outpoint ctx.confirmationHeight) },
        acc.2)

/-- The whole loop. -/
def recordOutputs (db : Database) (tx : DecodedTx) (ctx : TxContext)
    (discovered : List DiscoveredOutput) : Database × List Uuid :=
  discovered.foldl (recordOutput tx ctx) (db, [])

/-! ### Direction and amounts -/

/-- `received_value_per_holding.get(holding_id, 0)` after the loop. -/
def receivedValue (discovered : List DiscoveredOutput) (holdingId : Uuid) : Nat :=
  ((discovered.filter fun found => decide (found.holdingId = holdingId)).map
    DiscoveredOutput.valueSats).sum

/-- `sum(received_value_per_holding.values())`. -/
def receivedTotal (discovered : List DiscoveredOutput) : Nat :=
  (discovered.map DiscoveredOutput.valueSats).sum

/-- The keys of `received_value_per_holding`. -/
def receivingHoldings (discovered : List DiscoveredOutput) : Finset Uuid :=
  (discovered.map DiscoveredOutput.holdingId).toFinset

/-- `_infer_direction`. -/
def inferDirection (spentValue receivedTotal numHoldingsTouchedByInputs
    numHoldingsTouchedByOutputs : Nat) : Direction :=
  if 0 < spentValue ∧ 0 < receivedTotal ∧ 0 < numHoldingsTouchedByInputs ∧
      0 < numHoldingsTouchedByOutputs then
    .internal
  else if spentValue ≤ receivedTotal then .incoming
  else .outgoing

/-- What one input takes from a holding: the value of the coin row, when it belongs to the
    holding. -/
def inputValue (db : Database) (holdingId : Uuid) (prevout : Outpoint) : Nat :=
  match db.utxos.get? prevout with
  | none => 0
  | some row => if db.holdingOf row.descriptorId = some holdingId then row.valueSats else 0

/-- `_holding_input_value`. -/
def holdingInputValue (db : Database) (tx : DecodedTx) (holdingId : Uuid) : Nat :=
  (tx.prevouts.map (inputValue db holdingId)).sum

/-! ### Ledger entries -/

/-- The links behind `_already_linked`: of this holding, to an on-chain entry for the
    transaction. -/
def linksFor (db : Database) (txid : Txid) (holdingId : Uuid) : List LedgerEntryHoldingLinkRow :=
  db.ledgerLinks.select fun link =>
    decide (link.holdingId = holdingId) &&
      (db.ledgerEntries.get? link.ledgerEntryId).any fun entry => decide (entry.RecordsTx txid)

/-- `_already_linked`. -/
def alreadyLinked (db : Database) (txid : Txid) (holdingId : Uuid) : Except PyError Bool := do
  let row ← scalarOneOrNone (linksFor db txid holdingId)
  return row.isSome

/-- One round of the loop over the affected holdings. -/
def createEntry (tx : DecodedTx) (ctx : TxContext) (discovered : List DiscoveredOutput)
    (direction : Direction) (acc : Database × List Uuid) (holdingId : Uuid) :
    Except PyError (Database × List Uuid) := do
  let db := acc.1
  if ← alreadyLinked db tx.txid holdingId then
    return acc
  let holdingReceived := receivedValue discovered holdingId
  let holdingSpent := holdingInputValue db tx holdingId
  let holdingNet : Int := holdingReceived - holdingSpent
  if holdingReceived = 0 ∧ holdingSpent = 0 then
    return acc
  let entryId := db.ledgerEntries.freshKey
  let entry ← LedgerEntryRow.postInit
    ⟨entryId, direction, holdingNet, ctx.blockTime.getD ctx.now, .onchainTransaction,
      tx.txid.text⟩
  return (LedgerEntryRepo.insert db entry ⟨entryId, holdingId, holdingNet⟩, acc.2 ++ [entryId])

/-- The whole loop, in the order given. -/
def createEntries (db : Database) (tx : DecodedTx) (ctx : TxContext)
    (discovered : List DiscoveredOutput) (direction : Direction) (holdings : List Uuid) :
    Except PyError (Database × List Uuid) :=
  holdings.foldlM (createEntry tx ctx discovered direction) (db, [])

/-! ### `process_decoded_transaction` -/

def processDecodedTransaction (db : Database) (tx : DecodedTx) (ctx : TxContext) :
    Except PyError (Database × TxProcessingResult) := do
  let spent := markInputsSpent db tx
  let discovered := discoverOutputs spent.db ctx.rowOrder tx
  if spent.spentUtxoIds = [] ∧ discovered = [] then
    -- Nothing watched on either side: no row of any table is touched.
    return (spent.db, ⟨tx.txid, ctx.confirmationHeight, false, [], [], [], [], [], none, 0⟩)
  let isNew := (spent.db.onchainTransactions.get? tx.txid).isNone
  let db := OnchainRepo.upsert spent.db tx.txid tx.rawHex ctx.confirmationHeight ctx.blockTime
  let (db, discoveredUtxoIds) := recordOutputs db tx ctx discovered
  let direction := inferDirection spent.spentValueSats (receivedTotal discovered)
    spent.holdingIds.card (receivingHoldings discovered).card
  let affectedHoldings := spent.holdingIds ∪ receivingHoldings discovered
  let affectedDescriptors :=
    spent.descriptorIds ∪ (discovered.map DiscoveredOutput.descriptorId).toFinset
  let (db, newLedgerEntryIds) ←
    createEntries db tx ctx discovered direction (ctx.setOrder.enumerate affectedHoldings)
  return (db,
    { txid := tx.txid
      confirmationHeight := ctx.confirmationHeight
      isNew := isNew
      spentUtxoIds := spent.spentUtxoIds
      discoveredUtxoIds := discoveredUtxoIds
      newLedgerEntryIds := newLedgerEntryIds
      affectedHoldingIds := sorted affectedHoldings
      affectedDescriptorIds := sorted affectedDescriptors
      direction := some direction
      netAmountSats := (receivedTotal discovered : Int) - spent.spentValueSats })

/-! ### Deliveries -/

/-- One transaction handed to the service, with the arguments of the call. -/
structure Delivery where
  tx : DecodedTx
  ctx : TxContext

/-- One delivery in a session of its own, committed when the call returns. -/
def deliver (db : Database) (delivery : Delivery) : Except PyError Database := do
  let (db, _) ← processDecodedTransaction db delivery.tx delivery.ctx
  return db

/-- Deliveries one after the other; the first one that raises ends the run. -/
def deliverAll (db : Database) (deliveries : List Delivery) : Except PyError Database :=
  deliveries.foldlM deliver db

end TallyKeep
