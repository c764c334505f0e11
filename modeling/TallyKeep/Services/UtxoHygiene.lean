/-
Module: TallyKeep.Services.UtxoHygiene
Layer: Services
Purpose: Hygiene flags of a coin at detection time and the propagation of address reuse.
Trusted boundary: translation of `services/utxo_hygiene_service.py`; fee rates are
  the rationals that the floats denote
Main exports: HygieneContext, estimateFeeRateSatPerVbyte, computeFlags, applyFlagsAndPropagateReuse
-/
import TallyKeep.Models
import TallyKeep.Library.Binary64

namespace TallyKeep

open Relational

/-- `_TYPICAL_INPUT_VBYTES`, with the native-segwit figure for types without an entry. -/
def typicalInputVbytes : AddressType → ℚ
  | .legacy => 148
  | .nestedSegwit => 91
  | .nativeSegwit => 68
  | .taproot => 115 / 2
  | _ => 68

/-- `_FALLBACK_FEE_RATE_SAT_PER_VBYTE`. -/
def fallbackFeeRate : ℚ := 10

/-- `estimate_fee_rate_sat_per_vbyte`, from what `estimatesmartfee` answers: its `feerate`, when it
    has one. -/
def estimateFeeRateSatPerVbyte : Except NodeError (Option ℚ) → ℚ
  | .ok (some feerate) =>
      if feerate ≤ 0 then fallbackFeeRate else Binary64.toDouble (feerate * 100000)
  | _ => fallbackFeeRate

/-- `_DUST_FACTOR`. -/
def dustFactor : ℚ := 3

structure HygieneContext where
  decodedTx : Option DecodedTx
  addressType : AddressType
  feeRateSatPerVbyte : ℚ

/-- Another transaction has paid the coin's address. -/
def isAddressReused (db : Database) (utxo : UtxoRow) : Bool :=
  !(db.utxos.select fun row =>
      decide (row.addressId = utxo.addressId ∧ row.outpoint.txid ≠ utxo.outpoint.txid)).isEmpty

def isDust (utxo : UtxoRow) (context : HygieneContext) : Bool :=
  (utxo.valueSats : ℚ) <
    dustFactor * context.feeRateSatPerVbyte * typicalInputVbytes context.addressType

def isRoundNumber (valueSats : Nat) : Bool :=
  decide (100000 ≤ valueSats) && decide (valueSats % 100000 = 0)

/-- At least five inputs, at most two outputs, and more than half of the inputs known coins. -/
def isSuspectedConsolidation (db : Database) (tx : DecodedTx) : Bool :=
  if tx.vin.length < 5 ∨ 2 < tx.vout.length then false
  else
    let ours := (tx.prevouts.filter fun prevout => (db.utxos.get? prevout).isSome).length
    decide (tx.vin.length < 2 * ours)

def computeFlags (db : Database) (utxo : UtxoRow) (context : HygieneContext) :
    List HygieneFlag :=
  (if isAddressReused db utxo then [.addressReused] else []) ++
    (if isDust utxo context then [.dust] else []) ++
    match context.decodedTx with
    | none => []
    | some tx =>
        (if isRoundNumber utxo.valueSats then [.roundNumber] else []) ++
          (if isSuspectedConsolidation db tx then [.suspectedConsolidation] else [])

/-- The rewrite of one sibling row: the flag is appended unless it is there. -/
def UtxoRow.flagReused (row : UtxoRow) : UtxoRow :=
  if .addressReused ∈ row.hygieneFlags then row
  else { row with hygieneFlags := row.hygieneFlags ++ [.addressReused] }

@[simp] theorem UtxoRow.flagReused_outpoint (row : UtxoRow) :
    row.flagReused.outpoint = row.outpoint := by
  rw [flagReused]
  split <;> rfl

/-- `_propagate_address_reuse`. -/
def propagateAddressReuse (db : Database) (utxo : UtxoRow) : Database :=
  { db with
    utxos := db.utxos.updateAll
      (fun row =>
        if row.addressId = utxo.addressId ∧ row.outpoint ≠ utxo.outpoint then row.flagReused
        else row)
      (by
        intro row
        split
        · exact UtxoRow.flagReused_outpoint row
        · rfl)
    addresses := db.addresses.update utxo.addressId fun row => { row with isReused := true } }

/-- `apply_flags_and_propagate_reuse` for a coin whose row is already visible. -/
def applyFlagsAndPropagateReuse (db : Database) (utxo : UtxoRow) (context : HygieneContext) :
    Database :=
  let flags := computeFlags db utxo context
  let db :=
    { db with utxos := db.utxos.update utxo.outpoint fun row => { row with hygieneFlags := flags } }
  if .addressReused ∈ flags then propagateAddressReuse db utxo else db

end TallyKeep
