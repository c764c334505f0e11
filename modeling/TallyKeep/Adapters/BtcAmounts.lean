/-
Module: TallyKeep.Adapters.BtcAmounts
Layer: Adapters
Purpose: Amounts between sats and BTC texts: `_sats_to_btc_string` and `_btc_to_sats` of
  `adapters/node_adapter.py`, and the copy of the latter in `services/chain_processing_service.py`.
Trusted boundary: translation.  What `f"{float(btc):.8f}"` writes is a parameter, with the error
  that `float` raises; it writes no blanks, underscores or digits of other scripts, which `int`
  would take too
Main exports: pyInt, zeroPadded, satsToBtcString, NodeAdapter.btcToSats, ChainProcessing.btcToSats
-/
import TallyKeep.Domain

namespace TallyKeep

/-- The number of decimal digits. -/
def digitsValue? (digits : List Char) : Option Nat :=
  if digits ≠ [] ∧ digits.all Char.isDigit = true then some (Nat.ofDigitChars 10 digits 0) else none

/-- `int(text)`. -/
def pyInt (text : List Char) : Except PyError Int :=
  let value? : Option Int :=
    match text with
    | '-' :: digits => (digitsValue? digits).map fun n => -Int.ofNat n
    | '+' :: digits => (digitsValue? digits).map Int.ofNat
    | digits => (digitsValue? digits).map Int.ofNat
  match value? with
  | some n => .ok n
  | none => .error ⟨.valueError, "invalid literal for int() with base 10: '" ++
      String.ofList text ++ "'"⟩

/-- `f"{n:0{width}d}"`, of a number that is not negative. -/
def zeroPadded (width n : Nat) : List Char :=
  List.replicate (width - (Nat.toDigits 10 n).length) '0' ++ Nat.toDigits 10 n

/-- `text.partition(".")`, less the point. -/
def partitionPoint (text : List Char) : List Char × List Char :=
  (text.takeWhile fun c => c != '.', (text.dropWhile fun c => c != '.').drop 1)

/-- `NodeAdapter._sats_to_btc_string`. -/
def satsToBtcString (sats : Int) : String :=
  let sign := if sats < 0 then ['-'] else []
  let magnitude := sats.natAbs
  let whole := magnitude / 100000000
  let fractional := magnitude % 100000000
  String.ofList (sign ++ Nat.toDigits 10 whole ++ ['.'] ++ zeroPadded 8 fractional)

variable (formatted : String → Except PyError String)

/-- `_btc_to_sats` of the node adapter. -/
def NodeAdapter.btcToSats (btc : String) : Except PyError Int := do
  let text := (← formatted btc).toList
  let (integer, rest) := partitionPoint text
  let fractional := (rest ++ List.replicate 8 '0').take 8
  let sign := if integer.head? = some '-' then -1 else 1
  let whole ← pyInt integer
  let part ← pyInt fractional
  return sign * (whole.natAbs * 100000000 + part)

/-- `_btc_to_sats` of the chain processing service, duplicated there. -/
def ChainProcessing.btcToSats (btc : String) : Except PyError Int := do
  let text := (← formatted btc).toList
  let (integer, rest) := partitionPoint text
  let fractional := (rest ++ List.replicate 8 '0').take 8
  let sign := if integer.head? = some '-' then -1 else 1
  let whole ← pyInt integer
  let part ← pyInt fractional
  return sign * (whole.natAbs * 100000000 + part)

end TallyKeep
