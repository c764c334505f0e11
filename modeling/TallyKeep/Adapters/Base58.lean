/-
Module: TallyKeep.Adapters.Base58
Layer: Adapters
Purpose: The Base58Check helpers of `adapters/descriptor_adapter.py`, and the re-encoding of extended
  keys that wrapping a bare key asks for.
Trusted boundary: translation.  The hash function is a parameter
Main exports: b58Alphabet, b58Lookup, b58decode, b58encode, recodeExtendedKeyVersion, base58Encoding
-/
import Mathlib.Data.Nat.Size
import TallyKeep.Adapters.DescriptorParsing

namespace TallyKeep

/-- `_B58_ALPHABET`. -/
def b58Alphabet : List Char := "123456789ABCDEFGHJKLMNPQRSTUVWXYZabcdefghijkmnopqrstuvwxyz".toList

/-- `_B58_LOOKUP[c]`. -/
def b58Lookup (c : Char) : Except PyError Nat :=
  match b58Alphabet.idxOf? c with
  | some i => .ok i
  | none => .error ⟨.keyError, String.singleton c⟩

/-- `_XPUB_VERSION`. -/
def xpubVersion : List UInt8 := [0x04, 0x88, 0xB2, 0x1E]

/-- `_TPUB_VERSION`. -/
def tpubVersion : List UInt8 := [0x04, 0x35, 0x87, 0xCF]

/-- `n.to_bytes(length, 'big')`, where the length is enough. -/
def toBytes (n : Nat) : Nat → List UInt8
  | 0 => []
  | length + 1 => toBytes (n / 256) length ++ [UInt8.ofNat n]

/-- `int.from_bytes(data, 'big')`. -/
def fromBytes (data : List UInt8) : Nat := data.foldl (fun n byte => n * 256 + byte.toNat) 0

/-- `_b58decode`. -/
def b58decode (s : String) : Except PyError (List UInt8) := do
  let n ← s.toList.foldlM (fun n c => do return n * 58 + (← b58Lookup c)) 0
  let lead := s.toList.length - (s.toList.dropWhile fun c => c == '1').length
  if n = 0 then return List.replicate lead 0
  else return List.replicate lead 0 ++ toBytes n ((n.size + 7) / 8)

/-- The loop of `_b58encode`. -/
def b58Digits (n : Nat) (s : List Char) : List Char :=
  if n = 0 then s else b58Digits (n / 58) (b58Alphabet.getD (n % 58) '1' :: s)
termination_by n
decreasing_by omega

/-- `_b58encode`. -/
def b58encode (data : List UInt8) : String :=
  let lead := data.length - (data.dropWhile fun byte => byte == 0).length
  String.ofList (List.replicate lead '1' ++ b58Digits (fromBytes data) [])

variable (sha256 : List UInt8 → List UInt8)

/-- The checksum of Base58Check. -/
def base58Checksum (payload : List UInt8) : List UInt8 := (sha256 (sha256 payload)).take 4

/-- `_recode_extended_key_version`. -/
def recodeExtendedKeyVersion (key : String) (newVersion : List UInt8) : Except PyError String := do
  let decoded ← b58decode key
  if decoded.length < 78 then
    .error ⟨.valueError, "Not a valid extended key (got " ++ toString decoded.length ++ " bytes)"⟩
  else
    let payload := newVersion ++ (decoded.take 78).drop 4
    return b58encode (payload ++ base58Checksum sha256 payload)

/-- The re-encodings of `_auto_wrap_bare_key`. -/
def base58Encoding : KeyEncoding where
  toXpub key := recodeExtendedKeyVersion sha256 key xpubVersion
  toTpub key := recodeExtendedKeyVersion sha256 key tpubVersion

end TallyKeep
