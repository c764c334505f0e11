/-
Module: TallyKeep.Proofs.Base58Keys
Layer: Proofs
Purpose: Base58 texts and byte strings correspond one to one, and what this makes of extended keys
  that are re-encoded.
Trusted boundary: none
Main exports: b58decode_b58encode, b58encode_b58decode, base58_bijective, WrapsByRecoding,
  ValidBase58Check, recodedValid_iff
-/
import Mathlib.Data.List.GetD
import TallyKeep.Adapters.Base58
import TallyKeep.Library.Radix

namespace TallyKeep

open Radix

/-! ### Characters and bytes as digits -/

/-- The character of a digit. -/
def b58Char (digit : Nat) : Char := b58Alphabet.getD digit '1'

/-- The character of a digit is looked up as the digit. -/
theorem b58Lookup_b58Char {digit : Nat} (below : digit < 58) :
    b58Lookup (b58Char digit) = .ok digit := by
  revert digit
  decide

/-- The characters of the alphabet are the ones of the digits. -/
theorem mem_b58Alphabet_iff {c : Char} :
    c ∈ b58Alphabet ↔ ∃ digit, digit < 58 ∧ b58Char digit = c := by
  rw [List.mem_iff_getElem]
  constructor
  · rintro ⟨digit, below, rfl⟩
    exact ⟨digit, below, List.getD_eq_getElem _ _ below⟩
  · rintro ⟨digit, below, rfl⟩
    have short : digit < b58Alphabet.length := below
    exact ⟨digit, short, (List.getD_eq_getElem _ _ short).symm⟩

/-- A foreign character is a key error. -/
theorem b58Lookup_of_not_mem {c : Char} (foreign : c ∉ b58Alphabet) :
    b58Lookup c = .error ⟨.keyError, String.singleton c⟩ := by
  rw [b58Lookup, List.idxOf?_eq_none_iff.mpr foreign]

/-- A text of the alphabet is the characters of digits. -/
theorem exists_digits {text : List Char} (alphabet : ∀ c ∈ text, c ∈ b58Alphabet) :
    ∃ digits : List Nat, (∀ digit ∈ digits, digit < 58) ∧ digits.map b58Char = text := by
  induction text with
  | nil => exact ⟨[], by simp, rfl⟩
  | cons c rest ih =>
      obtain ⟨digit, below, rfl⟩ := mem_b58Alphabet_iff.mp (alphabet c List.mem_cons_self)
      obtain ⟨digits, restBelow, rfl⟩ := ih fun c member => alphabet c (List.mem_cons_of_mem _ member)
      exact ⟨digit :: digits, List.forall_mem_cons.mpr ⟨below, restBelow⟩, rfl⟩

/-- Only the digit zero is written as a one. -/
theorem b58Char_eq_one_iff {digit : Nat} (below : digit < 58) :
    (b58Char digit == '1') = (digit == 0) := by
  revert digit
  decide

theorem byte_digits_below (data : List UInt8) : ∀ digit ∈ data.map UInt8.toNat, digit < 256 := by
  intro digit member
  obtain ⟨byte, -, rfl⟩ := List.mem_map.mp member
  exact byte.toNat_lt

theorem map_ofNat_toNat (data : List UInt8) : (data.map UInt8.toNat).map UInt8.ofNat = data := by
  rw [List.map_map]
  exact (List.map_congr_left fun byte _ => UInt8.ofNat_toNat).trans (List.map_id data)

theorem map_toNat_ofNat {digits : List Nat} (below : ∀ digit ∈ digits, digit < 256) :
    (digits.map UInt8.ofNat).map UInt8.toNat = digits := by
  rw [List.map_map]
  refine (List.map_congr_left fun digit member => ?_).trans (List.map_id digits)
  exact UInt8.toNat_ofNat_of_lt' (below digit member)

/-! ### Both loops as numerals -/

/-- What is dropped and what is taken make up the list. -/
theorem length_sub_dropWhile {α : Type*} (p : α → Bool) (l : List α) :
    l.length - (l.dropWhile p).length = (l.takeWhile p).length := by
  have split := congrArg List.length (List.takeWhile_append_dropWhile (p := p) (l := l))
  rw [List.length_append] at split
  omega

/-- Bytes are read as the digits of a number to the base 256. -/
theorem fromBytes_eq (data : List UInt8) : fromBytes data = value 256 (data.map UInt8.toNat) := by
  rw [fromBytes, value, List.foldl_map]

/-- The bytes of a number are its digits. -/
theorem toBytes_digits {n length : Nat} (exact : (Nat.digits 256 n).length = length) :
    toBytes n length = (Nat.digits 256 n).reverse.map UInt8.ofNat := by
  induction length generalizing n with
  | zero =>
      rw [List.eq_nil_of_length_eq_zero exact]
      rfl
  | succ k ih =>
      have nonzero : n ≠ 0 := by
        rintro rfl
        cases exact
      rw [Nat.digits_eq_cons_digits_div (by decide) nonzero] at exact ⊢
      rw [toBytes, ih (Nat.succ.inj exact), List.reverse_cons, List.map_append]
      congr 2
      exact UInt8.ofNat_mod_size.symm

/-- The length that `_b58decode` asks for is that of the digits. -/
theorem length_digits_eq {n : Nat} (nonzero : n ≠ 0) :
    (Nat.digits 256 n).length = (n.size + 7) / 8 := by
  have digits : Nat.digits 256 n ≠ [] := Nat.digits_ne_nil_iff_ne_zero.mpr nonzero
  obtain ⟨k, length⟩ := Nat.exists_eq_succ_of_ne_zero (List.length_pos_of_ne_nil digits).ne'
  have below : n < 256 ^ (k + 1) := by
    have bound := Nat.lt_base_pow_length_digits (b := 256) (m := n) (by decide)
    rwa [length] at bound
  have above : 256 ^ k ≤ n := by
    have bound := Nat.base_pow_length_digits_le 256 n (by decide) nonzero
    rw [length, pow_succ, Nat.mul_comm] at bound
    exact Nat.le_of_mul_le_mul_left bound (by decide)
  rw [show 256 = 2 ^ 8 from rfl, ← pow_mul] at below above
  have short := Nat.size_le.mpr below
  have long := Nat.lt_size.mpr above
  omega

/-- A number is written in as many bytes as it has. -/
theorem toBytes_size {n : Nat} (nonzero : n ≠ 0) :
    toBytes n ((n.size + 7) / 8) = (Nat.digits 256 n).reverse.map UInt8.ofNat :=
  toBytes_digits (length_digits_eq nonzero)

/-- A number is written in digits to the base 58. -/
theorem b58Digits_eq (n : Nat) (s : List Char) :
    b58Digits n s = (Nat.digits 58 n).reverse.map b58Char ++ s := by
  induction n, s using b58Digits.induct with
  | case1 s => 
      rw [b58Digits, if_pos rfl]
      rfl
  | case2 n s nonzero ih =>
      rw [b58Digits, if_neg nonzero, ih, Nat.digits_eq_cons_digits_div (by decide) nonzero,
        List.reverse_cons, List.map_append, List.append_assoc]
      rfl

/-- What `_b58decode` gives for the characters of digits. -/
theorem b58decode_eq {digits : List Nat} (below : ∀ digit ∈ digits, digit < 58) :
    b58decode (String.ofList (digits.map b58Char)) =
      .ok ((numeral 256 (leadingZeros digits) (value 58 digits)).map UInt8.ofNat) := by
  have looked : ∀ n, (digits.map b58Char).foldlM
      (fun n c => do return n * 58 + (← b58Lookup c)) n =
        (.ok (digits.foldl (fun n digit => n * 58 + digit) n) : Except PyError Nat) := by
    induction digits with
    | nil => exact fun n => rfl
    | cons digit rest ih =>
        intro n
        obtain ⟨here, restBelow⟩ := List.forall_mem_cons.mp below
        rw [List.map_cons, List.foldlM_cons, b58Lookup_b58Char here]
        exact ih restBelow _
  have lead : (digits.map b58Char).length -
      ((digits.map b58Char).dropWhile fun c => c == '1').length = leadingZeros digits := by
    rw [length_sub_dropWhile]
    exact length_takeWhile_map fun digit member => b58Char_eq_one_iff (below digit member)
  rw [b58decode, String.toList_ofList, looked, lead, numeral, List.map_append, List.map_replicate]
  by_cases zero : value 58 digits = 0
  · rw [zero, Nat.digits_zero, List.reverse_nil, List.map_nil, List.append_nil]
    exact if_pos zero
  · rw [← toBytes_size zero]
    exact if_neg zero

/-- What `_b58encode` gives for bytes. -/
theorem b58encode_eq (data : List UInt8) :
    b58encode data = String.ofList ((numeral 58 (leadingZeros (data.map UInt8.toNat))
      (value 256 (data.map UInt8.toNat))).map b58Char) := by
  have lead : (data.takeWhile fun byte => byte == 0).length =
      leadingZeros (data.map UInt8.toNat) := by
    rw [leadingZeros, List.takeWhile_map, List.length_map]
    congr 2
    funext byte
    exact Bool.eq_iff_iff.mpr (by simp [← UInt8.toNat_inj])
  rw [b58encode, length_sub_dropWhile, lead, fromBytes_eq, b58Digits_eq, List.append_nil, numeral,
    List.map_append, List.map_replicate]
  rfl

/-! ### The correspondence -/

/-- What is encoded is decoded to the same bytes. -/
theorem b58decode_b58encode (data : List UInt8) : b58decode (b58encode data) = .ok data := by
  rw [b58encode_eq, b58decode_eq (numeral_below (by decide)), leadingZeros_numeral, value_numeral,
    numeral_of_digits (by decide) (byte_digits_below data), map_ofNat_toNat]

/-- A text of the alphabet is the encoding of what it decodes to. -/
theorem b58encode_b58decode {text : String} (alphabet : ∀ c ∈ text.toList, c ∈ b58Alphabet) :
    ∃ data, b58decode text = .ok data ∧ b58encode data = text := by
  obtain ⟨digits, below, same⟩ := exists_digits alphabet
  have ofDigits : text = String.ofList (digits.map b58Char) := by
    rw [same, String.ofList_toList]
  refine ⟨_, ofDigits ▸ b58decode_eq below, ?_⟩
  rw [b58encode_eq, map_toNat_ofNat (numeral_below (by decide)), leadingZeros_numeral,
    value_numeral, numeral_of_digits (by decide) below, ← ofDigits]

/-- What is looked up is of the alphabet. -/
theorem mem_of_b58Lookup {c : Char} {digit : Nat} (looked : b58Lookup c = .ok digit) :
    c ∈ b58Alphabet := by
  by_contra foreign
  rw [b58Lookup_of_not_mem foreign] at looked
  cases looked

/-- `_b58decode` fails on a character outside the alphabet, and only there. -/
theorem b58decode_returns_iff {text : String} :
    (∃ data, b58decode text = .ok data) ↔ ∀ c ∈ text.toList, c ∈ b58Alphabet := by
  have looked : ∀ (l : List Char) (n n' : Nat),
      l.foldlM (fun n c => do return n * 58 + (← b58Lookup c)) n =
        (.ok n' : Except PyError Nat) → ∀ c ∈ l, c ∈ b58Alphabet := by
    intro l
    induction l with
    | nil => exact fun _ _ _ c member => absurd member List.not_mem_nil
    | cons c rest ih =>
        intro n n' run
        rw [List.foldlM_cons, bind_ok_iff] at run
        obtain ⟨next, first, restRun⟩ := run
        obtain ⟨digit, here, -⟩ := bind_ok_iff.mp first
        exact List.forall_mem_cons.mpr ⟨mem_of_b58Lookup here, ih next n' restRun⟩
  constructor
  · rintro ⟨data, decoded⟩
    obtain ⟨n, run, -⟩ := bind_ok_iff.mp decoded
    exact looked _ 0 n run
  · intro alphabet
    obtain ⟨data, decoded, -⟩ := b58encode_b58decode alphabet
    exact ⟨data, decoded⟩

section Keys

variable (sha256 : List UInt8 → List UInt8)

/-- The version, the middle of the old key, and their checksum. -/
def recodedBytes (decoded newVersion : List UInt8) : List UInt8 :=
  let payload := newVersion ++ (decoded.take 78).drop 4
  payload ++ base58Checksum sha256 payload

/-- A key of at least 78 bytes is recoded to the encoding of its bytes under the new version. -/
theorem recode_ok_iff {key result : String} {newVersion : List UInt8} :
    recodeExtendedKeyVersion sha256 key newVersion = .ok result ↔
      ∃ decoded, b58decode key = .ok decoded ∧ 78 ≤ decoded.length ∧
        b58encode (recodedBytes sha256 decoded newVersion) = result := by
  rw [recodeExtendedKeyVersion, bind_ok_iff]
  refine exists_congr fun decoded => and_congr_right fun _ => ?_
  split
  · rename_i short
    refine iff_of_false ?_ fun long => Nat.not_lt.mpr long.1 short
    intro run
    cases run
  · rename_i long
    rw [and_iff_right (Nat.not_lt.mp long)]
    exact Except.ok.injEq _ _ |>.to_iff

end Keys

/-- Base58 texts and byte strings correspond one to one, and a re-encoded key decodes to the new
    version, the bytes of the old key after its own, and the checksum of these. -/
theorem base58_bijective :
    (∀ data, b58decode (b58encode data) = .ok data) ∧
    (∀ text : String, (∀ c ∈ text.toList, c ∈ b58Alphabet) →
      ∃ data, b58decode text = .ok data ∧ b58encode data = text) ∧
    ∀ (sha256 : List UInt8 → List UInt8) (key result : String) (newVersion : List UInt8),
      recodeExtendedKeyVersion sha256 key newVersion = .ok result →
        ∃ decoded, b58decode key = .ok decoded ∧
          b58decode result = .ok (newVersion ++ (decoded.take 78).drop 4 ++
            base58Checksum sha256 (newVersion ++ (decoded.take 78).drop 4)) := by
  refine ⟨b58decode_b58encode, fun _ => b58encode_b58decode, ?_⟩
  intro sha256 key result newVersion run
  obtain ⟨decoded, decodes, -, rfl⟩ := (recode_ok_iff sha256).mp run
  exact ⟨decoded, decodes, b58decode_b58encode _⟩

/-- A key of 82 bytes, with a hash of zeros. -/
theorem base58_bijective_key :
    ∃ result, recodeExtendedKeyVersion (fun _ => List.replicate 32 0)
        (b58encode (List.replicate 82 7)) xpubVersion = .ok result ∧
      ∃ decoded, b58decode (b58encode (List.replicate 82 7)) = .ok decoded ∧
        b58decode result = .ok (xpubVersion ++ (decoded.take 78).drop 4 ++
          base58Checksum (fun _ => List.replicate 32 0)
            (xpubVersion ++ (decoded.take 78).drop 4)) := by
  have run := (recode_ok_iff (fun _ => List.replicate 32 0)).mpr
    ⟨List.replicate 82 7, b58decode_b58encode _, by decide,
      (rfl : b58encode (recodedBytes _ _ xpubVersion) = _)⟩
  exact ⟨_, run, base58_bijective.2.2 _ _ _ _ run⟩

/-! ### Bare keys -/

section BareKeys

variable (classes : Regex.CharClasses) (sha256 : List UInt8 → List UInt8)

/-- The text begins, in either case, with a prefix whose keys are re-encoded. -/
def hasRecodedPrefix (text : String) : Bool :=
  ["zpub", "ypub", "vpub", "upub"].any fun start =>
    (String.ofList (text.toList.map Char.toLower)).startsWith start

/-- `_auto_wrap_bare_key` wraps the text with its key re-encoded. -/
def WrapsByRecoding (expression : String) : Prop :=
  hasRecodedPrefix (strip classes expression) = true ∧
    (autoWrapBareKey classes (base58Encoding sha256) expression).isSome = true

/-- An extended key in Base58Check: 78 bytes and the checksum of these. -/
def ValidBase58Check (text : String) : Prop :=
  ∃ data, b58decode text = .ok data ∧ data.length = 82 ∧
    data.drop 78 = base58Checksum sha256 (data.take 78)

/-- A key with such a prefix that decodes to enough bytes, and is not what a key decodes to. -/
def MistypedKey (text : String) : Prop :=
  hasRecodedPrefix text = true ∧ ∃ data, b58decode text = .ok data ∧ 78 ≤ data.length ∧
    (data.length ≠ 82 ∨ data.drop 78 ≠ base58Checksum sha256 (data.take 78))

/-- A text begins with one of two beginnings that differ at once. -/
theorem startsWith_eq_false {text start other : String} (starts : text.startsWith start = true)
    (differs : start.toList.head? ≠ other.toList.head?) (first : start.toList ≠ [])
    (second : other.toList ≠ []) : text.startsWith other = false := by
  rw [← Bool.not_eq_true]
  intro starts'
  obtain ⟨rest, same⟩ := String.startsWith_string_iff.mp starts
  obtain ⟨rest', same'⟩ := String.startsWith_string_iff.mp starts'
  apply differs
  have heads := congrArg List.head? (same.trans same'.symm)
  rwa [List.head?_append_of_ne_nil _ first, List.head?_append_of_ne_nil _ second] at heads

/-- A key can be recoded exactly when it decodes to at least 78 bytes. -/
theorem recode_toOption_isSome {key : String} {newVersion : List UInt8} :
    (recodeExtendedKeyVersion sha256 key newVersion).toOption.isSome = true ↔
      ∃ data, b58decode key = .ok data ∧ 78 ≤ data.length := by
  constructor
  · intro some
    cases run : recodeExtendedKeyVersion sha256 key newVersion with
    | error raised =>
        rw [run] at some
        cases some
    | ok result =>
        obtain ⟨data, decoded, long, -⟩ := (recode_ok_iff sha256).mp run
        exact ⟨data, decoded, long⟩
  · rintro ⟨data, decoded, long⟩
    rw [(recode_ok_iff sha256).mpr ⟨data, decoded, long, rfl⟩]
    rfl

/-- No Base58 text has descriptor punctuation. -/
theorem plain_of_alphabet {text : String} (alphabet : ∀ c ∈ text.toList, c ∈ b58Alphabet) :
    (text.toList.any fun c => decide (c ∈ ['(', ')', '[', ']', '/'])) = false := by
  have apart : (b58Alphabet.all fun c => !decide (c ∈ ['(', ')', '[', ']', '/'])) = true := by
    decide
  rw [List.any_eq_false]
  intro c member
  rw [(Bool.not_eq_true' _).mp (List.all_eq_true.mp apart c (alphabet c member))]
  exact Bool.false_ne_true

/-- Where the text is no descriptor, each of the prefixes leads to the re-encoding. -/
theorem autoWrap_isSome_iff {expression : String}
    (starts : hasRecodedPrefix (strip classes expression) = true)
    (plain : ¬(strip classes expression = "" ∨ (strip classes expression).toList.any
      (fun c => decide (c ∈ ['(', ')', '[', ']', '/'])) = true)) :
    (autoWrapBareKey classes (base58Encoding sha256) expression).isSome = true ↔
      ∃ data, b58decode (strip classes expression) = .ok data ∧ 78 ≤ data.length := by
  rw [autoWrapBareKey, if_neg plain]
  obtain ⟨start, listed, here⟩ := List.any_eq_true.mp starts
  simp only [List.mem_cons, List.not_mem_nil, or_false] at listed
  have other (other : String) (differs : start.toList.head? ≠ other.toList.head?)
      (nonempty : other.toList ≠ []) : ¬(String.ofList
        ((strip classes expression).toList.map Char.toLower)).startsWith other = true := by
    have first : start.toList ≠ [] := by rcases listed with rfl | rfl | rfl | rfl <;> decide
    rw [startsWith_eq_false here differs first nonempty]
    exact Bool.false_ne_true
  rcases listed with rfl | rfl | rfl | rfl
  · rw [if_pos here, Option.isSome_map]
    exact recode_toOption_isSome sha256
  · rw [if_neg (other "zpub" (by decide) (by decide)), if_pos here, Option.isSome_map]
    exact recode_toOption_isSome sha256
  · rw [if_neg (other "zpub" (by decide) (by decide)),
      if_neg (other "ypub" (by decide) (by decide)),
      if_neg (other "xpub" (by decide) (by decide)), if_pos here, Option.isSome_map]
    exact recode_toOption_isSome sha256
  · rw [if_neg (other "zpub" (by decide) (by decide)),
      if_neg (other "ypub" (by decide) (by decide)),
      if_neg (other "xpub" (by decide) (by decide)),
      if_neg (other "vpub" (by decide) (by decide)), if_pos here, Option.isSome_map]
    exact recode_toOption_isSome sha256

/-- Wrapping re-encodes whatever decodes to enough bytes. -/
theorem wrapsByRecoding_iff {expression : String} :
    WrapsByRecoding classes sha256 expression ↔
      hasRecodedPrefix (strip classes expression) = true ∧
        ∃ data, b58decode (strip classes expression) = .ok data ∧ 78 ≤ data.length := by
  rw [WrapsByRecoding]
  refine and_congr_right fun starts => ?_
  by_cases plain : strip classes expression = "" ∨ (strip classes expression).toList.any
      (fun c => decide (c ∈ ['(', ')', '[', ']', '/'])) = true
  · have notWrapped : autoWrapBareKey classes (base58Encoding sha256) expression = none := by
      rw [autoWrapBareKey, if_pos plain]
    rw [notWrapped]
    refine iff_of_false Bool.false_ne_true ?_
    rintro ⟨data, decoded, -⟩
    rcases plain with empty | punctuated
    · rw [empty] at starts
      revert starts
      decide
    · rw [plain_of_alphabet (b58decode_returns_iff.mp ⟨data, decoded⟩)] at punctuated
      cases punctuated
  · exact autoWrap_isSome_iff classes sha256 starts plain

/-- What is wrapped with its key re-encoded is a valid key, mistyped keys apart. -/
theorem recodedValid_iff (expression : String) :
    (WrapsByRecoding classes sha256 expression →
        ValidBase58Check sha256 (strip classes expression)) ↔
      ¬MistypedKey sha256 (strip classes expression) := by
  rw [wrapsByRecoding_iff]
  constructor
  · rintro valid ⟨starts, data, decoded, long, wrong⟩
    obtain ⟨data', decoded', length, checked⟩ := valid ⟨starts, data, decoded, long⟩
    rw [decoded] at decoded'
    cases decoded'
    exact wrong.elim (fun other => other length) fun other => other checked
  · rintro right ⟨starts, data, decoded, long⟩
    refine ⟨data, decoded, ?_, ?_⟩
    · by_contra other
      exact right ⟨starts, data, decoded, long, .inl other⟩
    · by_contra other
      exact right ⟨starts, data, decoded, long, .inr other⟩

end BareKeys

/-! ### A key with a wrong ending -/

/-- A text of the length of an extended key, with a prefix of one. -/
def mistypedZpub : String := "zpub" ++ String.ofList (List.replicate 107 '1')

/-- The mistyped key decodes, with a checksum of zeros. -/
theorem b58decode_mistypedZpub :
    ∃ data, b58decode mistypedZpub = .ok data ∧ data.length = 82 ∧ data.drop 78 = [0, 0, 0, 0] := by
  refine ⟨(b58decode mistypedZpub).toOption.getD [], ?_, ?_, ?_⟩ <;> decide +kernel

/-- The key is wrapped, although its ending is not the checksum of the rest. -/
theorem not_recodedValid_of_typo :
    WrapsByRecoding .ascii (fun _ => List.replicate 32 1) mistypedZpub ∧
      ¬ValidBase58Check (fun _ => List.replicate 32 1) (strip .ascii mistypedZpub) := by
  have stripped : strip .ascii mistypedZpub = mistypedZpub := by decide +kernel
  obtain ⟨data, decoded, length, ending⟩ := b58decode_mistypedZpub
  rw [wrapsByRecoding_iff, stripped]
  refine ⟨⟨by decide +kernel, data, decoded, by omega⟩, ?_⟩
  rintro ⟨data', decoded', -, checked⟩
  rw [decoded] at decoded'
  cases decoded'
  have ones : base58Checksum (fun _ => List.replicate 32 1) (data.take 78) = [1, 1, 1, 1] := rfl
  rw [ending, ones] at checked
  exact absurd checked (by decide)

end TallyKeep
