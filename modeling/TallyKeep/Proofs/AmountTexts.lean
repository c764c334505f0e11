/-
Module: TallyKeep.Proofs.AmountTexts
Layer: Proofs
Purpose: The BTC text of an amount has eight decimals, and it reads back as the amount.
Trusted boundary: none
Main exports: EightDecimals, eightDecimals_satsToBtcString, btcToSats_satsToBtcString,
  amountTexts_roundTrip
-/
import TallyKeep.Adapters.BtcAmounts

namespace TallyKeep

/-- A number, negative or not, with a point and exactly eight digits after it. -/
def EightDecimals (text : String) : Prop :=
  ∃ sign whole fraction : List Char, text.toList = sign ++ whole ++ ['.'] ++ fraction ∧
    (sign = [] ∨ sign = ['-']) ∧ whole ≠ [] ∧ (∀ c ∈ whole, c.isDigit = true) ∧
    fraction.length = 8 ∧ ∀ c ∈ fraction, c.isDigit = true

theorem digit_of_mem_toDigits {n : Nat} {c : Char} (member : c ∈ Nat.toDigits 10 n) :
    c.isDigit = true :=
  Nat.isDigit_of_mem_toDigits (by decide) (by decide) member

theorem not_point_of_isDigit {c : Char} (digit : c.isDigit = true) : (c != '.') = true := by
  rw [bne_iff_ne]
  rintro rfl
  exact absurd digit (by decide)

theorem digit_of_mem_zeroPadded {width n : Nat} {c : Char} (member : c ∈ zeroPadded width n) :
    c.isDigit = true := by
  rcases List.mem_append.mp member with padding | digit
  · rw [List.eq_of_mem_replicate padding]
    rfl
  · exact digit_of_mem_toDigits digit

/-- A number that fits the width is padded to it. -/
theorem length_zeroPadded (n : Nat) : (zeroPadded 8 (n % 100000000)).length = 8 := by
  have fits : n % 100000000 < 10 ^ 8 := Nat.mod_lt _ (by decide)
  have short := (Nat.length_toDigits_le_iff (by decide) (by decide)).mpr fits
  rw [zeroPadded, List.length_append, List.length_replicate]
  omega

theorem digitsValue?_toDigits (n : Nat) : digitsValue? (Nat.toDigits 10 n) = some n := by
  have digits : (Nat.toDigits 10 n).all Char.isDigit = true :=
    List.all_eq_true.mpr fun _ => digit_of_mem_toDigits
  rw [digitsValue?, if_pos ⟨Nat.toDigits_ne_nil, digits⟩, Nat.ofDigitChars_ten_toDigits]

/-- Zeros in front do not change the number. -/
theorem digitsValue?_zeroPadded (width n : Nat) : digitsValue? (zeroPadded width n) = some n := by
  have digits : (zeroPadded width n).all Char.isDigit = true :=
    List.all_eq_true.mpr fun _ => digit_of_mem_zeroPadded
  have nonempty : zeroPadded width n ≠ [] :=
    List.append_ne_nil_of_right_ne_nil _ Nat.toDigits_ne_nil
  rw [digitsValue?, if_pos ⟨nonempty, digits⟩, zeroPadded, Nat.ofDigitChars_append,
    Nat.ofDigitChars_replicate_zero, Nat.mul_zero, Nat.ofDigitChars_ten_toDigits]

theorem pyInt_minus {digits : List Char} {n : Nat} (value : digitsValue? digits = some n) :
    pyInt ('-' :: digits) = .ok (-Int.ofNat n) := by
  simp only [pyInt, value, Option.map_some]

/-- A text of digits has no sign. -/
theorem pyInt_plain {digits : List Char} {n : Nat} (value : digitsValue? digits = some n) :
    pyInt digits = .ok (Int.ofNat n) := by
  have unsigned : ∀ c rest, digits = c :: rest → c.isDigit = true := by
    rintro c rest rfl
    rw [digitsValue?] at value
    split at value
    · rename_i legal
      exact List.all_eq_true.mp legal.2 c List.mem_cons_self
    · cases value
  unfold pyInt
  split
  · exact absurd (unsigned _ _ rfl) (by decide)
  · exact absurd (unsigned _ _ rfl) (by decide)
  · rw [value]
    rfl

/-- The point splits the text of an amount. -/
theorem partitionPoint_append {integer fraction : List Char}
    (plain : ∀ c ∈ integer, (c != '.') = true) :
    partitionPoint (integer ++ ['.'] ++ fraction) = (integer, fraction) := by
  rw [List.append_assoc, partitionPoint, List.takeWhile_append_of_pos plain,
    List.dropWhile_append_of_pos plain]
  simp

/-- The text of an amount has eight decimals. -/
theorem eightDecimals_satsToBtcString (sats : Int) : EightDecimals (satsToBtcString sats) := by
  refine ⟨if sats < 0 then ['-'] else [], Nat.toDigits 10 (sats.natAbs / 100000000),
    zeroPadded 8 (sats.natAbs % 100000000), String.toList_ofList, ?_, Nat.toDigits_ne_nil,
    fun _ => digit_of_mem_toDigits, ?_, fun _ => digit_of_mem_zeroPadded⟩
  · split
    · exact .inr rfl
    · exact .inl rfl
  · exact length_zeroPadded _

theorem not_minus_of_digits {digits : List Char} (legal : ∀ c ∈ digits, c.isDigit = true) :
    digits.head? ≠ some '-' := by
  intro first
  exact absurd (legal '-' (List.mem_of_mem_head? first)) (by decide)

/-- The fraction of an amount needs no more zeros. -/
theorem take_zeroPadded (n : Nat) :
    (zeroPadded 8 (n % 100000000) ++ List.replicate 8 '0').take 8 = zeroPadded 8 (n % 100000000) := by
  have length := length_zeroPadded n
  rw [List.take_append_of_le_length length.ge, List.take_of_length_le length.le]

/-- The text of an amount reads back as the amount. -/
theorem btcToSats_satsToBtcString {formatted : String → Except PyError String} {sats : Int}
    (same : formatted (satsToBtcString sats) = .ok (satsToBtcString sats)) :
    NodeAdapter.btcToSats formatted (satsToBtcString sats) = .ok sats := by
  have whole := digitsValue?_toDigits (sats.natAbs / 100000000)
  have fraction := pyInt_plain (digitsValue?_zeroPadded 8 (sats.natAbs % 100000000))
  have digits : ∀ c ∈ Nat.toDigits 10 (sats.natAbs / 100000000), (c != '.') = true :=
    fun c member => not_point_of_isDigit (digit_of_mem_toDigits member)
  rw [NodeAdapter.btcToSats, same, satsToBtcString]
  simp only [bind, Except.bind, String.toList_ofList]
  by_cases negative : sats < 0
  · -- also between -1 BTC and 0, where only the text `-0` carries the sign
    have plain : ∀ c ∈ '-' :: Nat.toDigits 10 (sats.natAbs / 100000000), (c != '.') = true :=
      List.forall_mem_cons.mpr ⟨rfl, digits⟩
    rw [if_pos negative, List.singleton_append, partitionPoint_append plain]
    simp only [take_zeroPadded, fraction, pyInt_minus whole, List.head?_cons, if_true]
    refine congrArg Except.ok ?_
    simp only [Int.natAbs_neg, Int.natAbs_natCast, Int.ofNat_eq_natCast]
    omega
  · have first := not_minus_of_digits fun c member =>
      digit_of_mem_toDigits (n := sats.natAbs / 100000000) member
    rw [if_neg negative, List.nil_append, partitionPoint_append digits]
    simp only [take_zeroPadded, fraction, pyInt_plain whole, first, if_false]
    refine congrArg Except.ok ?_
    simp only [Int.natAbs_natCast, Int.ofNat_eq_natCast]
    omega

/-- Every amount survives its text, and both copies read every text alike. -/
theorem amountTexts_roundTrip (formatted : String → Except PyError String) :
    (∀ sats : Int, EightDecimals (satsToBtcString sats) ∧
      (formatted (satsToBtcString sats) = .ok (satsToBtcString sats) →
        NodeAdapter.btcToSats formatted (satsToBtcString sats) = .ok sats)) ∧
    ∀ btc : String, ChainProcessing.btcToSats formatted btc =
      NodeAdapter.btcToSats formatted btc :=
  ⟨fun sats => ⟨eightDecimals_satsToBtcString sats, btcToSats_satsToBtcString⟩, fun _ => rfl⟩

/-- The smallest negative amount. -/
theorem amountTexts_roundTrip_one :
    NodeAdapter.btcToSats .ok (satsToBtcString (-1)) = .ok (-1) :=
  ((amountTexts_roundTrip .ok).1 (-1)).2 rfl

end TallyKeep
