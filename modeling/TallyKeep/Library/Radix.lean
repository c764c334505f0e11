/-
Module: TallyKeep.Library.Radix
Layer: Library
Purpose: Numerals with the most significant digit first, told apart by their leading zeros and their
  value.
Trusted boundary: none
Main exports: value, leadingZeros, numeral, value_numeral, leadingZeros_numeral, numeral_below,
  numeral_of_digits, length_takeWhile_map
-/
import Mathlib.Data.Nat.Digits.Lemmas

namespace Radix

/-- The number that the digits stand for. -/
def value (b : Nat) (digits : List Nat) : Nat := digits.foldl (fun n digit => n * b + digit) 0

/-- How many zeros the digits begin with. -/
def leadingZeros (digits : List Nat) : Nat := (digits.takeWhile fun digit => digit == 0).length

/-- The digits of a number, after some zeros. -/
def numeral (b zeros n : Nat) : List Nat := List.replicate zeros 0 ++ (Nat.digits b n).reverse

variable {b : Nat} {digits : List Nat}

theorem foldl_eq (n : Nat) :
    digits.foldl (fun n digit => n * b + digit) n = n * b ^ digits.length + value b digits := by
  induction digits generalizing n with
  | nil => simp [value]
  | cons digit rest ih =>
      rw [value, List.foldl_cons, List.foldl_cons, ih, ih, List.length_cons, pow_succ]
      ring

theorem value_cons (digit : Nat) (rest : List Nat) :
    value b (digit :: rest) = digit * b ^ rest.length + value b rest := by
  rw [value, List.foldl_cons, foldl_eq, Nat.zero_mul, Nat.zero_add]

theorem value_eq_ofDigits : value b digits = Nat.ofDigits b digits.reverse := by
  induction digits with
  | nil => rfl
  | cons digit rest ih =>
      rw [value_cons, ih, List.reverse_cons, Nat.ofDigits_append, Nat.ofDigits_singleton,
        List.length_reverse, Nat.add_comm, Nat.mul_comm]

theorem value_replicate_append (zeros : Nat) :
    value b (List.replicate zeros 0 ++ digits) = value b digits := by
  induction zeros with
  | zero => rfl
  | succ k ih => rw [List.replicate_succ, List.cons_append, value_cons, ih, Nat.zero_mul, Nat.zero_add]

@[simp] theorem value_numeral (zeros n : Nat) : value b (numeral b zeros n) = n := by
  rw [numeral, value_replicate_append, value_eq_ofDigits, List.reverse_reverse, Nat.ofDigits_digits]

theorem leadingZeros_replicate_append {zeros : Nat}
    (significant : ∀ digit ∈ digits.head?, digit ≠ 0) :
    leadingZeros (List.replicate zeros 0 ++ digits) = zeros := by
  induction zeros with
  | zero =>
      cases digits with
      | nil => rfl
      | cons digit rest =>
          have nonzero : (digit == 0) = false := beq_false_of_ne (significant digit rfl)
          rw [List.replicate_zero, List.nil_append, leadingZeros, List.takeWhile_cons, nonzero]
          rfl
  | succ k ih => exact congrArg Nat.succ ih

@[simp] theorem leadingZeros_numeral (zeros n : Nat) : leadingZeros (numeral b zeros n) = zeros := by
  apply leadingZeros_replicate_append
  intro digit first
  rw [List.head?_reverse] at first
  by_cases nonzero : n = 0
  · subst nonzero
    simp at first
  · have last : (Nat.digits b n).getLast? = some digit := first
    rw [List.getLast?_eq_some_getLast (Nat.digits_ne_nil_iff_ne_zero.mpr nonzero)] at last
    rw [← Option.some.inj last]
    exact Nat.getLast_digit_ne_zero b nonzero

theorem numeral_below (base : 1 < b) {zeros n : Nat} : ∀ digit ∈ numeral b zeros n, digit < b := by
  intro digit member
  rcases List.mem_append.mp member with padding | significant
  · rw [List.eq_of_mem_replicate padding]
    exact Nat.zero_lt_of_lt base
  · exact Nat.digits_lt_base base (List.mem_reverse.mp significant)

/-- Leading zeros, told by the symbols that stand for the digits. -/
theorem length_takeWhile_map {σ : Type*} {symbol : Nat → σ} {isZero : σ → Bool}
    (zero : ∀ digit ∈ digits, isZero (symbol digit) = (digit == 0)) :
    ((digits.map symbol).takeWhile isZero).length = leadingZeros digits := by
  induction digits with
  | nil => rfl
  | cons digit rest ih =>
      obtain ⟨here, restZero⟩ := List.forall_mem_cons.mp zero
      rw [List.map_cons, List.takeWhile_cons, here, leadingZeros, List.takeWhile_cons]
      cases digit == 0 with
      | true => exact congrArg Nat.succ (ih restZero)
      | false => rfl

/-- Digits below the base are the numeral of their zeros and their value. -/
theorem numeral_of_digits (base : 1 < b) (below : ∀ digit ∈ digits, digit < b) :
    numeral b (leadingZeros digits) (value b digits) = digits := by
  induction digits with
  | nil => simp [numeral, leadingZeros, value]
  | cons digit rest ih =>
      have restBelow : ∀ digit ∈ rest, digit < b := fun d member =>
        below d (List.mem_cons_of_mem _ member)
      by_cases zero : digit = 0
      · subst zero
        have same : value b (0 :: rest) = value b rest := by
          rw [value_cons, Nat.zero_mul, Nat.zero_add]
        rw [same]
        exact congrArg (0 :: ·) (ih restBelow)
      · have none : leadingZeros (digit :: rest) = 0 := by
          rw [leadingZeros, List.takeWhile_cons, beq_false_of_ne zero]
          rfl
        rw [none, numeral, List.replicate_zero, List.nil_append, value_eq_ofDigits,
          Nat.digits_ofDigits b base, List.reverse_reverse]
        · exact fun d member => below d (List.mem_reverse.mp member)
        · intro nonempty
          rwa [List.getLast_reverse]

end Radix
