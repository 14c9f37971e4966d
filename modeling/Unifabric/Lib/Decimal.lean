import Mathlib

/-!
# Decimal numbers in texts

Go's `%d` and `strconv.Atoi` as far as programs use them to put a number into
a text and to read it back: the digits of a number, the texts which the
expression `[1-9][0-9]*` matches, and the range of the machine integer.
-/

namespace Unifabric.Lib

open List

/-! ## Numbers of the machine -/

/-- The largest value of a 64-bit integer. -/
def maxInt : Nat := 2 ^ 63 - 1

/-- The value of an integer after an overflow. -/
def wrapInt (value : Int) : Int := (value + 2 ^ 63) % 2 ^ 64 - 2 ^ 63

lemma wrapInt_eq_self (low : -2 ^ 63 ≤ value) (high : value < 2 ^ 63) : wrapInt value = value := by
  unfold wrapInt
  omega

/-- Overflows before and after an addition give the same number. -/
lemma wrapInt_add (left right : Int) : wrapInt (wrapInt left + right) = wrapInt (left + right) := by
  unfold wrapInt
  omega

/-! ## Digits -/

/-- The digits of a number, as `%d` prints them. -/
def digits (value : Int) : List Char :=
  match value with
  | .ofNat number => Nat.toDigits 10 number
  | .negSucc number => '-' :: Nat.toDigits 10 (number + 1)

/-- The text matches `[1-9][0-9]*`. -/
def isPositiveDecimal : List Char → Bool
  | [] => false
  | first :: rest => first.isDigit && first != '0' && rest.all Char.isDigit

/-- `strconv.Atoi` of digits; `none` is a value out of range. -/
def atoi (text : List Char) : Option Nat :=
  if Nat.ofDigitChars 10 text 0 ≤ maxInt then
    some (Nat.ofDigitChars 10 text 0)
  else none

lemma digits_natCast (number : Nat) : digits (number : Int) = Nat.toDigits 10 number := rfl

lemma isDigit_of_mem_digits (number : Nat) (member : c ∈ digits (number : Int)) :
    c.isDigit = true :=
  Nat.isDigit_of_mem_toDigits (by omega) (by omega) member

lemma isDigit_of_isPositiveDecimal (positive : isPositiveDecimal text = true) (member : c ∈ text) :
    c.isDigit = true := by
  cases text with
  | nil => simp at member
  | cons first rest =>
    simp only [isPositiveDecimal, Bool.and_eq_true, all_eq_true, bne_iff_ne] at positive
    rcases mem_cons.1 member with rfl | later
    · exact positive.1.1
    · exact positive.2 c later

lemma ofDigitChars_concat (text : List Char) (small : digit < 10) :
    Nat.ofDigitChars 10 (text ++ [digit.digitChar]) 0 =
      10 * Nat.ofDigitChars 10 text 0 + digit := by
  rw [Nat.ofDigitChars_append, Nat.ofDigitChars_cons_digitChar_of_lt_ten small,
    Nat.ofDigitChars_nil]

lemma isPositiveDecimal_toDigits (positive : 0 < number) :
    isPositiveDecimal (Nat.toDigits 10 number) = true := by
  induction number using Nat.strong_induction_on with
  | _ number ih =>
    by_cases small : number < 10
    · rw [Nat.toDigits_of_lt_base small]
      interval_cases number <;> decide
    · rw [Nat.toDigits_of_base_le (by omega) (by omega)]
      have smaller := ih (number / 10) (by omega) (by omega)
      cases shape : Nat.toDigits 10 (number / 10) with
      | nil => simp [shape, isPositiveDecimal] at smaller
      | cons first rest =>
        have last : (number % 10).digitChar.isDigit = true := by
          have bound : number % 10 < 10 := by omega
          generalize number % 10 = digit at bound ⊢
          interval_cases digit <;> decide
        simp only [shape, isPositiveDecimal, cons_append, all_append, Bool.and_eq_true] at smaller ⊢
        exact ⟨smaller.1, smaller.2, by simpa using last⟩

lemma exists_digitChar (isDigit : c.isDigit = true) : ∃ digit < 10, digit.digitChar = c := by
  simp only [Char.isDigit, Bool.and_eq_true, decide_eq_true_eq] at isDigit
  have low : 48 ≤ c.toNat := isDigit.1
  have high : c.toNat ≤ 57 := isDigit.2
  refine ⟨c.toNat - 48, by omega, ?_⟩
  have same : ∀ number, 48 ≤ number → number ≤ 57 →
      (number - 48).digitChar = Char.ofNat number := by
    intro number lower upper
    interval_cases number <;> rfl
  rw [same c.toNat low high, Char.ofNat_toNat]

lemma toDigits_ofDigitChars (positive : isPositiveDecimal text = true) :
    0 < Nat.ofDigitChars 10 text 0 ∧ Nat.toDigits 10 (Nat.ofDigitChars 10 text 0) = text := by
  induction text using reverseRecOn with
  | nil => simp [isPositiveDecimal] at positive
  | append_singleton init last induction =>
    have isDigit : last.isDigit = true := isDigit_of_isPositiveDecimal positive (by simp)
    obtain ⟨digit, small, rfl⟩ := exists_digitChar isDigit
    rw [ofDigitChars_concat init small]
    cases init with
    | nil =>
      have nonzero : digit ≠ 0 := by
        rintro rfl
        simp [isPositiveDecimal, Nat.digitChar] at positive
      rw [Nat.ofDigitChars_nil, Nat.mul_zero, Nat.zero_add, Nat.toDigits_of_lt_base small]
      exact ⟨by omega, rfl⟩
    | cons first rest =>
      have initPositive : isPositiveDecimal (first :: rest) =
          true := by
        simp only [isPositiveDecimal, cons_append, all_append, Bool.and_eq_true] at positive ⊢
        exact ⟨positive.1, positive.2.1⟩
      obtain ⟨above, same⟩ := induction initPositive
      refine ⟨by omega, ?_⟩
      rw [Nat.toDigits_of_base_le (by omega) (by omega)]
      have quotient : (10 * Nat.ofDigitChars 10 (first :: rest) 0 +
          digit) / 10 = Nat.ofDigitChars 10 (first :: rest) 0 := by
        omega
      have remainder : (10 * Nat.ofDigitChars 10 (first :: rest) 0 + digit) % 10 = digit := by omega
      rw [quotient, remainder, same]

/-! ## Reading numbers back -/

/-- Reading the digits of a number of the machine gives the number. -/
lemma atoi_toDigits (bounded : number ≤ maxInt) : atoi (Nat.toDigits 10 number) = some number := by
  simp only [atoi, Nat.ofDigitChars_ten_toDigits, if_pos bounded]

lemma digits_of_atoi (positive : isPositiveDecimal text = true) (read : atoi text = some number) :
    0 < number ∧ number ≤ maxInt ∧ digits (number : Int) = text := by
  simp only [atoi] at read
  split_ifs at read with bounded
  cases read
  obtain ⟨above, same⟩ := toDigits_ofDigitChars positive
  exact ⟨above, bounded, same⟩

lemma toDigits_injective (equal : Nat.toDigits 10 left = Nat.toDigits 10 right) :
    left = right := by
  rw [← @Nat.ofDigitChars_ten_toDigits left, equal, Nat.ofDigitChars_ten_toDigits]

/-! ## Numbers followed by a text -/

lemma takeWhile_isDigit_append (rest : List Char) (isNumber : ∀ c ∈ number, c.isDigit = true)
    (noDigit : stop.isDigit = false) : (number ++ stop :: rest).takeWhile Char.isDigit = number ∧
      (number ++ stop :: rest).dropWhile Char.isDigit = stop :: rest := by
  induction number with
  | nil => simp [noDigit]
  | cons first others ih =>
    have isFirst := isNumber first mem_cons_self
    rcases ih (fun c member =>
      isNumber c (mem_cons_of_mem _ member)) with ⟨taken, dropped⟩
    simp only [cons_append, takeWhile_cons,
      dropWhile_cons, isFirst, if_true, taken, dropped, and_self]

/-- Two numbers followed by the same text which starts without digit. -/
lemma digits_append_injective {left right : Nat} {stop : Char}
    {leftRest rightRest : List Char} (noDigit : stop.isDigit = false)
    (equal : digits (left : Int) ++ stop :: leftRest = digits (right : Int) ++ stop :: rightRest) :
    left = right ∧ leftRest = rightRest := by
  have leftParts := takeWhile_isDigit_append leftRest
    (fun _ member => isDigit_of_mem_digits left member) noDigit
  have rightParts := takeWhile_isDigit_append rightRest
    (fun _ member => isDigit_of_mem_digits right member) noDigit
  rw [equal] at leftParts
  constructor
  · exact toDigits_injective (leftParts.1.symm.trans rightParts.1)
  · have same := leftParts.2.symm.trans rightParts.2
    exact (cons.inj same).2

end Unifabric.Lib
