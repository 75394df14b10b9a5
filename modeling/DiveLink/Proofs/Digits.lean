import DiveLink.Text.Decimal
import Mathlib.Data.Nat.Digits.Defs
import Mathlib.Tactic.IntervalCases

/-!
# Digits spell the number they were written for

1. `Decimal.digits` are the digits that the standard library writes, so its lemmas on them hold
   here: `value_digits`, `isDigit_of_mem_digits`, `length_digits_le`.
2. Zeros in front change the width and not the number: `value_padded`, `length_padded`.
3. `NoDigitNext` says that no digit comes next. There digits that were written end:
   `takeWhile_digits`, `dropWhile_digits`.
-/

namespace DiveLink.Decimal

/-! ## §1 Digits -/

theorem digit_eq_digitChar {n : Nat} (hn : n < 10) : digit n = n.digitChar := by
  interval_cases n <;> rfl

theorem digits_eq_toDigits (n : Nat) : digits n = Nat.toDigits 10 n := by
  induction n using Nat.strongRecOn with
  | ind n ih =>
    -- both split off the last digit
    rw [digits, Nat.toDigits_eq_if (by decide)]
    by_cases hn : n < 10
    · rw [if_pos hn, if_pos hn, digit_eq_digitChar hn]
    · rw [if_neg hn, if_neg hn, ih (n / 10) (by omega),
        digit_eq_digitChar (Nat.mod_lt n (by decide))]

theorem value_eq_ofDigitChars (ds : List Char) : value ds = Nat.ofDigitChars 10 ds 0 :=
  Nat.ofDigitChars_eq_foldl.symm

/-- Digits spell the number they were written for. -/
theorem value_digits (n : Nat) : value (digits n) = n := by
  rw [value_eq_ofDigitChars, digits_eq_toDigits, Nat.ofDigitChars_ten_toDigits]

theorem digits_ne_nil (n : Nat) : digits n ≠ [] := by
  rw [digits_eq_toDigits]
  exact Nat.toDigits_ne_nil

theorem isDigit_of_mem_digits {n : Nat} {c : Char} (hc : c ∈ digits n) : c.isDigit = true := by
  rw [digits_eq_toDigits] at hc
  exact Nat.isDigit_of_mem_toDigits (by decide) (by decide) hc

theorem length_digits_le {n width : Nat} (hwidth : 0 < width) (hn : n < 10 ^ width) :
    (digits n).length ≤ width := by
  rw [digits_eq_toDigits]
  exact Nat.toDigits_length 10 n width hwidth hn

/-- A number that is not zero starts with another digit than zero. -/
theorem digits_eq_cons {n : Nat} (hn : n ≠ 0) :
    ∃ d ds, digits n = d :: ds ∧ d ≠ '0' ∧ d.isDigit = true := by
  induction n using Nat.strongRecOn with
  | ind n ih =>
    rw [digits]
    by_cases hsmall : n < 10
    · rw [if_pos hsmall]
      refine ⟨digit n, [], rfl, ?_⟩
      interval_cases n <;> simp_all <;> decide
    · -- a longer number starts as it does without its last digit
      rw [if_neg hsmall]
      obtain ⟨d, ds, hds, hd⟩ := ih (n / 10) (by omega) (by omega)
      exact ⟨d, ds ++ [digit (n % 10)], by rw [hds, List.cons_append], hd⟩

/-! ## §2 Zeros in front -/

theorem value_padded (width n : Nat) : value (padded width n) = n := by
  rw [value_eq_ofDigitChars, padded, Nat.ofDigitChars_append, Nat.ofDigitChars_replicate_zero,
    Nat.mul_zero, ← value_eq_ofDigitChars, value_digits]

theorem isDigit_of_mem_padded {width n : Nat} {c : Char} (hc : c ∈ padded width n) :
    c.isDigit = true := by
  rcases List.mem_append.mp hc with hzero | hdigit
  · rw [List.eq_of_mem_replicate hzero]
    rfl
  · exact isDigit_of_mem_digits hdigit

theorem padded_ne_nil (width n : Nat) : padded width n ≠ [] :=
  List.append_ne_nil_of_right_ne_nil _ (digits_ne_nil n)

theorem length_padded {width n : Nat} (hwidth : 0 < width) (hn : n < 10 ^ width) :
    (padded width n).length = width := by
  have := length_digits_le hwidth hn
  rw [padded, List.length_append, List.length_replicate]
  omega

/-! ## §3 Where digits end -/

/-- No digit comes next. -/
def NoDigitNext (rest : List Char) : Prop := ∀ c ∈ rest.head?, c.isDigit = false

theorem noDigitNext_cons {c : Char} {rest : List Char} (hc : c.isDigit = false) :
    NoDigitNext (c :: rest) := by
  rintro d ⟨⟩
  exact hc

theorem takeWhile_digits {ds rest : List Char} (hds : ∀ c ∈ ds, c.isDigit = true)
    (hrest : NoDigitNext rest) : (ds ++ rest).takeWhile Char.isDigit = ds := by
  rw [List.takeWhile_append_of_pos hds]
  cases rest with
  | nil => exact List.append_nil ds
  | cons c rest => rw [List.takeWhile_cons_of_neg (by rw [hrest c rfl]; decide), List.append_nil]

theorem dropWhile_digits {ds rest : List Char} (hds : ∀ c ∈ ds, c.isDigit = true)
    (hrest : NoDigitNext rest) : (ds ++ rest).dropWhile Char.isDigit = rest := by
  rw [List.dropWhile_append_of_pos hds]
  cases rest with
  | nil => rfl
  | cons c rest => rw [List.dropWhile_cons_of_neg (by rw [hrest c rfl]; decide)]

end DiveLink.Decimal
