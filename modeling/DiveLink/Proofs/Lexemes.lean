import DiveLink.Json.Tree
import DiveLink.Proofs.Digits

/-!
# Lexemes of JSON are read as they were printed

1. Blanks: `afterGap_append`, whatever blanks stand before a character.
2. Strings: `string_quoted` reads back every string, one printed character at a time
   (`stringFrom_escaped`); the seven characters with an escape of their own, the other control
   characters with an escape by code, and all others as they are.
3. Numbers: `number_digits` reads back every number that fits into sixty-four bits, if what comes
   next does not go on with it (`Follows`).
-/

namespace DiveLink.Json

/-! ## §1 Blanks -/

/-- Nothing but blanks. -/
def IsGap (gap : List Char) : Prop := ∀ c ∈ gap, isGap c = true

theorem isGap_nil : IsGap [] := by simp [IsGap]

theorem afterGap_append {gap : List Char} {c : Char} {rest : List Char} (hgap : IsGap gap)
    (hc : isGap c = false) : afterGap (gap ++ c :: rest) = c :: rest := by
  rw [afterGap, List.dropWhile_append_of_pos hgap,
    List.dropWhile_cons_of_neg (by rw [hc]; decide)]

/-! ## §2 Strings -/

theorem charValue?_lowerDigit {n : Nat} (hn : n < 16) :
    Hex.charValue? (Hex.lowerDigit n) = some n := by
  revert n
  decide

/-- The escape by code of a control character. -/
theorem codeEscape_control {c : Char} {rest : List Char} (hc : isControl c = true) :
    codeEscape ('0' :: '0' :: Hex.lowerDigit (c.toNat / 16) ::
      Hex.lowerDigit (c.toNat % 16) :: rest) = .ok (c, rest) := by
  have hcode : c.toNat < 32 := by simpa [isControl] using hc
  have hzero : Hex.charValue? '0' = some 0 := by decide
  have hdigits : fourDigits ('0' :: '0' :: Hex.lowerDigit (c.toNat / 16) ::
      Hex.lowerDigit (c.toNat % 16) :: rest) = .ok (c.toNat, rest) := by
    simp only [fourDigits, List.take_succ_cons, List.take_zero, List.mapM_cons, List.mapM_nil,
      hzero, charValue?_lowerDigit (show c.toNat / 16 < 16 by omega),
      charValue?_lowerDigit (show c.toNat % 16 < 16 by omega), Option.bind_eq_bind,
      Option.bind_some, Option.pure_def, List.drop_succ_cons, List.drop_zero]
    congr 2
    omega
  -- the code of a control character is no half of a pair
  rw [codeEscape, hdigits]
  have hsecond : isSecondHalf c.toNat = false := by
    simp only [isSecondHalf, Bool.and_eq_false_iff, decide_eq_false_iff_not]
    omega
  have hfirst : isFirstHalf c.toNat = false := by
    simp only [isFirstHalf, Bool.and_eq_false_iff, decide_eq_false_iff_not]
    omega
  simp only [hsecond, hfirst, Bool.false_eq_true, if_false, Char.ofNat_toNat]

/-- An escape gives the character it stands for to the string. -/
theorem stringFrom_escape {seen rest behind : List Char} {c : Char}
    (hescape : escape rest = .ok (c, behind)) :
    stringFrom seen ('\\' :: rest) = stringFrom (c :: seen) behind := by
  rw [stringFrom]
  simp only [Char.reduceEq, if_false, if_true]
  split
  · rename_i failure hfailed
    rw [hescape] at hfailed
    simp at hfailed
  · rename_i d others hread
    rw [hescape] at hread
    simp only [Except.ok.injEq, Prod.mk.injEq] at hread
    rw [hread.1, hread.2]

/-- A printed character gives that character to the string. -/
theorem stringFrom_escaped (seen : List Char) (c : Char) (rest : List Char) :
    stringFrom seen (escaped c ++ rest) = stringFrom (c :: seen) rest := by
  rw [escaped]
  split_ifs with hquote hbackslash hback hfeed hline hreturn htab hcontrol
  case pos => rw [hquote]; exact stringFrom_escape rfl
  case pos => rw [hbackslash]; exact stringFrom_escape rfl
  case pos => rw [hback]; exact stringFrom_escape rfl
  case pos => rw [hfeed]; exact stringFrom_escape rfl
  case pos => rw [hline]; exact stringFrom_escape rfl
  case pos => rw [hreturn]; exact stringFrom_escape rfl
  case pos => rw [htab]; exact stringFrom_escape rfl
  case pos => exact stringFrom_escape (codeEscape_control hcontrol)
  case neg =>
    rw [List.cons_append, List.nil_append, stringFrom, if_neg hquote, if_neg hbackslash,
      if_neg hcontrol]

theorem stringFrom_flatMap (seen cs rest : List Char) :
    stringFrom seen (cs.flatMap escaped ++ '"' :: rest) =
      .ok (String.ofList (seen.reverse ++ cs), rest) := by
  induction cs generalizing seen with
  | nil => rw [List.flatMap_nil, List.nil_append, stringFrom, if_pos rfl, List.append_nil]
  | cons c cs ih =>
    rw [List.flatMap_cons, List.append_assoc, stringFrom_escaped, ih, List.reverse_cons,
      List.append_assoc, List.singleton_append]

/-- Every string is read back; behind its first quote. -/
theorem string_quoted (s : String) (rest : List Char) :
    string (s.toList.flatMap escaped ++ '"' :: rest) = .ok (s, rest) := by
  rw [string, stringFrom_flatMap, List.reverse_nil, List.nil_append, String.ofList_toList]

theorem quoted_append (s : String) (rest : List Char) :
    quoted s ++ rest = '"' :: (s.toList.flatMap escaped ++ '"' :: rest) := by
  simp only [quoted, List.cons_append, List.append_assoc, List.nil_append]

/-! ## §3 Numbers -/

/-- What can come behind a value: the end, or a character that closes or separates. -/
def Follows (rest : List Char) : Prop := ∀ c ∈ rest.head?, c = ',' ∨ c = '\x7d' ∨ c = '\n'

theorem follows_nil : Follows [] := by simp [Follows]

theorem Follows.noDigitNext {rest : List Char} (h : Follows rest) : Decimal.NoDigitNext rest := by
  intro c hc
  rcases h c hc with rfl | rfl | rfl <;> rfl

/-- Nothing of a numeral is left for fraction and exponent. -/
theorem Follows.fractionDigits {rest : List Char} (h : Follows rest) (atEnd : Complaint) :
    fractionDigits atEnd rest = .ok (none, rest) := by
  rw [Json.fractionDigits]
  rintro others rfl
  have := h '.' rfl
  simp at this

theorem Follows.exponentDigits {rest : List Char} (h : Follows rest) (atEnd : Complaint) :
    exponentDigits atEnd rest = .ok (none, rest) := by
  cases rest with
  | nil => rfl
  | cons c rest =>
    have hletter : ¬ (c = 'e' ∨ c = 'E') := by rcases h c rfl with rfl | rfl | rfl <;> decide
    rw [Json.exponentDigits.eq_def]
    exact if_neg hletter

/-- The digits of a number are all of its numeral before the point. -/
theorem wholeDigits_digits (atEnd : Complaint) (n : Nat) {rest : List Char}
    (hrest : Decimal.NoDigitNext rest) :
    wholeDigits atEnd (Decimal.digits n ++ rest) = .ok (Decimal.digits n, rest) := by
  by_cases hzero : n = 0
  · subst hzero
    have hdigits : Decimal.digits 0 = ['0'] := by simp [Decimal.digits, Decimal.digit]
    -- behind a zero in front there must be no other digit
    rw [hdigits, List.cons_append, List.nil_append, wholeDigits.eq_def]
    cases rest with
    | nil => rfl
    | cons c rest =>
      have hc : c.isDigit = false := hrest c rfl
      simp only [hc, Bool.false_eq_true, if_false]
  · obtain ⟨d, ds, hdigits, hd, hdigit⟩ := Decimal.digits_eq_cons hzero
    have hall : ∀ c ∈ d :: ds, c.isDigit = true := by
      rw [← hdigits]
      exact fun _ => Decimal.isDigit_of_mem_digits
    have htake := Decimal.takeWhile_digits hall hrest
    have hdrop := Decimal.dropWhile_digits hall hrest
    rw [hdigits, List.cons_append] at *
    rw [wholeDigits.eq_def]
    split
    · rename_i others heq
      exact absurd (List.cons.inj heq).1 hd
    · rw [digitRun]
      simp only [hdigit, if_true]
      rw [htake, hdrop]

/-- Digits are taken for as long as the number stays within the limit. -/
theorem accumulate_of_le (limit n : Nat) (ds : List Char)
    (hlimit : Nat.ofDigitChars 10 ds n ≤ limit) :
    accumulate limit n ds = (Nat.ofDigitChars 10 ds n, []) := by
  induction ds generalizing n with
  | nil => rfl
  | cons d ds ih =>
    rw [Nat.ofDigitChars_cons] at hlimit ⊢
    -- the digits behind it make the number no smaller
    have hnext : 10 * n + Decimal.digitValue d ≤ limit := by
      rw [Nat.ofDigitChars_eq_ofDigitChars_zero] at hlimit
      have hpower : 0 < 10 ^ ds.length := Nat.pow_pos (by decide)
      have := Nat.le_mul_of_pos_left (10 * n + Decimal.digitValue d) hpower
      exact Nat.le_trans (Nat.le_trans this (Nat.le_add_right _ _)) hlimit
    rw [accumulate, if_neg (Nat.not_lt.mpr hnext)]
    exact ih _ hlimit

theorem accumulate_digits {limit n : Nat} (hlimit : n ≤ limit) :
    accumulate limit 0 (Decimal.digits n) = (n, []) := by
  have hvalue : Nat.ofDigitChars 10 (Decimal.digits n) 0 = n := by
    rw [← Decimal.value_eq_ofDigitChars, Decimal.value_digits]
  rw [accumulate_of_le limit 0 _ (by rw [hvalue]; exact hlimit), hvalue]

/-- A number of sixty-four bits is read back. -/
theorem number_digits {n : Nat} {rest : List Char} (hn : n < UInt64.size) (hrest : Follows rest) :
    number (Decimal.digits n ++ rest) = .ok (.natural n, rest) := by
  have hnumeral : numeral .openValue (Decimal.digits n ++ rest) =
      .ok (⟨false, Decimal.digits n, none, none⟩, rest) := by
    have hunsigned : unsignedNumeral .openValue false (Decimal.digits n ++ rest) =
        .ok (⟨false, Decimal.digits n, none, none⟩, rest) := by
      rw [unsignedNumeral, wholeDigits_digits _ n hrest.noDigitNext]
      simp only [bind, Except.bind, hrest.fractionDigits, hrest.exponentDigits]
      rfl
    -- a digit is no minus sign
    obtain ⟨d, ds, hcons⟩ := List.exists_cons_of_ne_nil (Decimal.digits_ne_nil n)
    have hdigit : d.isDigit = true := Decimal.isDigit_of_mem_digits (n := n) (by simp [hcons])
    rw [numeral.eq_def]
    split
    · rename_i others heq
      rw [hcons, List.cons_append] at heq
      rw [(List.cons.inj heq).1] at hdigit
      exact absurd hdigit (by decide)
    · exact hunsigned
  have hvalue : Numeral.number ⟨false, Decimal.digits n, none, none⟩ = .ok (.natural n) := by
    rw [Numeral.number, accumulate_digits (by unfold significandLimit; omega)]
    rfl
  rw [number, hnumeral]
  simp only [bind, Except.bind, hvalue]
  rfl

end DiveLink.Json
