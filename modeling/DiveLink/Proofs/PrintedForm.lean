import DiveLink.Proofs.Hexadecimal
import Mathlib.Data.List.Induction

/-!
# What is read as a fingerprint

A fingerprint is printed as eight digits. Such digits can be read, in either case and with blanks
around them, and so can a text of nothing but blanks, which stands for no dive. Every other text is
refused for one of three reasons, which are looked for in a fixed order.

1. `Hex.IsDigit` are the digits as characters, `Hex.IsDigitByte` as bytes. `Hex.isDigit_of_bytes`: no
   other character is made of such bytes.
2. `Hex.exists_decode_of_digits` and `Hex.decodePairs_of_stray` are what comes of digits in pairs, and
   of pairs with something else among them.
3. `Fingerprint.Refused` are the reasons, `Fingerprint.empty_or_spelled_or_refused`: there is one
   wherever nothing can be read.
4. `Fingerprint.ofText_eq_ok_iff` and `Fingerprint.ofText_eq_error_iff` say what is read and what is
   refused, and `Fingerprint.ofText_exact` puts this together.
-/

namespace DiveLink

/-! ## §1 Digits in either case -/

/-- The bytes of a character are not the start of those of another one. -/
theorem Utf8.eq_of_append {c d : Char} {rest : Bytes}
    (h : String.utf8EncodeChar c = String.utf8EncodeChar d ++ rest) : c = d := by
  have hc := ByteArray.utf8DecodeChar?_utf8EncodeChar_append (b := ByteArray.empty) (c := c)
  have hd := ByteArray.utf8DecodeChar?_utf8EncodeChar_append (b := rest.toByteArray) (c := d)
  rw [← List.toByteArray_append, ← h] at hd
  rw [ByteArray.append_empty, hd] at hc
  exact (Option.some.inj hc).symm

namespace Hex

/-- The digits, those above nine in either case. -/
def digits : List Char :=
  ['0', '1', '2', '3', '4', '5', '6', '7', '8', '9', 'A', 'B', 'C', 'D', 'E', 'F',
    'a', 'b', 'c', 'd', 'e', 'f']

/-- Whether a character is a digit. -/
def IsDigit (c : Char) : Prop := c ∈ digits

instance : DecidablePred IsDigit := fun c => inferInstanceAs (Decidable (c ∈ digits))

/-- Whether a byte is one of those that digits are written as. -/
def IsDigitByte (byte : UInt8) : Prop := byte ∈ digits.flatMap String.utf8EncodeChar

instance : DecidablePred IsDigitByte :=
  fun byte => inferInstanceAs (Decidable (byte ∈ digits.flatMap String.utf8EncodeChar))

/-- A digit is one byte, and its value is written as that digit in upper case. -/
theorem IsDigit.exists_byte {c : Char} (h : IsDigit c) :
    ∃ byte n, String.utf8EncodeChar c = [byte] ∧ value? byte = some n ∧
      upperDigit n = c.toUpper := by
  simp only [IsDigit, digits, List.mem_cons, List.not_mem_nil, or_false] at h
  obtain rfl | rfl | rfl | rfl | rfl | rfl | rfl | rfl | rfl | rfl | rfl | rfl | rfl | rfl | rfl |
    rfl | rfl | rfl | rfl | rfl | rfl | rfl := h
  all_goals exact ⟨_, _, rfl, rfl, rfl⟩

theorem isDigitByte_iff {byte : UInt8} : IsDigitByte byte ↔ ∃ n, value? byte = some n := by
  have hbytes : digits.flatMap String.utf8EncodeChar = [48, 49, 50, 51, 52, 53, 54, 55, 56, 57,
      65, 66, 67, 68, 69, 70, 97, 98, 99, 100, 101, 102] := rfl
  rw [IsDigitByte, hbytes, ← Option.isSome_iff_exists, value?]
  simp only [List.mem_cons, List.not_mem_nil, or_false, ← UInt8.toNat_inj, UInt8.reduceToNat]
  split_ifs
  all_goals
    simp only [Option.isSome_some, Option.isSome_none, Bool.false_eq_true, iff_true, iff_false]
    omega

theorem value?_lt {byte : UInt8} {n : Nat} (h : value? byte = some n) : n < 16 := by
  unfold value? at h
  dsimp only at h
  split_ifs at h
  all_goals
    have hvalue := Option.some.inj h
    omega

/-- A character all bytes of which are those of digits is a digit. -/
theorem isDigit_of_bytes {c : Char} (h : ∀ byte ∈ String.utf8EncodeChar c, IsDigitByte byte) :
    IsDigit c := by
  obtain ⟨first, rest, hbytes⟩ :=
    List.exists_cons_of_ne_nil (String.utf8EncodeChar_ne_nil (c := c))
  have hfirst : IsDigitByte first := h first (by rw [hbytes]; exact List.mem_cons_self)
  obtain ⟨d, hd, hmem⟩ := List.mem_flatMap.mp hfirst
  obtain ⟨byte, _, hbyte, -⟩ := IsDigit.exists_byte hd
  rw [hbyte, List.mem_singleton] at hmem
  -- the first byte is the whole of a digit already
  have happend : String.utf8EncodeChar c = String.utf8EncodeChar d ++ rest := by
    rw [hbytes, hbyte, hmem]
    rfl
  rw [Utf8.eq_of_append happend]
  exact hd

section

variable {core : String}

theorem isDigit_of_mem_bytes (h : ∀ byte ∈ Utf8.bytes core, IsDigitByte byte) :
    ∀ c ∈ core.toList, IsDigit c := fun c hc =>
  isDigit_of_bytes fun byte hbyte => h byte (List.mem_flatMap.mpr ⟨c, hc, hbyte⟩)

/-- A text of digits has as many bytes as digits. -/
theorem length_bytes_of_digits (h : ∀ c ∈ core.toList, IsDigit c) :
    (Utf8.bytes core).length = core.length := by
  rw [Utf8.bytes, ← String.length_toList]
  -- on the characters, each of which is one byte
  revert h
  induction core.toList with
  | nil => exact fun _ => rfl
  | cons c rest ih =>
    intro h
    obtain ⟨hc, hrest⟩ := List.forall_mem_cons.mp h
    obtain ⟨byte, _, hbyte, -⟩ := hc.exists_byte
    rw [List.flatMap_cons, hbyte, List.length_append, ih hrest, List.length_cons, Nat.add_comm]
    rfl

end

/-! ## §2 Pairs of digits -/

/-- **Digits in pairs are read, and what was read is written as they are in upper case.** -/
theorem exists_decodePairs {text : List Char} (hdigits : ∀ c ∈ text, IsDigit c)
    (heven : text.length % 2 = 0) (place : Nat) :
    ∃ data, decodePairs place (text.flatMap String.utf8EncodeChar) = .ok data ∧
      encode upperDigit data = text.map Char.toUpper := by
  -- on the pairs of digits
  induction text using List.twoStepInduction generalizing place with
  | nil => exact ⟨[], rfl, rfl⟩
  | singleton c => simp at heven
  | cons_cons high low rest ih =>
    simp only [List.forall_mem_cons] at hdigits
    obtain ⟨hhigh, hlow, hrest⟩ := hdigits
    obtain ⟨first, h, hfirst, hh, hhupper⟩ := hhigh.exists_byte
    obtain ⟨second, l, hsecond, hl, hlupper⟩ := hlow.exists_byte
    simp only [List.length_cons] at heven
    obtain ⟨data, hdata, hupper⟩ := ih hrest (by omega) (place + 2)
    -- the halves of the byte are the two values
    have hhlt := value?_lt hh
    have hllt := value?_lt hl
    have hbyte : (UInt8.ofNat (16 * h + l)).toNat = 16 * h + l := by
      rw [UInt8.toNat_ofNat']
      omega
    have hhalves : (16 * h + l) / 16 = h ∧ (16 * h + l) % 16 = l := by omega
    refine ⟨UInt8.ofNat (16 * h + l) :: data, ?_, ?_⟩
    · rw [List.flatMap_cons, List.flatMap_cons, hfirst, hsecond]
      simp only [List.cons_append, List.nil_append, decodePairs_cons hh hl, hdata]
      rfl
    · rw [encode, hbyte, hhalves.1, hhalves.2, hhupper, hlupper, hupper]
      rfl

theorem exists_decode_of_digits {core : String} (hdigits : ∀ c ∈ core.toList, IsDigit c)
    (heven : core.length % 2 = 0) :
    ∃ data, decode core = .ok data ∧ upper data = core.toUpper ∧
      core.length = 2 * data.length := by
  have hlength : (Utf8.bytes core).length % 2 ≠ 1 := by
    rw [length_bytes_of_digits hdigits]
    omega
  rw [← String.length_toList] at heven
  obtain ⟨data, hdata, hupper⟩ := exists_decodePairs hdigits heven 0
  refine ⟨data, ?_, ?_, ?_⟩
  · rw [decode, decodeBytes, if_neg hlength]
    exact hdata
  · rw [upper, hupper, String.toUpper, ← String.toList_map, String.ofList_toList]
  · rw [← length_encode upperDigit, hupper, List.length_map, String.length_toList]

/-- **In pairs with something else among them the first such byte is refused.** -/
theorem decodePairs_of_stray {before after : Bytes} {byte : UInt8}
    (hbefore : ∀ digit ∈ before, IsDigitByte digit) (hbyte : ¬ IsDigitByte byte)
    (heven : (before ++ byte :: after).length % 2 = 0) (place : Nat) :
    decodePairs place (before ++ byte :: after) =
      .error (.notADigit byte (place + before.length)) := by
  have hnone : value? byte = none :=
    Option.eq_none_iff_forall_ne_some.mpr fun n hn => hbyte (isDigitByte_iff.mpr ⟨n, hn⟩)
  -- it is the first or the second of a pair, or there are pairs of digits in front
  induction before using List.twoStepInduction generalizing place with
  | nil =>
    cases after with
    | nil => simp at heven
    | cons low rest =>
      simp only [List.nil_append, decodePairs, digitAt, hnone]
      rfl
  | singleton high =>
    obtain ⟨h, hh⟩ := isDigitByte_iff.mp (hbefore high List.mem_cons_self)
    simp only [List.cons_append, List.nil_append, decodePairs, digitAt, hh, hnone]
    rfl
  | cons_cons high low rest ih =>
    simp only [List.forall_mem_cons] at hbefore
    obtain ⟨hhigh, hlow, hrest⟩ := hbefore
    obtain ⟨h, hh⟩ := isDigitByte_iff.mp hhigh
    obtain ⟨l, hl⟩ := isDigitByte_iff.mp hlow
    simp only [List.cons_append, List.length_cons] at heven ⊢
    rw [decodePairs_cons hh hl, ih hrest (by omega), Except.map]
    congr 2
    omega

theorem exists_first_stray {data : Bytes} (h : ¬ ∀ byte ∈ data, IsDigitByte byte) :
    ∃ before byte after, data = before ++ byte :: after ∧
      (∀ digit ∈ before, IsDigitByte digit) ∧ ¬ IsDigitByte byte := by
  induction data with
  | nil => simp at h
  | cons first rest ih =>
    by_cases hfirst : IsDigitByte first
    · obtain ⟨before, byte, after, rfl, hbefore, hbyte⟩ := ih (by simpa [hfirst] using h)
      exact ⟨first :: before, byte, after, rfl, List.forall_mem_cons.mpr ⟨hfirst, hbefore⟩, hbyte⟩
    · exact ⟨[], first, rest, rfl, by simp, hfirst⟩

end Hex

/-! ## §3 Reasons -/

namespace Fingerprint

/-- Whether a text is eight digits, in either case. -/
def Spelled (core : String) : Prop :=
  core.length = 8 ∧ ∀ c ∈ core.toList, Hex.IsDigit c

/-- The reasons for which the bytes of a text are refused. -/
inductive Refused (data : Bytes) : ArgumentFault → Prop where
  /-- Bytes that do not pair up are refused, whatever they are. -/
  | odd (hodd : data.length % 2 = 1) : Refused data (.fingerprintText .oddLength)
  /-- Then comes the first of them that is not a digit, with its place. -/
  | stray {before after : Bytes} {byte : UInt8} (heven : data.length % 2 = 0)
      (hdata : data = before ++ byte :: after)
      (hbefore : ∀ digit ∈ before, Hex.IsDigitByte digit) (hbyte : ¬ Hex.IsDigitByte byte) :
      Refused data (.fingerprintText (.notADigit byte before.length))
  /-- The number of bytes that the digits make matters last. -/
  | size (size : Nat) (hdigits : ∀ byte ∈ data, Hex.IsDigitByte byte)
      (hlength : data.length = 2 * size) (hsome : size ≠ 0) (hfour : size ≠ 4) :
      Refused data (.fingerprintSize size)

/-- **What is neither nothing nor eight digits is refused.** -/
theorem empty_or_spelled_or_refused (core : String) :
    core = "" ∨ Spelled core ∨ ∃ cause, Refused (Utf8.bytes core) cause := by
  -- the tests in the order in which a text is refused: pairs, digits, size
  by_cases heven : (Utf8.bytes core).length % 2 = 0
  · by_cases hbytes : ∀ byte ∈ Utf8.bytes core, Hex.IsDigitByte byte
    · have hdigits := Hex.isDigit_of_mem_bytes hbytes
      have hlength := Hex.length_bytes_of_digits hdigits
      by_cases hempty : core.length = 0
      · exact .inl (String.length_eq_zero_iff.mp hempty)
      · by_cases height : core.length = 8
        · exact .inr (.inl ⟨height, hdigits⟩)
        · exact .inr (.inr ⟨_, .size (core.length / 2) hbytes (by omega) (by omega) (by omega)⟩)
    · obtain ⟨before, byte, after, hdata, hbefore, hbyte⟩ := Hex.exists_first_stray hbytes
      exact .inr (.inr ⟨_, .stray heven hdata hbefore hbyte⟩)
  · exact .inr (.inr ⟨_, .odd (by omega)⟩)

section

variable {text core : String} (hcore : String.ofList (Blank.trim text.toList) = core)

include hcore

theorem ofText_of_decode {data : Bytes} (h : Hex.decode core = .ok data) :
    ofText text = ofBytes data := by
  rw [ofText, hcore, h]

theorem ofText_of_empty (h : core = "") : ofText text = .ok none := by
  have hdecode : Hex.decode core = .ok [] := by
    rw [h]
    rfl
  rw [ofText_of_decode hcore hdecode]
  rfl

theorem ofText_of_spelled (h : Spelled core) :
    ∃ fingerprint, ofText text = .ok fingerprint ∧ fingerprint.text = core.toUpper := by
  obtain ⟨height, hdigits⟩ := h
  obtain ⟨data, hdata, hupper, hlength⟩ := Hex.exists_decode_of_digits hdigits (by rw [height])
  have hfour : data.length = 4 := by omega
  refine ⟨⟨Word.front data⟩, ?_, ?_⟩
  · rw [ofText_of_decode hcore hdata, ofBytes, if_neg (by omega), if_pos hfour]
  · rw [Fingerprint.text, toBytes, Word.toBytes_front hfour, hupper]

theorem ofText_of_refused {cause : ArgumentFault} (h : Refused (Utf8.bytes core) cause) :
    ofText text = .error (.invalidArgument cause) := by
  cases h with
  | odd hodd => rw [ofText, hcore, Hex.decode, Hex.decodeBytes, if_pos hodd]
  | stray heven hdata hbefore hbyte =>
    rw [ofText, hcore, Hex.decode, Hex.decodeBytes, if_neg (by omega), hdata,
      Hex.decodePairs_of_stray hbefore hbyte (hdata ▸ heven), Nat.zero_add]
  | size size hbytes hsize hsome hfour =>
    -- the digits are decoded, but they make more or fewer than four bytes
    have hdigits := Hex.isDigit_of_mem_bytes hbytes
    rw [Hex.length_bytes_of_digits hdigits] at hsize
    obtain ⟨data, hdata, -, hlength⟩ := Hex.exists_decode_of_digits hdigits (by omega)
    obtain rfl : data.length = size := by omega
    rw [ofText_of_decode hcore hdata, ofBytes, if_neg hsome, if_neg hfour]

/-! ## §4 Reading -/

theorem exists_ofText_iff :
    (∃ fingerprint, ofText text = .ok fingerprint) ↔ core = "" ∨ Spelled core := by
  constructor
  · -- a text that is read was not refused
    rintro ⟨fingerprint, hread⟩
    rcases empty_or_spelled_or_refused core with hempty | hspelled | ⟨cause, hrefused⟩
    · exact .inl hempty
    · exact .inr hspelled
    · rw [ofText_of_refused hcore hrefused] at hread
      cases hread
  · rintro (hempty | hspelled)
    · exact ⟨none, ofText_of_empty hcore hempty⟩
    · obtain ⟨fingerprint, hread, -⟩ := ofText_of_spelled hcore hspelled
      exact ⟨fingerprint, hread⟩

theorem ofText_eq_ok_iff {fingerprint : Fingerprint} : ofText text = .ok fingerprint ↔
    core = "" ∧ fingerprint = none ∨ Spelled core ∧ fingerprint.text = core.toUpper := by
  constructor
  · intro hread
    rcases (exists_ofText_iff hcore).mp ⟨fingerprint, hread⟩ with hempty | hspelled
    · rw [ofText_of_empty hcore hempty] at hread
      exact .inl ⟨hempty, (Except.ok.inj hread).symm⟩
    · obtain ⟨other, hother, htext⟩ := ofText_of_spelled hcore hspelled
      rw [hother] at hread
      obtain rfl := Except.ok.inj hread
      exact .inr ⟨hspelled, htext⟩
  · rintro (⟨hempty, rfl⟩ | ⟨hspelled, htext⟩)
    · exact ofText_of_empty hcore hempty
    · -- what is printed alike is the same fingerprint
      obtain ⟨other, hother, hother_text⟩ := ofText_of_spelled hcore hspelled
      rw [hother, text_injective (htext.trans hother_text.symm)]

theorem ofText_eq_error_iff {fault : Fault} : ofText text = .error fault ↔
    ∃ cause, fault = .invalidArgument cause ∧ Refused (Utf8.bytes core) cause := by
  constructor
  · intro hread
    rcases empty_or_spelled_or_refused core with hempty | hspelled | ⟨cause, hrefused⟩
    · rw [ofText_of_empty hcore hempty] at hread
      cases hread
    · obtain ⟨other, hother, -⟩ := ofText_of_spelled hcore hspelled
      rw [hother] at hread
      cases hread
    · rw [ofText_of_refused hcore hrefused] at hread
      exact ⟨cause, (Except.error.inj hread).symm, hrefused⟩
  · rintro ⟨cause, rfl, hrefused⟩
    exact ofText_of_refused hcore hrefused

end

/-- **What is read as a fingerprint is what one is printed as, in either case and with blanks around
it.** The blanks at both ends of a text do not count. A text is read exactly if nothing is left,
which stands for no dive, or eight digits are, and then the fingerprint is printed as these digits in
upper case. Every other text is refused as an argument: first if its bytes do not pair up, then for
the first byte that is not a digit, with its place, and last for the number of bytes that its digits
make. A fingerprint that was printed, or given as bytes, is read as what it was. -/
theorem ofText_exact (text : String) :
    let core := String.ofList (Blank.trim text.toList)
    (∀ other, Blank.Trimmed text.toList other ↔ other = core.toList) ∧
      ((∃ fingerprint, ofText text = .ok fingerprint) ↔ core = "" ∨ Spelled core) ∧
      (∀ fingerprint, ofText text = .ok fingerprint ↔
        core = "" ∧ fingerprint = none ∨ Spelled core ∧ fingerprint.text = core.toUpper) ∧
      (∀ fault, ofText text = .error fault ↔
        ∃ cause, fault = .invalidArgument cause ∧ Refused (Utf8.bytes core) cause) ∧
      (∀ fingerprint, ofText fingerprint.text = .ok fingerprint) ∧
      ∀ fingerprint, ofBytes fingerprint.toBytes = .ok fingerprint := by
  intro core
  refine ⟨?_, exists_ofText_iff rfl, ?_, ?_, ofText_text, ofBytes_toBytes⟩
  · intro other
    rw [← Blank.trim_eq_iff, String.toList_ofList, eq_comm]
  · exact fun _ => ofText_eq_ok_iff rfl
  · exact fun _ => ofText_eq_error_iff rfl

/-- A character may be several bytes, and the first of them is refused at its own place. -/
example : ofText "\u3000 12é5678" =
    .error (.invalidArgument (.fingerprintText (.notADigit 0xC3 2))) := by
  decide

end Fingerprint

end DiveLink
