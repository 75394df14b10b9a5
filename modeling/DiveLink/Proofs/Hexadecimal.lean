import DiveLink.Fingerprint
import Mathlib.Data.List.TakeWhile
import Mathlib.Tactic.IntervalCases

/-!
# A fingerprint that was printed is read as that fingerprint

1. `Hex.decode_upper`: bytes that were written in hexadecimal are read again. So
   `Hex.encode_injective`: other bytes are written otherwise.
2. `Blank.trim_eq_iff`: a trimmed text is what is left without the blanks at both ends.
3. `Fingerprint.ofText_text`: a printed fingerprint is read as what it was.
-/

namespace DiveLink

/-! ## §1 Digits -/

namespace Hex

/-- A digit is written as one byte, and that byte has the value of the digit. -/
theorem exists_byte_upperDigit {n : Nat} (hn : n < 16) :
    ∃ byte, String.utf8EncodeChar (upperDigit n) = [byte] ∧ value? byte = some n := by
  interval_cases n <;> exact ⟨_, rfl, rfl⟩

theorem isBlank_upperDigit {n : Nat} (hn : n < 16) : Blank.isBlank (upperDigit n) = false := by
  interval_cases n <;> rfl

/-- The two halves of a byte are digits. -/
theorem halves_lt (byte : UInt8) : byte.toNat / 16 < 16 ∧ byte.toNat % 16 < 16 := by
  have := byte.toNat_lt
  omega

/-- Only digits are written. -/
theorem exists_of_mem_encode {data : Bytes} {c : Char} (h : c ∈ encode upperDigit data) :
    ∃ n < 16, upperDigit n = c := by
  induction data with
  | nil => simp [encode] at h
  | cons byte rest ih =>
    simp only [encode, List.mem_cons] at h
    rcases h with rfl | rfl | h
    · exact ⟨_, (halves_lt byte).1, rfl⟩
    · exact ⟨_, (halves_lt byte).2, rfl⟩
    · exact ih h

theorem isBlank_of_mem_encode {data : Bytes} {c : Char} (h : c ∈ encode upperDigit data) :
    Blank.isBlank c = false := by
  obtain ⟨n, hn, rfl⟩ := exists_of_mem_encode h
  exact isBlank_upperDigit hn

/-- There are two digits a byte. -/
theorem length_encode (digit : Nat → Char) (data : Bytes) :
    (encode digit data).length = 2 * data.length := by
  induction data with
  | nil => rfl
  | cons byte rest ih =>
    rw [encode, List.length_cons, List.length_cons, ih, List.length_cons]
    omega

/-- The bytes of a text of digits. -/
def digitBytes (data : Bytes) : Bytes :=
  (encode upperDigit data).flatMap String.utf8EncodeChar

theorem digitBytes_cons (byte : UInt8) (rest : Bytes) :
    ∃ high low, digitBytes (byte :: rest) = high :: low :: digitBytes rest ∧
      value? high = some (byte.toNat / 16) ∧ value? low = some (byte.toNat % 16) := by
  obtain ⟨high, hhigh, hhighValue⟩ := exists_byte_upperDigit (halves_lt byte).1
  obtain ⟨low, hlow, hlowValue⟩ := exists_byte_upperDigit (halves_lt byte).2
  refine ⟨high, low, ?_, hhighValue, hlowValue⟩
  rw [digitBytes, encode, List.flatMap_cons, List.flatMap_cons, hhigh, hlow]
  rfl

theorem length_digitBytes (data : Bytes) : (digitBytes data).length = 2 * data.length := by
  induction data with
  | nil => rfl
  | cons byte rest ih =>
    obtain ⟨high, low, hbytes, -⟩ := digitBytes_cons byte rest
    simp only [hbytes, List.length_cons, ih]
    omega

/-- Two digits are one byte, and the rest is read behind them. -/
theorem decodePairs_cons {high low : UInt8} {h l : Nat} (hhigh : value? high = some h)
    (hlow : value? low = some l) (place : Nat) (rest : Bytes) :
    decodePairs place (high :: low :: rest) =
      (decodePairs (place + 2) rest).map (UInt8.ofNat (16 * h + l) :: ·) := by
  simp only [decodePairs, digitAt, hhigh, hlow, bind, Except.bind]
  cases decodePairs (place + 2) rest <;> rfl

theorem decodePairs_digitBytes (data : Bytes) (place : Nat) :
    decodePairs place (digitBytes data) = .ok data := by
  induction data generalizing place with
  | nil => rfl
  | cons byte rest ih =>
    obtain ⟨high, low, hbytes, hhigh, hlow⟩ := digitBytes_cons byte rest
    -- the two halves make the byte again
    have hbyte : UInt8.ofNat (16 * (byte.toNat / 16) + byte.toNat % 16) = byte := by
      rw [Nat.div_add_mod, UInt8.ofNat_toNat]
    rw [hbytes, decodePairs_cons hhigh hlow, ih, hbyte, Except.map]

/-- **Bytes that were written in hexadecimal are read again.** -/
theorem decode_upper (data : Bytes) : decode (upper data) = .ok data := by
  have hdigits : Utf8.bytes (upper data) = digitBytes data := by
    rw [Utf8.bytes, upper, String.toList_ofList, digitBytes]
  rw [decode, hdigits, decodeBytes, if_neg (by rw [length_digitBytes]; omega),
    decodePairs_digitBytes]

theorem encode_injective {data other : Bytes}
    (h : encode upperDigit data = encode upperDigit other) : data = other := by
  have hdata := decode_upper data
  rw [upper, h, ← upper, decode_upper] at hdata
  exact (Except.ok.inj hdata).symm

end Hex

/-! ## §2 Blanks at both ends -/

namespace Blank

/-- What is left of a text without the blanks at both ends. -/
structure Trimmed (text core : List Char) : Prop where
  around : ∃ front back, text = front ++ (core ++ back) ∧ (∀ c ∈ front, isBlank c = true) ∧
    ∀ c ∈ back, isBlank c = true
  head : ∀ c ∈ core.head?, isBlank c = false
  last : ∀ c ∈ core.getLast?, isBlank c = false

theorem exists_trimStart (text : List Char) :
    ∃ front, text = front ++ trimStart text ∧ ∀ c ∈ front, isBlank c = true :=
  ⟨text.takeWhile isBlank, List.takeWhile_append_dropWhile.symm, fun _ => List.mem_takeWhile_imp⟩

theorem isBlank_of_head?_trimStart {text : List Char} {c : Char}
    (h : c ∈ (trimStart text).head?) : isBlank c = false := by
  have hfirst := List.head?_dropWhile_not isBlank text
  rw [trimStart, Option.mem_def] at h
  rw [h] at hfirst
  exact hfirst

theorem trimStart_append {front rest : List Char} (hfront : ∀ c ∈ front, isBlank c = true)
    (hrest : ∀ c ∈ rest.head?, isBlank c = false) : trimStart (front ++ rest) = rest := by
  rw [trimStart, List.dropWhile_append_of_pos hfront, List.dropWhile_eq_self_iff]
  intro hsome
  rw [hrest _ (List.head?_eq_getElem? .. ▸ List.getElem?_eq_getElem hsome)]
  exact Bool.false_ne_true

theorem trimmed_trim (text : List Char) : Trimmed text (trim text) := by
  -- the end is trimmed as a start is, from the other side
  have hcore : trim text = (trimStart (trimStart text).reverse).reverse := rfl
  obtain ⟨front, htext, hfront⟩ := exists_trimStart text
  obtain ⟨back, hrest, hback⟩ := exists_trimStart (trimStart text).reverse
  rw [List.reverse_eq_iff, List.reverse_append, ← hcore] at hrest
  refine ⟨⟨front, back.reverse, ?_, hfront, ?_⟩, ?_, ?_⟩
  · rw [← hrest, ← htext]
  · exact fun c hc => hback c (List.mem_reverse.mp hc)
  · intro c hc
    have hfirst : c ∈ (trimStart text).head? := by
      rw [hrest, List.head?_append, Option.mem_def.mp hc]
      rfl
    exact isBlank_of_head?_trimStart hfirst
  · intro c hc
    rw [hcore, List.getLast?_reverse] at hc
    exact isBlank_of_head?_trimStart hc

/-- **A trimmed text is what is left without the blanks at both ends,** and nothing else is. -/
theorem trim_eq_iff {text core : List Char} : trim text = core ↔ Trimmed text core := by
  constructor
  · rintro rfl
    exact trimmed_trim text
  · rintro ⟨⟨front, back, rfl, hfront, hback⟩, hhead, hlast⟩
    cases core with
    | nil =>
      -- the whole text is blank
      have hall : ∀ c ∈ front ++ back, isBlank c = true :=
        List.forall_mem_append.mpr ⟨hfront, hback⟩
      rw [trim, trimStart, List.nil_append, List.dropWhile_eq_nil_iff.mpr hall]
      rfl
    | cons c core =>
      -- each end is trimmed up to the core, which has no blank there
      have hback : ∀ c ∈ back.reverse, isBlank c = true :=
        fun c hc => hback c (List.mem_reverse.mp hc)
      have hlast : ∀ last ∈ (c :: core).reverse.head?, isBlank last = false := by
        rw [List.head?_reverse]
        exact hlast
      have hstart : trimStart (front ++ (c :: core ++ back)) = c :: core ++ back :=
        trimStart_append hfront hhead
      rw [trim, hstart, trimEnd, List.reverse_append, List.reverse_eq_iff]
      exact trimStart_append hback hlast

theorem trim_of_no_blank {text : List Char} (h : ∀ c ∈ text, isBlank c = false) :
    trim text = text :=
  trim_eq_iff.mpr ⟨⟨[], [], by simp⟩, fun c hc => h c (List.mem_of_mem_head? hc),
    fun c hc => h c (List.mem_of_mem_getLast? hc)⟩

end Blank

/-! ## §3 Fingerprints -/

namespace Fingerprint

theorem ofBytes_toBytes (fingerprint : Fingerprint) :
    ofBytes fingerprint.toBytes = .ok fingerprint := by
  simp only [ofBytes, toBytes, Word.length_toBytes, Word.front_toBytes_self]
  rfl

/-- **A printed fingerprint is read as what it was.** -/
theorem ofText_text (fingerprint : Fingerprint) : ofText fingerprint.text = .ok fingerprint := by
  have htrim : String.ofList (Blank.trim fingerprint.text.toList) = fingerprint.text := by
    rw [text, Hex.upper, String.toList_ofList,
      Blank.trim_of_no_blank fun _ => Hex.isBlank_of_mem_encode]
  rw [ofText, htrim, text, Hex.decode_upper]
  exact ofBytes_toBytes fingerprint

theorem text_injective {fingerprint other : Fingerprint} (h : fingerprint.text = other.text) :
    fingerprint = other := by
  have hread := fingerprint.ofText_text
  rw [h, ofText_text] at hread
  exact (Except.ok.inj hread).symm

end Fingerprint

end DiveLink
