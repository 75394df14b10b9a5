import DiveLink.Json.Complaint
import DiveLink.Text.Hex

/-!
# Lexemes of JSON

Blanks, words, numerals and strings at the front of a text.

1. `numeral` reads a number, `string` what follows the opening quote of a string.
2. `skipString` passes over a string; it knows the escapes but does not ask what they stand for.
3. `escape_shorter` and `skipEscape_shorter`: escapes use text up, so strings can be read on.
-/

namespace DiveLink.Json

/-! ## §1 Blanks and words -/

def isGap (c : Char) : Bool := c == ' ' || c == '\n' || c == '\t' || c == '\r'

/-- Takes the blanks off the front. -/
def afterGap (text : List Char) : List Char := text.dropWhile isGap

/-- Reads the rest of a word. -/
def word : List Char → List Char → Except Failure (List Char)
  | [], text => .ok text
  | _ :: _, [] => .error (.here .openValue [])
  | c :: cs, d :: rest =>
    if c = d then word cs rest else .error (.next .unknownWord (d :: rest))

/-! ## §2 Numerals -/

/-- Digits at the front of a text, of which there has to be one; where the text ends instead, the
complaint is `atEnd`. -/
def digitRun (atEnd : Complaint) (text : List Char) : Except Failure (Front (List Char)) :=
  match text with
  | [] => .error (.next atEnd [])
  | c :: _ =>
    if c.isDigit then .ok (text.takeWhile Char.isDigit, text.dropWhile Char.isDigit)
    else .error (.next .badNumber text)

/-- The digits before the point. A zero stands alone. -/
def wholeDigits (atEnd : Complaint) : List Char → Except Failure (Front (List Char))
  | '0' :: rest =>
    match rest with
    | c :: _ => if c.isDigit then .error (.next .badNumber rest) else .ok (['0'], rest)
    | [] => .ok (['0'], [])
  | text => digitRun atEnd text

/-- The point and the digits behind it, if a point comes next. -/
def fractionDigits (atEnd : Complaint) : List Char → Except Failure (Front (Option (List Char)))
  | '.' :: rest => do
    let (ds, rest) ← digitRun atEnd rest
    return (some ds, rest)
  | text => .ok (none, text)

/-- The exponent with its sign, if one comes next. -/
def exponentDigits (atEnd : Complaint) (text : List Char) :
    Except Failure (Front (Option (Bool × List Char))) :=
  match text with
  | [] => .ok (none, [])
  | c :: rest =>
    if c = 'e' ∨ c = 'E' then do
      let (below, rest) := match rest with
        | '+' :: rest => (false, rest)
        | '-' :: rest => (true, rest)
        | rest => (false, rest)
      let (ds, rest) ← digitRun atEnd rest
      return (some (below, ds), rest)
    else .ok (none, text)

/-- A numeral whose sign has been read. -/
def unsignedNumeral (atEnd : Complaint) (negative : Bool) (text : List Char) :
    Except Failure (Front Numeral) := do
  let (whole, rest) ← wholeDigits atEnd text
  let (fraction, rest) ← fractionDigits atEnd rest
  let (exponent, rest) ← exponentDigits atEnd rest
  return (⟨negative, whole, fraction, exponent⟩, rest)

def numeral (atEnd : Complaint) : List Char → Except Failure (Front Numeral)
  | '-' :: rest => unsignedNumeral atEnd true rest
  | text => unsignedNumeral atEnd false text

def number (text : List Char) : Except Failure (Front Number) := do
  let (n, rest) ← numeral .openValue text
  match n.number with
  | .ok value => return (value, rest)
  | .error unseen => throw (.here .numberTooLarge (unseen ++ rest))

/-! ## §3 Strings -/

/-- Four hexadecimal digits. Where they are not, four bytes were looked at. -/
def fourDigits (text : List Char) : Except Failure (Front Nat) :=
  match (text.take 4).mapM Hex.charValue? with
  | some [a, b, c, d] => .ok (4096 * a + 256 * b + 16 * c + d, text.drop 4)
  | _ =>
    if byteCount text < 4 then .error (.here .openString [])
    else .error ⟨.badEscape, text, 4, true⟩

/-- Digits do not put text back. -/
theorem fourDigits_shorter {text rest : List Char} {n : Nat}
    (h : fourDigits text = .ok (n, rest)) : rest.length ≤ text.length := by
  unfold fourDigits at h
  split at h
  · simp only [Except.ok.injEq, Prod.mk.injEq] at h
    rw [← h.2, List.length_drop]
    omega
  · split at h <;> simp at h

/-- Whether the code is the first half of a pair. -/
def isFirstHalf (code : Nat) : Bool := 0xD800 ≤ code && code ≤ 0xDBFF

/-- Whether the code is the second half of a pair. -/
def isSecondHalf (code : Nat) : Bool := 0xDC00 ≤ code && code ≤ 0xDFFF

/-- The character that two halves make. -/
def ofHalves (first second : Nat) : Char :=
  Char.ofNat (0x10000 + 0x400 * (first - 0xD800) + (second - 0xDC00))

/-- The second half of a pair, as an escape. -/
def secondHalf (first : Nat) : List Char → Except Failure (Front Char)
  | [] => .error (.here .openString [])
  | ['\\'] => .error (.here .openString [])
  | '\\' :: 'u' :: rest =>
    match fourDigits rest with
    | .error failure => .error failure
    | .ok (second, behind) =>
      if isSecondHalf second then .ok (ofHalves first second, behind)
      else .error (.here .loneSurrogate behind)
  | '\\' :: rest => .error (.next .halfPair rest)
  | text => .error (.next .halfPair text)

/-- The second half of a pair uses text up. -/
theorem secondHalf_shorter {first : Nat} {text rest : List Char} {c : Char}
    (h : secondHalf first text = .ok (c, rest)) : rest.length ≤ text.length := by
  unfold secondHalf at h
  split at h
  · simp at h
  · simp at h
  · split at h
    · simp at h
    · rename_i second behind found
      have := fourDigits_shorter found
      split at h
      · simp only [Except.ok.injEq, Prod.mk.injEq] at h
        rw [← h.2]
        simp only [List.length_cons]
        omega
      · simp at h
  · simp at h
  · simp at h

/-- The character that an escape by code stands for. -/
def codeEscape (text : List Char) : Except Failure (Front Char) :=
  match fourDigits text with
  | .error failure => .error failure
  | .ok (code, rest) =>
    if isSecondHalf code then .error (.here .loneSurrogate rest)
    else if isFirstHalf code then secondHalf code rest
    else .ok (Char.ofNat code, rest)

/-- An escape by code uses text up. -/
theorem codeEscape_shorter {text rest : List Char} {c : Char}
    (h : codeEscape text = .ok (c, rest)) : rest.length ≤ text.length := by
  unfold codeEscape at h
  split at h
  · simp at h
  · rename_i code behind found
    have := fourDigits_shorter found
    split at h
    · simp at h
    · split at h
      · exact Nat.le_trans (secondHalf_shorter h) this
      · simp only [Except.ok.injEq, Prod.mk.injEq] at h
        rw [← h.2]
        exact this

/-- The character that an escape of one letter stands for. -/
def letterEscape? : Char → Option Char
  | '"' => some '"'
  | '\\' => some '\\'
  | '/' => some '/'
  | 'b' => some (Char.ofNat 8)
  | 'f' => some (Char.ofNat 12)
  | 'n' => some '\n'
  | 'r' => some '\r'
  | 't' => some '\t'
  | _ => none

/-- The character that an escape stands for; the backslash has been read. -/
def escape : List Char → Except Failure (Front Char)
  | [] => .error (.here .openString [])
  | c :: rest =>
    if c = 'u' then codeEscape rest
    else match letterEscape? c with
      | some d => .ok (d, rest)
      | none => .error (.next .badEscape (c :: rest))

theorem escape_shorter {text rest : List Char} {c : Char} (h : escape text = .ok (c, rest)) :
    rest.length ≤ text.length := by
  unfold escape at h
  split at h
  · simp at h
  · rename_i letter behind
    split at h
    · have := codeEscape_shorter h
      rw [List.length_cons]
      omega
    · split at h
      · simp only [Except.ok.injEq, Prod.mk.injEq] at h
        rw [← h.2, List.length_cons]
        omega
      · simp at h

/-- Whether a character must not stand in a string. -/
def isControl (c : Char) : Bool := c.toNat < 0x20

/-- Reads on in a string, of which the characters so far are given in reverse. -/
def stringFrom (seen : List Char) (text : List Char) : Except Failure (Front String) :=
  match text with
  | [] => .error (.here .openString [])
  | c :: rest =>
    if c = '"' then .ok (String.ofList seen.reverse, rest)
    else if c = '\\' then
      match h : escape rest with
      | .error failure => .error failure
      | .ok (d, behind) =>
        have := escape_shorter h
        stringFrom (d :: seen) behind
    else if isControl c then .error (.here .controlCharacter rest)
    else stringFrom (c :: seen) rest
termination_by text.length

/-- A string; the opening quote has been read. -/
def string (text : List Char) : Except Failure (Front String) := stringFrom [] text

/-- Passes over an escape; the backslash has been read. -/
def skipEscape : List Char → Except Failure (List Char)
  | [] => .error (.here .openString [])
  | c :: rest =>
    if c = 'u' then (fourDigits rest).map Prod.snd
    else if (letterEscape? c).isSome then .ok rest
    else .error (.next .badEscape (c :: rest))

/-- Passing over an escape uses text up. -/
theorem skipEscape_shorter {text rest : List Char} (h : skipEscape text = .ok rest) :
    rest.length ≤ text.length := by
  unfold skipEscape at h
  split at h
  · simp at h
  · rename_i c behind
    split at h
    · cases found : fourDigits behind with
      | error failure => simp [found, Except.map] at h
      | ok front =>
        obtain ⟨n, others⟩ := front
        simp only [found, Except.map, Except.ok.injEq] at h
        have := fourDigits_shorter found
        rw [← h, List.length_cons]
        omega
    · split at h
      · simp only [Except.ok.injEq] at h
        rw [← h, List.length_cons]
        omega
      · simp at h

/-- Passes over a string; the opening quote has been read. -/
def skipString (text : List Char) : Except Failure (List Char) :=
  match text with
  | [] => .error (.here .openString [])
  | c :: rest =>
    if c = '"' then .ok rest
    else if c = '\\' then
      match h : skipEscape rest with
      | .error failure => .error failure
      | .ok behind =>
        have := skipEscape_shorter h
        skipString behind
    else if isControl c then .error (.here .controlCharacter (c :: rest))
    else skipString rest
termination_by text.length

end DiveLink.Json
