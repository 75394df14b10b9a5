import DiveLink.Text.Ranges
import DiveLink.Text.Hex

/-!
# Atoms of patterns

The smallest parts of a pattern, and the modes in which they are read.

1. `Modes` are switched within a pattern. In one of them blanks and comments between the parts do
   not count; `gap` passes over them.
2. `Atom` is what stands for one character or for a place between two.
3. `escape` reads an atom behind a backslash.

Tables of the cases of letters, and of the digits, blanks and letters of all scripts, are not at
hand here. An atom that needs one can be read but not used.
-/

namespace DiveLink.Pattern

/-! ## §1 Modes -/

/-- How a pattern is read. -/
structure Modes where
  /-- A letter stands for itself in both cases. -/
  anyCase : Bool
  /-- The pattern is about characters, and not about bytes. -/
  characters : Bool
  /-- Blanks and comments do not count. -/
  spaced : Bool
  deriving DecidableEq, Repr

/-- The modes in which a pattern starts. -/
def Modes.initial : Modes := ⟨false, true, false⟩

/-- The text behind blanks and comments. A comment ends with its line. -/
def skipGap : Bool → List Char → List Char
  | _, [] => []
  | true, c :: rest => skipGap (c ≠ '\n') rest
  | false, c :: rest =>
    if Blank.isBlank c then skipGap false rest
    else if c = '#' then skipGap true rest
    else c :: rest

/-- The text behind blanks and comments, where they do not count. -/
def gap (modes : Modes) (text : List Char) : List Char :=
  if modes.spaced then skipGap false text else text

/-- Nothing is put in front of the text. -/
theorem skipGap_length_le (comment : Bool) (text : List Char) :
    (skipGap comment text).length ≤ text.length := by
  fun_induction skipGap comment text with
  | case1 => simp
  | case2 c rest ih => exact Nat.le_succ_of_le ih
  | case3 c rest _ ih => exact Nat.le_succ_of_le ih
  | case4 rest _ ih => exact Nat.le_succ_of_le ih
  | case5 => simp

/-- Nothing is put in front of the text. -/
theorem gap_length_le (modes : Modes) (text : List Char) :
    (gap modes text).length ≤ text.length := by
  unfold gap
  split
  · exact skipGap_length_le false text
  · exact Nat.le_refl _

/-! ## §2 Atoms -/

/-- The smallest parts of a pattern. -/
inductive Atom where
  /-- A character. Where a pattern is about bytes, one `byCode` of two digits is a byte. -/
  | char (c : Char) (byCode : Bool)
  /-- Any character but the end of a line. -/
  | any
  /-- The digits, the blanks or the characters of words, or all characters but those. -/
  | sort (negated : Bool)
  /-- The start or the end of the text or of a line. -/
  | anchor
  /-- A place where a word starts or ends, or where none does. -/
  | edge
  deriving DecidableEq, Repr

/-- Whether a pattern may have the atom as a part. What stands for bytes must not stand for a part
of a character. -/
def Atom.isPart (modes : Modes) : Atom → Bool
  | char c byCode =>
    if modes.characters then !modes.anyCase else !byCode || decide (c.toNat < 128)
  | any => modes.characters
  | sort negated => !modes.characters && !negated
  | anchor | edge => true

/-- Whether a set of characters may have the atom as a member. -/
def Atom.isMember (modes : Modes) : Atom → Bool
  | char c _ => if modes.characters then !modes.anyCase else c.toNat < 128
  | sort negated => !modes.characters && !negated
  | any | anchor | edge => false

/-! ## §3 Escapes -/

/-- Reads so many hexadecimal digits behind a number. -/
def code (modes : Modes) : Nat → Nat → List Char → Option (Nat × List Char)
  | 0, n, text => some (n, text)
  | count + 1, n, text =>
    match gap modes text with
    | [] => none
    | c :: rest => (Hex.charValue? c).bind fun digit => code modes count (16 * n + digit) rest

/-- Reads a character by its code point. -/
def coded (modes : Modes) (count : Nat) (text : List Char) : Option (Atom × List Char) :=
  match code modes count 0 text with
  | some (n, rest) =>
    if n.isValidChar then some (.char (Char.ofNat n) (count == 2), rest) else none
  | none => none

/-- The control characters that have a letter. -/
def controls : List (Char × Char) :=
  [('a', '\x07'), ('f', '\x0c'), ('n', '\n'), ('r', '\r'), ('t', '\t'), ('v', '\x0b')]

/-- Reads what stands behind a backslash. -/
def escape (modes : Modes) : List Char → Option (Atom × List Char)
  | [] => none
  | c :: rest =>
    if c = 'x' then coded modes 2 rest
    else if c = 'u' then coded modes 4 rest
    else if c = 'U' then coded modes 8 rest
    else if ['d', 's', 'w'].contains c then some (.sort false, rest)
    else if ['D', 'S', 'W'].contains c then some (.sort true, rest)
    else if ['A', 'z'].contains c then some (.anchor, rest)
    else if ['b', 'B', '<', '>'].contains c then some (.edge, rest)
    else match controls.lookup c with
      | some control => some (.char control false, rest)
      | none =>
        if c.toNat < 128 ∧ !c.isAlphanum then some (.char c false, rest) else none

end DiveLink.Pattern
