import DiveLink.Pattern.Atom

/-!
# Sets of characters in patterns

A set stands between square brackets. Its members are characters, ranges of characters, sets that
have names, and sets in brackets; operators between them take sets apart.

1. `OpenSet` is a set of which a part has been read.
2. `start` reads the front of a set, `continue` what comes next in it.
-/

namespace DiveLink.Pattern

/-- A set of which a part has been read, as far as it matters how deep its members nest. -/
structure OpenSet where
  /-- How many members have come since the last operator. -/
  count : Nat
  /-- How deep they nest. -/
  depth : Nat
  /-- How deep the set before the last operator nests. -/
  left : Option Nat
  deriving DecidableEq, Repr

namespace OpenSet

def empty : OpenSet := ⟨0, 0, none⟩

/-- The set with a further member that nests so deep. -/
def add (set : OpenSet) (depth : Nat) : OpenSet :=
  { set with count := set.count + 1, depth := max set.depth depth }

/-- How deep the set nests as far as it has been read. -/
def nesting (set : OpenSet) : Nat :=
  let members := if set.count ≤ 1 then set.depth else set.depth + 1
  match set.left with
  | none => members
  | some left => max left members + 1

/-- The set behind an operator. -/
def operate (set : OpenSet) : OpenSet := ⟨0, 0, some set.nesting⟩

/-- The names of sets that have one. -/
def names : List String :=
  ["alnum", "alpha", "ascii", "blank", "cntrl", "digit", "graph", "lower", "print", "punct",
    "space", "upper", "word", "xdigit"]

/-- Reads the name of a set behind its bracket, between colons, and whether all other characters
are meant. -/
def named : List Char → Option (Bool × List Char)
  | ':' :: text =>
    let (negated, text) :=
      match text with
      | '^' :: rest => (true, rest)
      | _ => (false, text)
    match text.dropWhile (· ≠ ':') with
    | ':' :: ']' :: rest =>
      if names.contains (String.ofList (text.takeWhile (· ≠ ':'))) then some (negated, rest)
      else none
    | _ => none
  | _ => none

/-- Takes the hyphens at the front of a set as members. -/
def hyphens (modes : Modes) (set : OpenSet) (text : List Char) : OpenSet × List Char :=
  match text with
  | '-' :: rest => hyphens modes (set.add 0) (gap modes rest)
  | _ => (set, text)
termination_by text.length
decreasing_by
  have := gap_length_le modes rest
  simp
  omega

/-- Reads the front of a set behind its bracket: a caret, then hyphens or a closing bracket that
are members. All bytes but some do not make up characters. -/
def start (modes : Modes) (text : List Char) : Option (OpenSet × List Char) :=
  let text := gap modes text
  let (negated, text) :=
    match text with
    | '^' :: rest => (true, gap modes rest)
    | _ => (false, text)
  let (set, text) := hyphens modes empty text
  let (set, text) :=
    match set.count, text with
    | 0, ']' :: rest => (set.add 0, gap modes rest)
    | _, _ => (set, text)
  if negated && !modes.characters then none
  else if 0 < set.count && !(Atom.char '-' false).isMember modes then none
  else some (set, text)

/-- Reads a member of a set or an end of a range. -/
def item (modes : Modes) : List Char → Option (Atom × List Char)
  | [] => none
  | '\\' :: rest => escape modes rest
  | c :: rest => some (.char c false, rest)

/-- The character behind a hyphen. One number sign in a gap is passed over, but no comment. -/
def peek (modes : Modes) (text : List Char) : Option Char :=
  if modes.spaced then
    match text.dropWhile Blank.isBlank with
    | '#' :: rest => (rest.dropWhile Blank.isBlank).head?
    | rest => rest.head?
  else text.head?

/-- Reads a member of a set that is a character, a sort of characters or a range. A hyphen makes a
range unless a closing bracket or another hyphen follows. -/
def member (modes : Modes) (set : OpenSet) (text : List Char) : Option (OpenSet × List Char) := do
  let (first, text) ← item modes text
  let text := gap modes text
  let single := if first.isMember modes then some (set.add 0, text) else none
  match text with
  | '-' :: rest =>
    if peek modes rest = some ']' ∨ peek modes rest = some '-' then single
    else
      match first, ← item modes (gap modes rest) with
      | .char low _, (.char high byCode, rest) =>
        if first.isMember modes && (Atom.char high byCode).isMember modes && low ≤ high then
          some (set.add 0, rest)
        else none
      | _, _ => none
  | _ => single

/-- Reads on in a set that is not at its end: the sets that stand in its place then, the inner one
first. -/
def read (modes : Modes) (set : OpenSet) (text : List Char) : Option (List OpenSet × List Char) :=
  match text with
  | '&' :: '&' :: rest | '-' :: '-' :: rest | '~' :: '~' :: rest => some ([set.operate], rest)
  | '[' :: rest =>
    match named rest with
    | some (negated, rest) =>
      if (if modes.characters then modes.anyCase else negated) then none
      else some ([set.add 0], rest)
    | none => (start modes rest).map fun (inner, rest) => ([inner, set], rest)
  | _ => (member modes set text).map fun (set, rest) => ([set], rest)

end OpenSet

end DiveLink.Pattern
