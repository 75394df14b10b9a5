import DiveLink.Pattern.CharacterSet
import DiveLink.Text.Ranges

/-!
# Patterns

A pattern stands for a set of texts: characters and sets of characters one after the other,
alternatives between bars, groups in parentheses, and parts that may be repeated. Here it is only
told whether a text is a pattern that can be searched for.

1. `Run` is a sequence of parts that is being read, `Reading` the whole pattern.
2. `check` accepts the patterns that nest at most two hundred and fifty levels deep.
3. `Refusal` is why a text is no pattern. The edges of words are known for bytes only.

A count in braces is not a repetition here, since braces enclose the field that has the pattern.
-/

namespace DiveLink.Pattern

/-! ## §1 Sequences -/

/-- A sequence of parts that is being read, as far as it matters how deep they nest. -/
structure Run where
  /-- How many parts have come since the last bar. -/
  count : Nat
  /-- How deep they nest. -/
  depth : Nat
  /-- How deep the last part nests, if it may be repeated. -/
  last : Option Nat
  /-- How deep the alternatives before the last bar nest. -/
  alternatives : Option Nat
  deriving DecidableEq, Repr

namespace Run

def empty : Run := ⟨0, 0, none, none⟩

/-- The sequence with a further part that nests so deep. -/
def add (run : Run) (depth : Nat) : Run :=
  { run with count := run.count + 1, depth := max run.depth depth, last := some depth }

/-- The sequence with a further part that only switches modes. -/
def addSwitch (run : Run) : Run :=
  { run with count := run.count + 1, last := none }

/-- The sequence with its last part repeated. -/
def repeatLast (run : Run) : Option Run :=
  run.last.map fun depth =>
    { run with depth := max run.depth (depth + 1), last := some (depth + 1) }

/-- How deep the parts since the last bar nest, taken together. -/
def branch (run : Run) : Nat :=
  if run.count ≤ 1 then run.depth else run.depth + 1

/-- The sequence behind a bar. -/
def bar (run : Run) : Run :=
  ⟨0, 0, none, some (max (run.alternatives.getD 0) run.branch)⟩

def nesting (run : Run) : Nat :=
  match run.alternatives with
  | none => run.branch
  | some depth => max depth run.branch + 1

end Run

/-! ## §2 Groups -/

/-- Switches read so far behind a question mark. -/
structure Switches where
  modes : Modes
  /-- What has been read, with the hyphen. -/
  seen : List Char
  deriving DecidableEq, Repr

/-- The modes with one of them switched. Some switches say only what a search finds. -/
def Modes.switch (modes : Modes) (letter : Char) (on : Bool) : Modes :=
  if letter = 'i' then { modes with anyCase := on }
  else if letter = 'u' then { modes with characters := on }
  else if letter = 'x' then { modes with spaced := on }
  else modes

/-- The letters that switch a mode. -/
def switchLetters : List Char := ['i', 'm', 's', 'U', 'u', 'R', 'x']

/-- Reads switches up to the colon or parenthesis behind them. Those behind a hyphen are switched
off; nothing comes twice, and the hyphen does not come last. -/
def switches (now : Switches) : List Char → Option (Switches × Char × List Char)
  | [] => none
  | c :: rest =>
    if c = ':' ∨ c = ')' then
      if now.seen.head? = some '-' then none else some (now, c, rest)
    else if now.seen.contains c then none
    else if c = '-' then switches { now with seen := c :: now.seen } rest
    else if switchLetters.contains c then
      switches ⟨now.modes.switch c (!now.seen.contains '-'), c :: now.seen⟩ rest
    else none

/-- Whether a text can name a group. -/
def isGroupName : List Char → Bool
  | [] => false
  | c :: cs =>
    (c == '_' || Ranges.isAlphabetic c) &&
      cs.all fun d => ['_', '.', '[', ']'].contains d || Ranges.isAlphanumeric d

/-- A pattern that is being read. -/
structure Reading where
  modes : Modes
  run : Run
  /-- The sequences and modes outside the groups that are open, the innermost first. -/
  groups : List (Run × Modes)
  /-- The sets that are open, the innermost first. -/
  sets : List OpenSet
  names : List (List Char)
  /-- Whether an edge of a word between characters has come. -/
  edges : Bool
  deriving DecidableEq, Repr

namespace Reading

def initial : Reading := ⟨.initial, .empty, [], [], [], false⟩

/-- Opens a group in which these modes hold. -/
def openGroup (reading : Reading) (modes : Modes) : Reading :=
  { reading with
    modes := modes, run := .empty, groups := (reading.run, reading.modes) :: reading.groups }

/-- Opens a group with a name, which has to be a new one. -/
def openNamed (reading : Reading) (text : List Char) : Option (Reading × List Char) :=
  let name := text.takeWhile (· ≠ '>')
  match text.dropWhile (· ≠ '>') with
  | [] => none
  | _ :: rest =>
    if isGroupName name && !reading.names.contains name then
      some (({ reading with names := name :: reading.names }).openGroup reading.modes, rest)
    else none

/-- Opens a group, or switches modes up to the end of the group that is open. -/
def group (reading : Reading) (text : List Char) : Option (Reading × List Char) :=
  match gap reading.modes text with
  | '?' :: 'P' :: '<' :: rest | '?' :: '<' :: rest => reading.openNamed rest
  | '?' :: rest =>
    match switches ⟨reading.modes, []⟩ rest with
    | none => none
    | some (now, closing, rest) =>
      if closing = ':' then some (reading.openGroup now.modes, rest)
      else if now.seen = [] then none
      else some ({ reading with modes := now.modes, run := reading.run.addSwitch }, rest)
  | rest => some (reading.openGroup reading.modes, rest)

def closeGroup (reading : Reading) : Option Reading :=
  match reading.groups with
  | [] => none
  | (run, modes) :: outer =>
    some { reading with modes := modes, run := run.add (reading.run.nesting + 1), groups := outer }

/-! ## §3 Steps -/

/-- Takes an atom as the next part. -/
def take (reading : Reading) (atom : Atom) : Option Reading :=
  if atom.isPart reading.modes then
    some { reading with
      run := reading.run.add 0
      edges := reading.edges || (atom == .edge && reading.modes.characters) }
  else none

def part (reading : Reading) : List Char → Option (Reading × List Char)
  | [] => none
  | c :: rest =>
    if c = '(' then reading.group rest
    else if c = ')' then reading.closeGroup.map (·, rest)
    else if c = '|' then some ({ reading with run := reading.run.bar }, rest)
    else if c = '[' then
      (OpenSet.start reading.modes rest).map fun (set, rest) =>
        ({ reading with sets := [set] }, rest)
    else if ['?', '*', '+'].contains c then
      -- a question mark behind it makes a repetition as short as it can be
      reading.run.repeatLast.map fun run =>
        ({ reading with run := run }, if rest.head? = some '?' then rest.drop 1 else rest)
    else if c = '\x7b' then none
    else if c = '\\' then
      match escape reading.modes rest with
      | none => none
      | some (atom, rest) => (reading.take atom).map (·, rest)
    else if c = '.' then (reading.take .any).map (·, rest)
    else if c = '^' ∨ c = '$' then (reading.take .anchor).map (·, rest)
    else (reading.take (.char c false)).map (·, rest)

/-- Reads on in the innermost set. -/
def member (reading : Reading) (set : OpenSet) (outer : List OpenSet) (text : List Char) :
    Option (Reading × List Char) :=
  match text, outer with
  | ']' :: rest, [] =>
    some ({ reading with sets := [], run := reading.run.add (set.nesting + 1) }, rest)
  | ']' :: rest, next :: others =>
    some ({ reading with sets := next.add (set.nesting + 1) :: others }, rest)
  | _, _ =>
    (set.read reading.modes text).map fun (sets, rest) =>
      ({ reading with sets := sets ++ outer }, rest)

def step (reading : Reading) (text : List Char) : Option (Reading × List Char) :=
  match reading.sets with
  | [] => reading.part text
  | set :: outer => reading.member set outer text

/-- Reads a text to its end in at most so many steps. -/
def finishAtMost : Nat → Reading → List Char → Option Reading
  | 0, _, _ => none
  | n + 1, reading, text =>
    match gap reading.modes text with
    | [] => some reading
    | c :: rest =>
      match reading.step (c :: rest) with
      | none => none
      | some (reading, rest) => finishAtMost n reading rest

/-- Reads a text to its end. Every step uses text up, so the length of the text bounds their
number. -/
def finish (reading : Reading) (text : List Char) : Option Reading :=
  finishAtMost (text.length + 1) reading text

end Reading

/-! ## §4 Patterns -/

/-- How deep a pattern may nest. -/
def depthLimit : Nat := 250

/-- Why a text is no pattern. -/
inductive Refusal where
  | malformed
  /-- The pattern asks for the edges of words between characters. -/
  | wordEdge
  deriving DecidableEq, Repr

def Refusal.message : Refusal → String
  | malformed => "error building NFA"
  | wordEdge =>
    "unsupported regex feature for DFAs: cannot build DFAs for regexes with Unicode word " ++
      "boundaries; switch to ASCII word boundaries, or heuristically enable Unicode word " ++
      "boundaries or use a different regex engine"

/-- Whether a text is a pattern that can be searched for. -/
def check (text : List Char) : Except Refusal Unit :=
  match Reading.initial.finish text with
  | none => .error .malformed
  | some reading =>
    if reading.sets ≠ [] ∨ reading.groups ≠ [] ∨ depthLimit < reading.run.nesting then
      .error .malformed
    else if reading.edges then .error .wordEdge
    else .ok ()

end DiveLink.Pattern
