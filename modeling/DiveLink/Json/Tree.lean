import DiveLink.Json.Brackets

/-!
# JSON values

1. `Tree` is a JSON value; the members of an object keep their order.
2. `Tree.compact` prints without blanks, `Tree.indented` with two blanks a level.
3. `tree` reads a value. Brackets may be nested only so deep.
4. `Tree.sorted` puts the members of every object in the order of their names.
-/

namespace DiveLink.Json

/-- A JSON value. -/
inductive Tree where
  | null
  | bool (b : Bool)
  | number (n : Number)
  | string (s : String)
  | list (items : List Tree)
  | object (members : List (String × Tree))
  deriving Inhabited

/-! ## §1 Printing -/

/-- How a character is written in a string. -/
def escaped (c : Char) : List Char :=
  if c = '"' then ['\\', '"']
  else if c = '\\' then ['\\', '\\']
  else if c = Char.ofNat 8 then ['\\', 'b']
  else if c = Char.ofNat 12 then ['\\', 'f']
  else if c = '\n' then ['\\', 'n']
  else if c = '\r' then ['\\', 'r']
  else if c = '\t' then ['\\', 't']
  else if isControl c then
    ['\\', 'u', '0', '0', Hex.lowerDigit (c.toNat / 16), Hex.lowerDigit (c.toNat % 16)]
  else [c]

def quoted (s : String) : List Char :=
  '"' :: s.toList.flatMap escaped ++ ['"']

def boolWord (b : Bool) : List Char := if b then "true".toList else "false".toList

namespace Tree

mutual

/-- The text of a value without blanks. -/
def compact : Tree → List Char
  | null => "null".toList
  | bool b => boolWord b
  | number n => n.text
  | string s => quoted s
  | list [] => ['[', ']']
  | list (item :: items) => '[' :: compact item ++ compactItems items ++ [']']
  | object [] => ['\x7b', '\x7d']
  | object ((name, value) :: members) =>
    '\x7b' :: quoted name ++ ':' :: compact value ++ compactMembers members ++ ['\x7d']

/-- The items behind the first one. -/
def compactItems : List Tree → List Char
  | [] => []
  | item :: items => ',' :: compact item ++ compactItems items

/-- The members behind the first one. -/
def compactMembers : List (String × Tree) → List Char
  | [] => []
  | (name, value) :: members =>
    ',' :: quoted name ++ ':' :: compact value ++ compactMembers members

end

/-- A new line with so many levels of blanks. -/
def newLine (level : Nat) : List Char := '\n' :: List.replicate (2 * level) ' '

mutual

/-- The text of a value with its brackets' contents on lines of their own, the value being `level`
brackets deep. -/
def indented (level : Nat) : Tree → List Char
  | null => "null".toList
  | bool b => boolWord b
  | number n => n.text
  | string s => quoted s
  | list [] => ['[', ']']
  | list (item :: items) =>
    '[' :: newLine (level + 1) ++ indented (level + 1) item ++ indentedItems (level + 1) items ++
      newLine level ++ [']']
  | object [] => ['\x7b', '\x7d']
  | object ((name, value) :: members) =>
    '\x7b' :: newLine (level + 1) ++ quoted name ++ ':' :: ' ' :: indented (level + 1) value ++
      indentedMembers (level + 1) members ++ newLine level ++ ['\x7d']

/-- The items behind the first one. -/
def indentedItems (level : Nat) : List Tree → List Char
  | [] => []
  | item :: items => ',' :: newLine level ++ indented level item ++ indentedItems level items

/-- The members behind the first one. -/
def indentedMembers (level : Nat) : List (String × Tree) → List Char
  | [] => []
  | (name, value) :: members =>
    ',' :: newLine level ++ quoted name ++ ':' :: ' ' :: indented level value ++
      indentedMembers level members

end

/-- The text of a value, on one line or indented. -/
def text (pretty : Bool) (value : Tree) : String :=
  String.ofList (if pretty then value.indented 0 else value.compact)

def found : Tree → Found
  | null => .null
  | bool b => .bool b
  | number n => .number n
  | string s => .string s
  | list _ => .list
  | object _ => .object

/-! ## §2 Order of members -/

/-- Puts a member in its place by name; it takes the place of a member of the same name. -/
def insertMember (name : String) (value : Tree) : List (String × Tree) → List (String × Tree)
  | [] => [(name, value)]
  | (other, kept) :: members =>
    if name = other then (name, value) :: members
    else if name < other then (name, value) :: (other, kept) :: members
    else (other, kept) :: insertMember name value members

mutual

/-- The value with the members of every object in the order of their names; of members with one
name the last one counts. -/
def sorted : Tree → Tree
  | list items => list (sortedItems items)
  | object members => object (sortedMembers [] members)
  | null => null
  | bool b => bool b
  | number n => number n
  | string s => string s

/-- Every item sorted. -/
def sortedItems : List Tree → List Tree
  | [] => []
  | item :: items => sorted item :: sortedItems items

/-- Members put in their place one after the other. -/
def sortedMembers (placed : List (String × Tree)) :
    List (String × Tree) → List (String × Tree)
  | [] => placed
  | (name, value) :: members =>
    sortedMembers (insertMember name (sorted value) placed) members

end

end Tree

/-! ## §3 Reading -/

/-- One item of a list, if another comes, with those before it in reverse. -/
def itemStep (item : List Char → Except Failure (Front Tree)) (seen : List Tree)
    (text : List Char) : Except Failure (Front (List Tree × Bool)) := do
  match ← nextItem seen.isEmpty text with
  | (false, rest) => return ((seen, false), rest)
  | (true, rest) => do
    let (value, rest) ← item rest
    return ((value :: seen, true), rest)

/-- One member of an object, if another comes, with those before it in reverse. -/
def memberStep (item : List Char → Except Failure (Front Tree)) (seen : List (String × Tree))
    (text : List Char) : Except Failure (Front (List (String × Tree) × Bool)) := do
  match ← nextKey seen.isEmpty text with
  | (none, rest) => return ((seen, false), rest)
  | (some key, rest) => do
    let (value, rest) ← item (← colon rest)
    return (((key, value) :: seen, true), rest)

/-- Reads a value in which brackets may be nested `depth` deep. -/
def tree (depth : Nat) (text : List Char) : Except Failure (Front Tree) :=
  match afterGap text with
  | [] => .error (.next .openValue [])
  | c :: rest =>
    match c with
    | 'n' => do return (.null, ← word ['u', 'l', 'l'] rest)
    | 't' => do return (.bool true, ← word ['r', 'u', 'e'] rest)
    | 'f' => do return (.bool false, ← word ['a', 'l', 's', 'e'] rest)
    | '"' => do
      let (s, rest) ← string rest
      return (.string s, rest)
    | '[' =>
      match depth with
      | 0 => .error (.next .tooDeep (c :: rest))
      | depth + 1 => do
        let (seen, rest) ← loop (itemStep (tree depth)) [] rest
        return (.list seen.reverse, ← endList rest)
    | '\x7b' =>
      match depth with
      | 0 => .error (.next .tooDeep (c :: rest))
      | depth + 1 => do
        let (seen, rest) ← loop (memberStep (tree depth)) [] rest
        return (.object seen.reverse, ← endObject rest)
    | _ =>
      if c = '-' ∨ c.isDigit then do
        let (n, rest) ← number (c :: rest)
        return (.number n, rest)
      else .error (.next .valueDue (c :: rest))

/-- How deep brackets may be nested. -/
def depthLimit : Nat := 127

/-- Reads a whole text by a reader of its value: behind the value only blanks may come. -/
def whole {α : Type} (reader : List Char → Except Failure (Front α)) (text : String) :
    Except Failure α := do
  let (value, rest) ← reader text.toList
  match afterGap rest with
  | [] => return value
  | rest => throw (.next .trailingText rest)

end DiveLink.Json
