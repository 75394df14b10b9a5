import DiveLink.Calendar.Rfc3339
import DiveLink.Link.Command
import DiveLink.Json.Tree

/-!
# Records in JSON

A record is an object with known members. It is read from its text while the text is read, so that
what is met first is complained about first; it may also be read from a value that was read before.

1. `Kind` lists the kinds of members, with readers from text (`Kind.read`) and from values
   (`Kind.ofTree`) and a printer (`Kind.toTree`).
2. `Schema` is the members of a record in their order, `Row` their values.
3. `Schema.read` accepts an object with the members in any order, or a list of the members' values.
   Members that are not known are passed over, known ones may come once, and those that may be left
   out have a value for that case.
4. `Record` are the types that are such records.
-/

namespace DiveLink.Json

/-! ## §1 Kinds of members -/

/-- The kinds of members. -/
inductive Kind where
  /-- A number of thirty-two bits. -/
  | word
  /-- A number of sixty-four bits. -/
  | size
  | flag
  | text
  | path
  | instant
  | family
  | optionalText
  | optionalPath
  deriving DecidableEq, Repr

/-- The values of a kind. -/
abbrev Kind.Value : Kind → Type
  | word => UInt32
  | size => UInt64
  | flag => Bool
  | text | path => String
  | instant => Instant
  | family => Family
  | optionalText | optionalPath => Option String

/-- What the complaint about a value of another type says. -/
def Kind.wanted : Kind → String
  | word => "u32"
  | size => "usize"
  | flag => "a boolean"
  | text | optionalText => "a string"
  | path | optionalPath => "path string"
  | instant => "an RFC 3339 formatted date and time string"
  | family => "string or map"

def numberBelow (limit : Nat) (wanted : String) (n : Number) : Except Complaint Nat :=
  match n with
  | .natural m => if m < limit then .ok m else .error (.wrongValue (.number n) wanted)
  | .negative _ => .error (.wrongValue (.number n) wanted)
  | .float _ => .error (.wrongType (.number n) wanted)

def wordOf (n : Number) : Except Complaint UInt32 :=
  (numberBelow UInt32.size Kind.word.wanted n).map UInt32.ofNat

def sizeOf (n : Number) : Except Complaint UInt64 :=
  (numberBelow UInt64.size Kind.size.wanted n).map UInt64.ofNat

def instantOf (s : String) : Except Complaint Instant :=
  (Rfc3339.read s.toList).mapError fun refusal => .refused refusal.message

def familyOf (s : String) : Except Complaint Family :=
  match Family.ofName? s with
  | some family => .ok family
  | none => .error (.unknownVariant s (Family.all.map Family.name))

/-! ## §2 Members from text -/

/-- The complaint about a value of another type at the front of a text. Words, numbers and strings
are read for it, brackets are not. -/
def wrongTypeAt (wanted : String) (text : List Char) : Failure :=
  let about (found : Found) (rest : List Char) : Failure := .here (.wrongType found wanted) rest
  let after (found : Found) (rest : Except Failure (List Char)) : Failure :=
    match rest with
    | .ok rest => about found rest
    | .error failure => failure
  match text with
  | [] => .next .valueDue []
  | c :: rest =>
    match c with
    | 'n' => after .null (word ['u', 'l', 'l'] rest)
    | 't' => after (.bool true) (word ['r', 'u', 'e'] rest)
    | 'f' => after (.bool false) (word ['a', 'l', 's', 'e'] rest)
    | '[' => about .list text
    | '\x7b' => about .object text
    | '"' =>
      match string rest with
      | .ok (s, rest) => about (.string s) rest
      | .error failure => failure
    | _ =>
      if c = '-' ∨ c.isDigit then
        match number text with
        | .ok (n, rest) => about (.number n) rest
        | .error failure => failure
      else .next .valueDue text

/-- Reads a number and what it stands for. -/
def numberAs {α : Type} (wanted : String) (convert : Number → Except Complaint α)
    (text : List Char) : Except Failure (Front α) :=
  match afterGap text with
  | [] => .error (.next .openValue [])
  | c :: rest =>
    if c = '-' ∨ c.isDigit then do
      let (n, rest) ← number (c :: rest)
      match convert n with
      | .ok a => return (a, rest)
      | .error complaint => throw (.here complaint rest)
    else .error (wrongTypeAt wanted (c :: rest))

/-- Reads a string and what it stands for. -/
def stringAs {α : Type} (wanted : String) (convert : String → Except Complaint α)
    (text : List Char) : Except Failure (Front α) :=
  match afterGap text with
  | [] => .error (.next .openValue [])
  | c :: rest =>
    if c = '"' then do
      let (s, rest) ← string rest
      match convert s with
      | .ok a => return (a, rest)
      | .error complaint => throw (.here complaint rest)
    else .error (wrongTypeAt wanted (c :: rest))

def flagAt (wanted : String) (text : List Char) : Except Failure (Front Bool) :=
  match afterGap text with
  | [] => .error (.next .openValue [])
  | 't' :: rest => do return (true, ← word ['r', 'u', 'e'] rest)
  | 'f' :: rest => do return (false, ← word ['a', 'l', 's', 'e'] rest)
  | text => .error (wrongTypeAt wanted text)

def nullAt (wanted : String) (text : List Char) : Except Failure (List Char) :=
  match afterGap text with
  | [] => .error (.next .openValue [])
  | 'n' :: rest => word ['u', 'l', 'l'] rest
  | text => .error (wrongTypeAt wanted text)

/-- Reads null for nothing, or else a value. -/
def optionalAt {α : Type} (reader : List Char → Except Failure (Front α)) (text : List Char) :
    Except Failure (Front (Option α)) :=
  match afterGap text with
  | 'n' :: rest => do return (none, ← word ['u', 'l', 'l'] rest)
  | text => do
    let (a, rest) ← reader text
    return (some a, rest)

/-- Reads a name for what it stands for. It is a string, or an object with the name as its only key
and null as its value. -/
def nameAs {α : Type} (convert : String → Except Complaint α) (text : List Char) :
    Except Failure (Front α) :=
  match afterGap text with
  | [] => .error (.next .openValue [])
  | '"' :: rest => stringAs "variant identifier" convert ('"' :: rest)
  | '\x7b' :: rest => do
    match ← nextKey true rest with
    | (none, rest) => throw (.next .valueDue rest)
    | (some name, rest) =>
      match convert name with
      | .error complaint => throw (.here complaint rest)
      | .ok a => do
        let rest ← nullAt "unit" (← colon rest)
        match afterGap rest with
        | [] => throw (.here .openObject [])
        | '\x7d' :: rest => return (a, rest)
        | rest => throw (.here .valueDue rest)
  | text => .error (.next .valueDue text)

/-- Reads a value of a kind. -/
def Kind.read : (kind : Kind) → List Char → Except Failure (Front kind.Value)
  | word => numberAs word.wanted wordOf
  | size => numberAs size.wanted sizeOf
  | flag => flagAt flag.wanted
  | text => stringAs text.wanted .ok
  | path => stringAs path.wanted .ok
  | instant => stringAs instant.wanted instantOf
  | family => nameAs familyOf
  | optionalText => optionalAt (stringAs text.wanted .ok)
  | optionalPath => optionalAt (stringAs path.wanted .ok)

/-! ## §3 Members from values -/

/-- The string of a value, and what it stands for. -/
def Tree.stringAs {α : Type} (wanted : String) (convert : String → Except Complaint α) :
    Tree → Except Complaint α
  | string s => convert s
  | value => .error (.wrongType value.found wanted)

/-- The number of a value, and what it stands for. -/
def Tree.numberAs {α : Type} (wanted : String) (convert : Number → Except Complaint α) :
    Tree → Except Complaint α
  | number n => convert n
  | value => .error (.wrongType value.found wanted)

/-- Nothing for null, or else what a value stands for. -/
def Tree.optionalAs {α : Type} (convert : Tree → Except Complaint α) :
    Tree → Except Complaint (Option α)
  | null => .ok none
  | value => (convert value).map some

/-- What a value stands for as a member of a kind. -/
def Kind.ofTree : (kind : Kind) → Tree → Except Complaint kind.Value
  | word => Tree.numberAs word.wanted wordOf
  | size => Tree.numberAs size.wanted sizeOf
  | flag => fun
    | .bool b => .ok b
    | value => .error (.wrongType value.found flag.wanted)
  | text => Tree.stringAs text.wanted .ok
  | path => Tree.stringAs path.wanted .ok
  | instant => Tree.stringAs instant.wanted instantOf
  | family => Tree.stringAs family.wanted familyOf
  | optionalText => Tree.optionalAs (Tree.stringAs text.wanted .ok)
  | optionalPath => Tree.optionalAs (Tree.stringAs path.wanted .ok)

/-- A text, or null for none. -/
def Tree.ofOptional : Option String → Tree
  | none => null
  | some s => string s

/-- The JSON value of a member. -/
def Kind.toTree : (kind : Kind) → kind.Value → Tree
  | word, (w : UInt32) => .number (.natural w.toNat)
  | size, (n : UInt64) => .number (.natural n.toNat)
  | flag, (b : Bool) => .bool b
  | text, (s : String) => .string s
  | path, (s : String) => .string s
  | instant, (t : Instant) => .string (Rfc3339.utc t)
  | family, (f : Family) => .string f.name
  | optionalText, (s : Option String) => .ofOptional s
  | optionalPath, (s : Option String) => .ofOptional s

/-! ## §4 Rows -/

/-- A member of a record. -/
structure Field where
  name : String
  kind : Kind
  /-- The value of a member that is left out, if it may be. -/
  fallback : Option kind.Value

/-- The values of the members of a record. -/
abbrev Row : List Field → Type
  | [] => Unit
  | field :: fields => field.kind.Value × Row fields

/-- The values of those members that have been read. -/
abbrev Draft : List Field → Type
  | [] => Unit
  | field :: fields => Option field.kind.Value × Draft fields

def Draft.empty : (fields : List Field) → Draft fields
  | [] => ()
  | _ :: fields => (none, Draft.empty fields)

/-- The row of a draft: members that have not been read take their fallback. -/
def Draft.row : (fields : List Field) → Draft fields → Except Complaint (Row fields)
  | [], () => .ok ()
  | field :: fields, (value, draft) => do
    match value.or field.fallback with
    | none => throw (.missing field.name)
    | some value => return (value, ← Draft.row fields draft)

/-- Puts the value of a key into a draft, by a reader for known keys and one for others. A known key
must not come again. -/
def Draft.put {ε σ : Type} (known : (kind : Kind) → σ → Except ε (kind.Value × σ))
    (unknown : σ → Except ε σ) (again : σ → ε) (key : String) :
    (fields : List Field) → Draft fields → σ → Except ε (Draft fields × σ)
  | [], (), rest => do return ((), ← unknown rest)
  | field :: fields, (value, draft), rest =>
    if field.name = key then
      match value with
      | some _ => .error (again rest)
      | none => do
        let (value, rest) ← known field.kind rest
        return ((some value, draft), rest)
    else do
      let (draft, rest) ← Draft.put known unknown again key fields draft rest
      return ((value, draft), rest)

/-- The members of a row, as JSON. -/
def Row.members : (fields : List Field) → Row fields → List (String × Tree)
  | [], () => []
  | field :: fields, (value, row) => (field.name, field.kind.toTree value) :: Row.members fields row

/-! ## §5 Records -/

/-- The members of a record in their order, and the record's name in complaints. -/
structure Schema where
  name : String
  fields : List Field

namespace Schema

/-- What a complaint says is wanted. -/
def wanted (schema : Schema) : String := "struct " ++ schema.name

def counted (n : Nat) (noun : String) : String :=
  Decimal.text n ++ " " ++ noun ++ (if n = 1 then "" else "s")

/-- What a complaint about a list says is wanted. -/
def wantedItems (schema : Schema) : String :=
  schema.wanted ++ " with " ++ counted schema.fields.length "element"

/-- One member in the text of an object, if another comes. -/
def memberStep (fields : List Field) (state : Draft fields × Bool) (text : List Char) :
    Except Failure (Front ((Draft fields × Bool) × Bool)) := do
  let (draft, first) := state
  match ← nextKey first text with
  | (none, rest) => return (((draft, first), false), rest)
  | (some key, rest) => do
    let (draft, rest) ← Draft.put (fun kind rest => do kind.read (← colon rest))
      (fun rest => do skipValue (← colon rest)) (.loose (.duplicate key)) key fields draft rest
    return (((draft, false), true), rest)

/-- The members of a record in the text of an object. -/
def readMembers (fields : List Field) (text : List Char) : Except Failure (Front (Row fields)) := do
  let ((draft, _), rest) ← loop (memberStep fields) (Draft.empty fields, true) text
  match draft.row fields with
  | .ok row => return (row, rest)
  | .error complaint => throw (.loose complaint rest)

/-- The members of a record in the text of a list, of which `count` have been read. -/
def readItems (wanted : String) (count : Nat) :
    (fields : List Field) → List Char → Except Failure (Front (Row fields))
  | [], text => .ok ((), text)
  | field :: fields, text => do
    match ← nextItem (count == 0) text with
    | (true, rest) => do
      let (value, rest) ← field.kind.read rest
      let (row, rest) ← readItems wanted (count + 1) fields rest
      return ((value, row), rest)
    | (false, rest) =>
      match field.fallback with
      | none => throw (.loose (.wrongLength count wanted) rest)
      | some value => do
        let (row, rest) ← readItems wanted (count + 1) fields rest
        return ((value, row), rest)

def read (schema : Schema) (text : List Char) : Except Failure (Front (Row schema.fields)) :=
  match afterGap text with
  | [] => .error (.next .openValue [])
  | '\x7b' :: rest => closed endObject (readMembers schema.fields rest)
  | '[' :: rest => closed endList (readItems schema.wantedItems 0 schema.fields rest)
  | text => .error (wrongTypeAt schema.wanted text)

/-- The members of a record among the members of a JSON object. -/
def ofMembers (fields : List Field) :
    Draft fields → List (String × Tree) → Except Complaint (Draft fields)
  | draft, [] => .ok draft
  | draft, (key, value) :: members => do
    let (draft, ()) ← Draft.put (fun kind () => (kind.ofTree value).map (·, ())) .ok
      (fun () => .duplicate key) key fields draft ()
    ofMembers fields draft members

/-- The members of a record among the items of a JSON list, of which `count` have been taken, and
the items that are left. -/
def ofItems (wanted : String) (count : Nat) :
    (fields : List Field) → List Tree → Except Complaint (Row fields × List Tree)
  | [], items => .ok ((), items)
  | field :: fields, item :: items => do
    let value ← field.kind.ofTree item
    let (row, items) ← ofItems wanted (count + 1) fields items
    return ((value, row), items)
  | field :: fields, [] =>
    match field.fallback with
    | none => .error (.wrongLength count wanted)
    | some value => do
      let (row, items) ← ofItems wanted (count + 1) fields []
      return ((value, row), items)

/-- The record that a JSON value stands for. -/
def ofTree (schema : Schema) : Tree → Except Complaint (Row schema.fields)
  | .object members => do
    let draft ← ofMembers schema.fields (Draft.empty schema.fields) members
    draft.row schema.fields
  | .list items => do
    let (row, left) ← ofItems schema.wantedItems 0 schema.fields items
    if left.isEmpty then return row
    else throw (.wrongLength items.length
      (counted schema.fields.length "element" ++ " in sequence"))
  | value => .error (.wrongType value.found schema.wanted)

end Schema

/-- A type whose values are records. -/
class Record (α : Type) where
  schema : Schema
  toRow : α → Row schema.fields
  ofRow : Row schema.fields → α
  /-- A row says all about its value. -/
  ofRow_toRow : ∀ a, ofRow (toRow a) = a

namespace Record

variable {α : Type} [Record α]

/-- The JSON value of a record. -/
def toTree (a : α) : Tree := .object (Row.members _ (toRow a))

/-- The text of a record, on one line or indented. -/
def text (pretty : Bool) (a : α) : String := (toTree a).text pretty

/-- Reads a record at the front of a text. -/
def readFront (text : List Char) : Except Failure (Front α) := do
  let (row, rest) ← (schema α).read text
  return (ofRow row, rest)

/-- Reads a text that is a record. -/
def read (text : String) : Except Failure α := whole readFront text

/-- The record that a JSON value stands for. -/
def ofTree (value : Tree) : Except Complaint α := (ofRow ·) <$> (schema α).ofTree value

end Record

end DiveLink.Json
