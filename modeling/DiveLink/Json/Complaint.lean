import DiveLink.Json.Number
import DiveLink.Text.Quoted
import DiveLink.Word

/-!
# Complaints about JSON

What keeps a text from being the JSON that is wanted, and where.

1. `Complaint` is the cause, `Complaint.message` its wording.
2. `Failure` is a complaint with the text that was still unread. A complaint about a value has no
   place of its own and gets the one where its value ends.
3. `Failure.report` words a failure with line and column. Lines count from one; the column counts
   the bytes of the line that were looked at.
-/

namespace DiveLink.Json

/-! ## §1 Causes -/

/-- What a value was found to be. -/
inductive Found where
  | null
  | bool (b : Bool)
  | number (n : Number)
  | string (s : String)
  | list
  | object

/-- What is wrong. -/
inductive Complaint where
  /-- The text ended inside a list. -/
  | openList
  | openObject
  | openString
  /-- The text ended where a value was due or inside one. -/
  | openValue
  | colonDue
  | commaOrBracketDue
  | commaOrBraceDue
  /-- A word other than the three that JSON knows. -/
  | unknownWord
  | valueDue
  | badEscape
  | badNumber
  | numberTooLarge
  | controlCharacter
  | keyNotString
  | loneSurrogate
  | halfPair
  | trailingComma
  | trailingText
  | tooDeep
  /-- A value of another type than wanted. -/
  | wrongType (found : Found) (wanted : String)
  /-- A value of the right type that is not acceptable. -/
  | wrongValue (found : Found) (wanted : String)
  | wrongLength (length : Nat) (wanted : String)
  | unknownVariant (name : String) (known : List String)
  | missing (name : String)
  | duplicate (name : String)
  /-- A reason that the reader of a text gives. -/
  | refused (reason : String)

/-! ## §2 Wording -/

def Found.text : Found → String
  | null => "null"
  | bool b => if b then "boolean `true`" else "boolean `false`"
  | number (.float x) => "floating point `" ++ String.ofList (Number.text (.float x)) ++ "`"
  | number n => "integer `" ++ String.ofList n.text ++ "`"
  | string s => "string " ++ Quoted.text s
  | list => "sequence"
  | object => "map"

def ticked (name : String) : String := "`" ++ name ++ "`"

def choice : List String → String
  | [] => "there are no variants"
  | [a] => "expected " ++ ticked a
  | [a, b] => "expected " ++ ticked a ++ " or " ++ ticked b
  | names => "expected one of " ++ ", ".intercalate (names.map ticked)

def Complaint.message : Complaint → String
  | openList => "EOF while parsing a list"
  | openObject => "EOF while parsing an object"
  | openString => "EOF while parsing a string"
  | openValue => "EOF while parsing a value"
  | colonDue => "expected `:`"
  | commaOrBracketDue => "expected `,` or `]`"
  | commaOrBraceDue => "expected `,` or `\x7d`"
  | unknownWord => "expected ident"
  | valueDue => "expected value"
  | badEscape => "invalid escape"
  | badNumber => "invalid number"
  | numberTooLarge => "number out of range"
  | controlCharacter => "control character (\\u0000-\\u001F) found while parsing a string"
  | keyNotString => "key must be a string"
  | loneSurrogate => "lone leading surrogate in hex escape"
  | halfPair => "unexpected end of hex escape"
  | trailingComma => "trailing comma"
  | trailingText => "trailing characters"
  | tooDeep => "recursion limit exceeded"
  | wrongType found wanted => "invalid type: " ++ found.text ++ ", expected " ++ wanted
  | wrongValue found wanted => "invalid value: " ++ found.text ++ ", expected " ++ wanted
  | wrongLength length wanted =>
    "invalid length " ++ Decimal.text length ++ ", expected " ++ wanted
  | unknownVariant name known => "unknown variant " ++ ticked name ++ ", " ++ choice known
  | missing name => "missing field " ++ ticked name
  | duplicate name => "duplicate field " ++ ticked name
  | refused reason => reason

/-! ## §3 Failures -/

/-- A complaint in a text. -/
structure Failure where
  complaint : Complaint
  /-- What was unread when the complaint arose. -/
  unread : List Char
  /-- How many bytes of that were looked at. -/
  ahead : Nat
  /-- Whether the complaint has its place. -/
  placed : Bool

namespace Failure

/-- A complaint about what was read last. -/
def here (complaint : Complaint) (unread : List Char) : Failure := ⟨complaint, unread, 0, true⟩

/-- A complaint about what comes next. -/
def next (complaint : Complaint) (unread : List Char) : Failure := ⟨complaint, unread, 1, true⟩

/-- A complaint about a value, which has no place yet. -/
def loose (complaint : Complaint) (unread : List Char) : Failure := ⟨complaint, unread, 0, false⟩

end Failure

/-- A value read at the front of a text, and the text behind it. -/
abbrev Front (α : Type) := α × List Char

/-! ## §4 Places -/

/-- The bytes of a text in UTF-8. -/
def byteCount (text : List Char) : Nat :=
  text.foldl (fun count c => count + c.utf8Size) 0

/-- Line and column behind the given bytes. -/
def placeBehind (seen : Bytes) : Nat × Nat :=
  (1 + seen.count 10, (seen.reverse.takeWhile (· != 10)).length)

/-- Line and column of a failure in the text. -/
def Failure.place (failure : Failure) (text : String) : Nat × Nat :=
  let data := Utf8.bytes text
  placeBehind (data.take (data.length - byteCount failure.unread + failure.ahead))

def Failure.report (failure : Failure) (text : String) : String :=
  let (line, column) := failure.place text
  failure.complaint.message ++ " at line " ++ Decimal.text line ++ " column " ++
    Decimal.text column

end DiveLink.Json
