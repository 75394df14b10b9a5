import DiveLink.Pattern
import DiveLink.Text.Decimal

/-!
# Log filters

A log filter is a list of directives between commas. A directive names a level, or what it is
about: a target, a span of a target and the fields of a span, with a level behind an equals sign.
The value of a field is a number or a pattern.

1. `LogFilter.check` says whether a text is a log filter.
2. `LogFilter.Refusal` is why not.
-/

namespace DiveLink.LogFilter

/-- Why a text is no log filter. -/
inductive Refusal where
  | badDirective
  | badLevel
  /-- The value of a field is neither a number nor a pattern. -/
  | badField (refusal : Pattern.Refusal)
  /-- A part of a directive would start or end inside a character. -/
  | brokenCharacter
  deriving DecidableEq, Repr

def Refusal.message : Refusal → String
  | badDirective => "invalid filter directive"
  | badLevel =>
    "error parsing level filter: expected one of \"off\", \"error\", \"warn\", \"info\", " ++
      "\"debug\", \"trace\", or a number 0-5"
  | badField refusal => "invalid field filter: " ++ refusal.message
  | brokenCharacter => "a part of a directive does not consist of characters"

/-! ## §1 Levels and fields -/

def levelNames : List String := ["off", "error", "warn", "info", "debug", "trace"]

/-- Whether the text is a level: a name in any case, a number up to five, or nothing. -/
def isLevel (text : List Char) : Bool :=
  match Decimal.unsigned? text with
  | some n => n ≤ 5
  | none => text.isEmpty || levelNames.contains (String.ofList (text.map Char.toLower))

/-- Checks the value of a field. -/
def checkValue (text : List Char) : Except Refusal Unit :=
  if Decimal.isReal text then .ok () else (Pattern.check text).mapError .badField

/-- Checks a field: a name, and behind an equals sign its value. What follows another equals sign
does not count. -/
def checkField (text : List Char) : Except Refusal Unit :=
  match text.splitOn '=' with
  | _ :: value :: _ => checkValue value
  | _ => .ok ()

/-! ## §2 Parts of a text -/

/-- The text behind so many bytes, if a character starts there. -/
def behind? : Nat → List Char → Option (List Char)
  | 0, text => some text
  | _, [] => none
  | n, c :: cs => if c.utf8Size ≤ n then behind? (n - c.utf8Size) cs else none

/-- So many bytes of a text, if a character ends there. -/
def front? : Nat → List Char → Option (List Char)
  | 0, _ => some []
  | _, [] => none
  | n, c :: cs => if c.utf8Size ≤ n then (front? (n - c.utf8Size) cs).map (c :: ·) else none

/-- The bytes of a text from one place to another, if they are characters. -/
def between (text : List Char) (start stop : Nat) : Except Refusal (List Char) :=
  match (behind? start text).bind (front? (stop - start)) with
  | some part => .ok part
  | none => .error .brokenCharacter

/-! ## §3 Directives -/

/-- The part of a directive in which a character stands, with the byte at which it starts. -/
inductive Part where
  | start
  /-- The first word, which is a target or, if nothing follows, perhaps a level. -/
  | firstWord
  | span (place : Nat)
  | field (place : Nat)
  | behindFields
  | behindSpan
  | level (place : Nat)
  deriving DecidableEq, Repr

/-- Whether the first word may start with the character. -/
def isOpening (c : Char) : Bool :=
  c == '-' || c == ':' || c == '_' || Ranges.isAlphanumeric c

/-- The part in which a directive goes on behind the character at the byte `place`. The parts that
end there are taken from `text`. -/
def Part.step (text : List Char) (place : Nat) (c : Char) : Part → Except Refusal Part
  | start =>
    if c = '[' then .ok (span (place + 1))
    else if isOpening c then .ok firstWord
    else .error .badDirective
  | firstWord =>
    if c = '=' then (between text 0 place).map fun _ => level (place + 1)
    else if c = '[' then (between text 0 place).map fun _ => span (place + 1)
    else .ok firstWord
  | span first =>
    if c = ']' then (between text first place).map fun _ => behindSpan
    else if c = '\x7b' then (between text first place).map fun _ => field (place + 1)
    else .ok (span first)
  | field first =>
    if c = '\x7d' then do
      let part ← between text first place
      if part.isEmpty then throw .badDirective
      checkField part
      return behindFields
    else .ok (field first)
  | behindFields => if c = ']' then .ok behindSpan else .error .badDirective
  | behindSpan => if c = '=' then .ok (level (place + 1)) else .error .badDirective
  | level first => .ok (level first)

/-- The part in which characters end that follow the byte `place` of a directive. -/
def Part.run (text : List Char) : Nat → Part → List Char → Except Refusal Part
  | _, part, [] => .ok part
  | place, part, c :: cs => do
    (← part.step text place c).run text (place + c.utf8Size) cs

/-- Whether a text is a directive. Blanks around it do not count, but every part is taken as far
from the start of the text as it stands from the first character that is not blank. -/
def checkDirective (text : List Char) : Except Refusal Unit := do
  match ← Part.run text 0 .start (Blank.trim text) with
  | .firstWord | .behindSpan => return
  | .level place =>
    match behind? place text with
    | none => throw .brokenCharacter
    | some level => if isLevel level then return else throw .badLevel
  | _ => throw .badDirective

/-! ## §4 Filters -/

/-- The directives of a filter: what stands between commas, where anything does. -/
def directives (text : String) : List (List Char) :=
  (text.toList.splitOn ',').filter (· ≠ [])

/-- Whether a text is a log filter. -/
def check (text : String) : Except Refusal Unit :=
  (directives text).forM checkDirective

end DiveLink.LogFilter
