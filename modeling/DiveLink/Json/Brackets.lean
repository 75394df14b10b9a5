import DiveLink.Json.Lexeme

/-!
# Lists and objects of JSON

What stands between the values: brackets, commas, keys and colons.

1. `loop` repeats a step of reading for as long as it wants to go on and text is used up.
2. `nextItem` and `nextKey` go on to the next item of a list or the next key of an object.
3. `endList` and `endObject` read the closing bracket; `closed` does so after a body, also after
   one that was refused.
4. `skipValue` passes over a value, however deep it is.
-/

namespace DiveLink.Json

/-! ## §1 Repetition -/

/-- Repeats a step for as long as it wants to go on, but at most so many times. -/
def loopAtMost {σ : Type} (step : σ → List Char → Except Failure (Front (σ × Bool))) :
    Nat → σ → List Char → Except Failure (Front σ)
  | 0, state, text => .ok (state, text)
  | n + 1, state, text =>
    match step state text with
    | .error failure => .error failure
    | .ok ((state, again), rest) =>
      if again then loopAtMost step n state rest else .ok (state, rest)

/-- Repeats a step for as long as it wants to go on. Every step but the last uses text up, so the
length of the text bounds their number; it is not counted for a single step. -/
def loop {σ : Type} (step : σ → List Char → Except Failure (Front (σ × Bool))) (state : σ)
    (text : List Char) : Except Failure (Front σ) :=
  match step state text with
  | .error failure => .error failure
  | .ok ((state, again), rest) =>
    if again then loopAtMost step (rest.length + 1) state rest else .ok (state, rest)

/-! ## §2 Items and keys -/

/-- Whether another item of a list comes. Behind the first one there has to be a comma. -/
def nextItem (first : Bool) (text : List Char) : Except Failure (Front Bool) :=
  match afterGap text with
  | [] => .error (.next .openList [])
  | c :: rest =>
    if c = ']' then .ok (false, c :: rest)
    else if first then .ok (true, c :: rest)
    else if c ≠ ',' then .error (.next .commaOrBracketDue (c :: rest))
    else match afterGap rest with
      | [] => .error (.next .openValue [])
      | d :: rest =>
        if d = ']' then .error (.next .trailingComma (d :: rest)) else .ok (true, d :: rest)

/-- Whether another key of an object comes, and the text behind its opening quote. -/
def nextQuote (first : Bool) (text : List Char) : Except Failure (Front Bool) :=
  match afterGap text with
  | [] => .error (.next .openObject [])
  | c :: rest =>
    if c = '\x7d' then .ok (false, c :: rest)
    else if first then
      if c = '"' then .ok (true, rest) else .error (.next .keyNotString (c :: rest))
    else if c ≠ ',' then .error (.next .commaOrBraceDue (c :: rest))
    else match afterGap rest with
      | [] => .error (.next .openValue [])
      | d :: rest =>
        if d = '"' then .ok (true, rest)
        else if d = '\x7d' then .error (.next .trailingComma (d :: rest))
        else .error (.next .keyNotString (d :: rest))

/-- The next key of an object, if another comes. -/
def nextKey (first : Bool) (text : List Char) : Except Failure (Front (Option String)) := do
  match ← nextQuote first text with
  | (false, rest) => return (none, rest)
  | (true, rest) => do
    let (key, rest) ← string rest
    return (some key, rest)

/-- The colon between a key and its value. -/
def colon (text : List Char) : Except Failure (List Char) :=
  match afterGap text with
  | [] => .error (.next .openObject [])
  | c :: rest => if c = ':' then .ok rest else .error (.next .colonDue (c :: rest))

/-! ## §3 Closing brackets -/

def endList (text : List Char) : Except Failure (List Char) :=
  match afterGap text with
  | [] => .error (.next .openList [])
  | c :: rest =>
    if c = ']' then .ok rest
    else if c = ',' then
      match afterGap rest with
      | ']' :: rest => .error (.next .trailingComma (']' :: rest))
      | rest => .error (.next .trailingText rest)
    else .error (.next .trailingText (c :: rest))

def endObject (text : List Char) : Except Failure (List Char) :=
  match afterGap text with
  | [] => .error (.next .openObject [])
  | c :: rest =>
    if c = '\x7d' then .ok rest
    else if c = ',' then .error (.next .trailingComma (c :: rest))
    else .error (.next .trailingText (c :: rest))

/-- How far the end of a bracket can be read. -/
def unreadAfter (finish : List Char → Except Failure (List Char)) (text : List Char) : List Char :=
  match finish text with
  | .ok rest => rest
  | .error failure => failure.unread

/-- Reads the end of a bracket after its body. A complaint about the body that has no place gets
it behind the bracket. -/
def closed {α : Type} (finish : List Char → Except Failure (List Char))
    (body : Except Failure (Front α)) : Except Failure (Front α) :=
  match body with
  | .ok (a, rest) =>
    match finish rest with
    | .ok rest => .ok (a, rest)
    | .error failure => .error failure
  | .error failure =>
    if failure.placed then .error failure
    else .error (.here failure.complaint (unreadAfter finish failure.unread))

/-! ## §4 Values that are passed over -/

/-- The two kinds of brackets. -/
inductive Bracket where
  | square
  | brace
  deriving DecidableEq, Repr

namespace Bracket

def close : Bracket → Char
  | square => ']'
  | brace => '\x7d'

/-- The complaint where the text ends inside. -/
def atEnd : Bracket → Complaint
  | square => .openList
  | brace => .openObject

/-- The complaint where neither a comma nor the closing bracket comes. -/
def commaDue : Bracket → Complaint
  | square => .commaOrBracketDue
  | brace => .commaOrBraceDue

end Bracket

/-- Closes as many open brackets, the innermost first, as are closed here, and reads the comma that
may come behind a value. -/
def closeBrackets (behindValue : Bool) :
    List Bracket → List Char → Except Failure (Front (List Bracket))
  | [], text => .ok ([], text)
  | bracket :: outer, text =>
    match afterGap text with
    | [] => .error (.next bracket.atEnd [])
    | c :: rest =>
      if behindValue ∧ c = ',' then .ok (bracket :: outer, rest)
      else if c = bracket.close then closeBrackets true outer rest
      else if behindValue then .error (.next bracket.commaDue (c :: rest))
      else .ok (bracket :: outer, c :: rest)

/-- Passes over a key and its colon. -/
def skipKey (text : List Char) : Except Failure (List Char) :=
  match afterGap text with
  | [] => .error (.next .openObject [])
  | c :: rest =>
    if c = '"' then do colon (← skipString rest)
    else .error (.next .keyNotString (c :: rest))

/-- Passes over a value without brackets, or over an opening bracket. -/
def skipOne (text : List Char) : Except Failure (Front (Option Bracket)) :=
  match afterGap text with
  | [] => .error (.next .openValue [])
  | c :: rest =>
    match c with
    | '[' => .ok (some .square, rest)
    | '\x7b' => .ok (some .brace, rest)
    | 'n' => do return (none, ← word ['u', 'l', 'l'] rest)
    | 't' => do return (none, ← word ['r', 'u', 'e'] rest)
    | 'f' => do return (none, ← word ['a', 'l', 's', 'e'] rest)
    | '"' => do return (none, ← skipString rest)
    | _ =>
      if c = '-' ∨ c.isDigit then do
        let (_, rest) ← numeral .badNumber (c :: rest)
        return (none, rest)
      else .error (.next .valueDue (c :: rest))

/-- One step over a value, with the brackets that are open. -/
def skipStep (opened : List Bracket) (text : List Char) :
    Except Failure (Front (List Bracket × Bool)) := do
  let (bracket, rest) ← skipOne text
  let (opened, rest) ← closeBrackets bracket.isNone (bracket.toList ++ opened) rest
  match opened with
  | [] => return (([], false), rest)
  | .square :: _ => return ((opened, true), rest)
  | .brace :: _ => return ((opened, true), ← skipKey rest)

def skipValue (text : List Char) : Except Failure (List Char) := do
  let (_, rest) ← loop skipStep [] text
  return rest

end DiveLink.Json
