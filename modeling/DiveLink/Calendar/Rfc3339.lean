import DiveLink.Calendar.Instant
import DiveLink.Text.Ranges
import DiveLink.Text.Decimal

/-!
# Times in RFC 3339

1. `Rfc3339.utc` and `Rfc3339.offset` print an instant, the one with `Z` at the end and the other
   with `+00:00`. The fraction of a second takes nought, three, six or nine digits, the fewest that
   show it whole; a year outside 0 to 9999 has a sign.
2. `Rfc3339.read` reads a time with an offset and gives the instant. It is more lenient than the
   standard: blanks may stand before a number, a colon or the offset, numbers may be short, and the
   offset may be the word UTC.
3. `Rfc3339.Refusal` says what keeps a text from being a time. What is met first counts, and a
   number out of the range of its field is met where it stands.
-/

namespace DiveLink.Rfc3339

/-! ## §1 Printing -/

/-- A year: four digits, or a sign and four digits or more. -/
def year (y : Int) : List Char :=
  if 0 ≤ y ∧ y ≤ 9999 then Decimal.padded 4 y.toNat
  else if y < 0 then '-' :: Decimal.padded 4 y.natAbs
  else '+' :: Decimal.padded 4 y.natAbs

/-- The fraction of a second with the point before it. -/
def fraction (nano : Nat) : List Char :=
  if nano = 0 then []
  else if nano % 1000000 = 0 then '.' :: Decimal.padded 3 (nano / 1000000)
  else if nano % 1000 = 0 then '.' :: Decimal.padded 6 (nano / 1000)
  else '.' :: Decimal.padded 9 nano

def date (d : Calendar.Date) : List Char :=
  year d.year ++ '-' :: Decimal.padded 2 d.month ++ '-' :: Decimal.padded 2 d.day

/-- The time of day. A leap second is the second 60. -/
def timeOfDay (second nano : Nat) : List Char :=
  let leap := nanosPerSecond ≤ nano
  Decimal.padded 2 (second / 3600) ++ ':' :: Decimal.padded 2 (second / 60 % 60) ++
    ':' :: Decimal.padded 2 (if leap then second % 60 + 1 else second % 60) ++
    fraction (if leap then nano - nanosPerSecond else nano)

def dateTime (instant : Instant) : List Char :=
  date (Calendar.dateOf instant.day) ++ 'T' :: timeOfDay instant.second instant.nano

/-- The time in universal time, with `Z` at its end. -/
def utc (instant : Instant) : String :=
  String.ofList (dateTime instant ++ ['Z'])

/-- The time in universal time, with a zero offset at its end. -/
def offset (instant : Instant) : String :=
  String.ofList (dateTime instant ++ "+00:00".toList)

/-! ## §2 Refusals -/

/-- What keeps a text from being a time. -/
inductive Refusal where
  | outOfRange
  | impossible
  | invalid
  | tooShort
  | tooLong
  deriving DecidableEq, Repr

def Refusal.message : Refusal → String
  | outOfRange => "input is out of range"
  | impossible => "no possible date and time matching input"
  | invalid => "input contains invalid characters"
  | tooShort => "premature end of input"
  | tooLong => "trailing input"

/-! ## §3 Reading parts -/

/-- A part of a time at the front of a text, with the text behind it. -/
abbrev Part (α : Type) := α × List Char

/-- At least one digit and at most `most`. -/
def number (most : Nat) (text : List Char) : Except Refusal (Part Nat) :=
  let ds := (text.take most).takeWhile Char.isDigit
  if ds ≠ [] then .ok (Decimal.value ds, text.drop ds.length)
  else if text = [] then .error .tooShort
  else .error .invalid

def ranged (low high : Nat) (part : Except Refusal (Part Nat)) : Except Refusal (Part Nat) := do
  let (n, rest) ← part
  if low ≤ n ∧ n ≤ high then return (n, rest) else throw .outOfRange

/-- A character that has to be there, with blanks before it. -/
def mark (c : Char) (text : List Char) : Except Refusal (List Char) :=
  match Blank.trimStart text with
  | [] => .error .tooShort
  | d :: rest => if d = c then .ok rest else .error .invalid

/-- A year: up to four digits, or any number of digits behind a sign. -/
def signedYear (text : List Char) : Except Refusal (Part Int) :=
  match Blank.trimStart text with
  | '-' :: rest => do
    let (n, rest) ← ranged 0 2147483648 (number rest.length rest)
    return (-n, rest)
  | '+' :: rest => do
    let (n, rest) ← ranged 0 2147483647 (number rest.length rest)
    return (n, rest)
  | rest => do
    let (n, rest) ← number 4 rest
    return (n, rest)

/-- A number of one or two digits between two bounds, with blanks before it. -/
def field (low high : Nat) (text : List Char) : Except Refusal (Part Nat) :=
  ranged low high (number 2 (Blank.trimStart text))

/-- The fraction of a second, if a point comes next: nanoseconds, digits behind the ninth left
out. -/
def nanos : List Char → Except Refusal (Part Nat)
  | '.' :: rest => do
    let (n, behind) ← number 9 rest
    let taken := rest.length - behind.length
    return (n * Decimal.tenTo (9 - taken), behind.dropWhile Char.isDigit)
  | rest => .ok (0, rest)

def sign : List Char → Except Refusal (Part Int)
  | [] => .error .tooShort
  | c :: rest =>
    if c = '+' then .ok (1, rest)
    else if c = '-' ∨ c = '−' then .ok (-1, rest)
    else .error .invalid

/-- The two digits of the hours or minutes of an offset; `highest` bounds the first one. -/
def pair (highest : Char) : List Char → Except Refusal (Part Nat)
  | c :: d :: rest =>
    if ¬ (c.isDigit ∧ d.isDigit) then .error .invalid
    else if highest < c then .error .outOfRange
    else .ok (Decimal.value [c, d], rest)
  | [c] => if c.utf8Size < 2 then .error .tooShort else .error .invalid
  | [] => .error .tooShort

/-- The offset from universal time in seconds: the word UTC, the letter `Z`, or a sign, hours,
colons or blanks, and minutes. -/
def zone (text : List Char) : Except Refusal (Part Int) :=
  match Blank.trimStart text with
  | 'Z' :: rest => .ok (0, rest)
  | 'z' :: rest => .ok (0, rest)
  | text =>
    if (text.take 3).map Char.toUpper = ['U', 'T', 'C'] then .ok (0, text.drop 3)
    else do
      let (s, rest) ← sign text
      let (hours, rest) ← pair '9' rest
      let (minutes, rest) ← pair '5' (rest.dropWhile fun c => c == ':' || Blank.isBlank c)
      return (s * (hours * 3600 + minutes * 60), rest)

/-! ## §4 Reading a time -/

/-- What a time says, before it is looked up in the calendar. -/
structure Parts where
  date : Calendar.Date
  hour : Nat
  minute : Nat
  second : Nat
  nano : Nat
  offset : Int
  deriving DecidableEq, Repr

/-- Reads the parts of a time in their order. -/
def parts (text : List Char) : Except Refusal (Part Parts) := do
  let (y, rest) ← signedYear text
  let rest ← mark '-' rest
  let (m, rest) ← field 1 12 rest
  let rest ← mark '-' rest
  let (d, rest) ← field 1 31 rest
  let rest ← match rest with
    | [] => throw .tooShort
    | c :: rest => if c = 'T' ∨ c = 't' ∨ c = ' ' then pure rest else throw .invalid
  let (hour, rest) ← field 0 23 rest
  let rest ← mark ':' rest
  let (minute, rest) ← field 0 59 rest
  let rest ← mark ':' rest
  let (second, rest) ← field 0 60 rest
  let (nano, rest) ← nanos rest
  let (offset, rest) ← zone rest
  return (⟨⟨y, m, d⟩, hour, minute, second, nano, offset⟩, rest)

/-- Looks the parts of a time up in the calendar. The second 60 is the leap second of its minute.
The local day has to be in the calendar, and after it the day in universal time. -/
def Parts.instant (p : Parts) : Except Refusal Instant :=
  let day := Calendar.dayNumber p.date
  if ¬ Calendar.isDate p.date ∨ day < Calendar.firstDay ∨ Calendar.lastDay < day then
    .error .outOfRange
  else if p.offset ≤ -86400 ∨ 86400 ≤ p.offset then .error .outOfRange
  else
    let leap := p.second = 60
    let seconds : Int := p.hour * 3600 + p.minute * 60 + (if leap then 59 else p.second) - p.offset
    let nano := if leap then nanosPerSecond + p.nano else p.nano
    match Instant.ofParts? (day + seconds / 86400) (seconds % 86400).toNat nano with
    | some instant => .ok instant
    | none => .error .impossible

/-- Reads a time with an offset. -/
def read (text : List Char) : Except Refusal Instant := do
  let (p, rest) ← parts text
  if Blank.trimStart rest ≠ [] then throw .tooLong
  p.instant

end DiveLink.Rfc3339
