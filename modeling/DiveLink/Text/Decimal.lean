/-!
# Decimal digits

1. `Decimal.digits` writes a number without a leading zero, `Decimal.padded` with a least width.
2. `Decimal.value` reads digits.
3. `Decimal.unsigned?` reads a number that may have a plus sign and leading zeros, as counters and
   identifiers are typed.
4. `Decimal.isReal` says whether a text is a number with point and exponent.
-/

namespace DiveLink.Decimal

/-- The digit of a number below ten. -/
def digit (n : Nat) : Char := Char.ofNat (48 + n)

/-- The value of a digit. -/
def digitValue (c : Char) : Nat := c.toNat - 48

/-- The digits of a number, none of them superfluous. -/
def digits (n : Nat) : List Char :=
  if n < 10 then [digit n] else digits (n / 10) ++ [digit (n % 10)]

/-- The digits of a number with zeros in front up to a width. -/
def padded (width n : Nat) : List Char :=
  let ds := digits n
  List.replicate (width - ds.length) '0' ++ ds

/-- The digits of a number as a text. -/
def text (n : Nat) : String := String.ofList (digits n)

/-- The number that digits spell. -/
def value (ds : List Char) : Nat :=
  ds.foldl (fun n c => 10 * n + digitValue c) 0

/-- A one with so many zeros. -/
def tenTo (zeros : Nat) : Nat := Nat.pow 10 zeros

/-- The number that digits spell, of which there has to be one. -/
def plain? (ds : List Char) : Option Nat :=
  if ds ≠ [] ∧ ds.all Char.isDigit then some (value ds) else none

/-- The number that digits spell, of which there has to be one; a plus sign may come first. -/
def unsigned? : List Char → Option Nat
  | '+' :: ds => plain? ds
  | ds => plain? ds

/-- The number that digits spell, of which there has to be one; a sign may come first. -/
def signed? : List Char → Option Int
  | '+' :: ds => (plain? ds).map Int.ofNat
  | '-' :: ds => (plain? ds).map fun n => -Int.ofNat n
  | ds => (plain? ds).map Int.ofNat

/-- Whether a text is the exponent of a number: digits, of which there has to be one, behind a sign
or without one. -/
def isExponent (text : List Char) : Bool := (signed? text).isSome

/-- Whether a text without a sign is a number: digits with a point before, among or behind them,
and perhaps an exponent. -/
def isUnsignedReal (text : List Char) : Bool :=
  let whole := text.takeWhile Char.isDigit
  let text := text.dropWhile Char.isDigit
  let (fraction, text) :=
    match text with
    | '.' :: rest => (rest.takeWhile Char.isDigit, rest.dropWhile Char.isDigit)
    | _ => ([], text)
  !(whole ++ fraction).isEmpty &&
    match text with
    | [] => true
    | c :: rest => (c == 'e' || c == 'E') && isExponent rest

/-- The words for what is no finite number. -/
def unboundedWords : List String := ["inf", "infinity", "nan"]

/-- Whether a text is a number or, in any case, a word for what is no finite number; a sign may come
first. -/
def isReal (text : List Char) : Bool :=
  let text :=
    match text with
    | '+' :: rest | '-' :: rest => rest
    | _ => text
  isUnsignedReal text || unboundedWords.contains (String.ofList (text.map Char.toLower))

end DiveLink.Decimal
