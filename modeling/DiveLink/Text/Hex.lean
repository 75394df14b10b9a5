import DiveLink.Word

/-!
# Hexadecimal text

Two digits a byte, high half first.

1. `Hex.lower` and `Hex.upper` write bytes.
2. `Hex.decode` reads them in either case. It looks at the length first and then at the
   characters from the front; `Hex.Refusal` says what it met. Lengths and places count the bytes
   of the text.
-/

namespace DiveLink.Hex

/-- The digits below sixteen, with `a` to `f`. -/
def lowerDigit (n : Nat) : Char :=
  if n < 10 then Char.ofNat (48 + n) else Char.ofNat (87 + n)

/-- The digits below sixteen, with `A` to `F`. -/
def upperDigit (n : Nat) : Char :=
  if n < 10 then Char.ofNat (48 + n) else Char.ofNat (55 + n)

/-- Two digits a byte, high half first. -/
def encode (digit : Nat → Char) : Bytes → List Char
  | [] => []
  | b :: rest => digit (b.toNat / 16) :: digit (b.toNat % 16) :: encode digit rest

def lower (data : Bytes) : String :=
  String.ofList (encode lowerDigit data)

def upper (data : Bytes) : String :=
  String.ofList (encode upperDigit data)

/-- A word as a number of eight upper case digits, high digit first. -/
def upperWord (w : UInt32) : String :=
  upper (Word.toBytes w).reverse

/-- What keeps a text from being hexadecimal. -/
inductive Refusal where
  /-- The digits do not pair up. -/
  | oddLength
  /-- The byte at `place` is not a digit. -/
  | notADigit (byte : UInt8) (place : Nat)
  deriving DecidableEq, Repr

/-- The value of a digit of either case, given as an ASCII byte. -/
def value? (byte : UInt8) : Option Nat :=
  let n := byte.toNat
  if 48 ≤ n ∧ n ≤ 57 then some (n - 48)
  else if 65 ≤ n ∧ n ≤ 70 then some (n - 55)
  else if 97 ≤ n ∧ n ≤ 102 then some (n - 87)
  else none

/-- The value of a digit of either case, given as a character. -/
def charValue? (c : Char) : Option Nat :=
  if c.toNat < 128 then value? (UInt8.ofNat c.toNat) else none

/-- The value of the digit at `place`. -/
def digitAt (byte : UInt8) (place : Nat) : Except Refusal Nat :=
  match value? byte with
  | some n => .ok n
  | none => .error (.notADigit byte place)

/-- Reads pairs of digits, the first of which stands at `place`. -/
def decodePairs (place : Nat) : Bytes → Except Refusal Bytes
  | [] => .ok []
  | [_] => .error .oddLength
  | high :: low :: rest => do
    let h ← digitAt high place
    let l ← digitAt low (place + 1)
    let others ← decodePairs (place + 2) rest
    return UInt8.ofNat (16 * h + l) :: others

/-- Reads hexadecimal digits given as bytes. -/
def decodeBytes (digits : Bytes) : Except Refusal Bytes :=
  if digits.length % 2 = 1 then .error .oddLength else decodePairs 0 digits

def decode (text : String) : Except Refusal Bytes :=
  decodeBytes (Utf8.bytes text)

end DiveLink.Hex
