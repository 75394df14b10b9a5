import DiveLink.Text.Ranges

/-!
# Quoted text

How messages show a character or a text that somebody else wrote: between quotes, on one line, with
everything that would not show written as an escape.

1. `Quoted.text` puts a text between double quotes, `Quoted.char` a character between single ones.
2. Escaped are the quote in use, the backslash, the control characters that have a letter of their
   own, and by code point all that does not show by itself.
-/

namespace DiveLink.Quoted

/-- Writes a number with lower case hexadecimal digits and no leading zero. -/
def hexNumber (n : Nat) : List Char :=
  Nat.toDigits 16 n

/-- An escape that gives the code point. -/
def byCode (c : Char) : List Char :=
  "\\u\x7b".toList ++ hexNumber c.toNat ++ "\x7d".toList

/-- The two sound marks of half width, which belong to the character before them and yet fill a
cell of their own. -/
def isSoundMark (c : Char) : Bool :=
  c.toNat == 0xFF9E || c.toNat == 0xFF9F

/-- The letters that keep a place in a syllable and show nothing. -/
def isFiller (c : Char) : Bool :=
  c.toNat == 0x115F || c.toNat == 0x1160 || c.toNat == 0x3164 || c.toNat == 0xFFA0

/-- Whether the character shows by itself. -/
def stands (c : Char) : Bool :=
  Ranges.isGraphic c && !isFiller c && (!Ranges.extendsGrapheme c || isSoundMark c)

/-- One character inside the quotes `quote`. -/
def escape (quote : Char) (c : Char) : List Char :=
  if c = Char.ofNat 0 then ['\\', '0']
  else if c = '\t' then ['\\', 't']
  else if c = '\r' then ['\\', 'r']
  else if c = '\n' then ['\\', 'n']
  else if c = '\\' || c = quote then ['\\', c]
  else if stands c then [c]
  else byCode c

def char (c : Char) : String :=
  String.ofList ('\'' :: escape '\'' c ++ ['\''])

def text (s : String) : String :=
  String.ofList ('"' :: s.toList.flatMap (escape '"') ++ ['"'])

end DiveLink.Quoted
