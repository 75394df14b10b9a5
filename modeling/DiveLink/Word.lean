/-!
# Words and texts as bytes

The computer stores every number as four bytes, low byte first. Files hold bytes as well, and the
rest of the library holds text.

1. `Word.toBytes` writes a word, `Word.front` reads the word at the front of a run of bytes.
2. `Word.front_toBytes`: reading gives back what was written.
3. `Word.saturatingAdd` adds and stays at the greatest word where the sum does not fit.
4. `Utf8.bytes` writes a text as UTF-8, `Utf8.text?` reads UTF-8 and refuses every other run of
   bytes.
-/

namespace DiveLink

/-- A run of bytes. -/
abbrev Bytes := List UInt8

/-! ## §1 Little-endian words -/

namespace Word

/-- The four bytes of a word, low byte first. -/
def toBytes (w : UInt32) : Bytes :=
  [UInt8.ofNat w.toNat, UInt8.ofNat (w.toNat / 256), UInt8.ofNat (w.toNat / 65536),
    UInt8.ofNat (w.toNat / 16777216)]

/-- The word with these four bytes, low byte first. -/
def ofBytes (b₀ b₁ b₂ b₃ : UInt8) : UInt32 :=
  UInt32.ofNat (b₀.toNat + 256 * b₁.toNat + 65536 * b₂.toNat + 16777216 * b₃.toNat)

/-- The word at the front of `bytes`; bytes that are not there count as zero. -/
def front : Bytes → UInt32
  | b₀ :: b₁ :: b₂ :: b₃ :: _ => ofBytes b₀ b₁ b₂ b₃
  | [b₀, b₁, b₂] => ofBytes b₀ b₁ b₂ 0
  | [b₀, b₁] => ofBytes b₀ b₁ 0 0
  | [b₀] => ofBytes b₀ 0 0 0
  | [] => 0

@[simp] theorem length_toBytes (w : UInt32) : (toBytes w).length = 4 := rfl

/-- The four bytes of a word make up that word again. -/
theorem front_toBytes (w : UInt32) (rest : Bytes) : front (toBytes w ++ rest) = w := by
  apply UInt32.toNat_inj.mp
  have hw := w.toNat_lt
  simp only [toBytes, List.cons_append, List.nil_append, front, ofBytes, UInt32.toNat_ofNat',
    UInt8.toNat_ofNat']
  omega

@[simp] theorem front_toBytes_self (w : UInt32) : front (toBytes w) = w := front_toBytes w []

/-- Four bytes are the bytes of the word that they make up. -/
theorem toBytes_front {data : Bytes} (h : data.length = 4) : toBytes (front data) = data := by
  match data, h with
  | [b₀, b₁, b₂, b₃], _ =>
    have h₀ := b₀.toNat_lt
    have h₁ := b₁.toNat_lt
    have h₂ := b₂.toNat_lt
    have h₃ := b₃.toNat_lt
    simp only [front, ofBytes, toBytes, UInt32.toNat_ofNat', List.cons.injEq, ← UInt8.toNat_inj,
      UInt8.toNat_ofNat', and_true]
    omega

def greatest : UInt32 := 4294967295

/-- The sum of two words, or the greatest word where the sum does not fit. -/
def saturatingAdd (a b : UInt32) : UInt32 :=
  UInt32.ofNat (min (a.toNat + b.toNat) greatest.toNat)

/-- A saturating sum is the true sum, cut off at the greatest word. -/
theorem toNat_saturatingAdd (a b : UInt32) :
    (saturatingAdd a b).toNat = min (a.toNat + b.toNat) 4294967295 := by
  simp only [saturatingAdd, greatest, UInt32.toNat_ofNat']
  have : UInt32.toNat 4294967295 = 4294967295 := rfl
  omega

end Word

/-! ## §2 Texts -/

namespace Utf8

/-- The UTF-8 bytes of a text. -/
def bytes (text : String) : Bytes :=
  text.toList.flatMap String.utf8EncodeChar

/-- The text that these bytes spell in UTF-8, if they do. -/
def text? (data : Bytes) : Option String :=
  String.fromUTF8? ⟨data.toArray⟩

end Utf8

end DiveLink
