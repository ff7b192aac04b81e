/-!
# Texts as bytes

Payloads travel as bytes, and a text is put into bytes by the UTF-8 encoding.

## Main definitions

* `Bytes` — a sequence of bytes.
* `utf8` — the encoding of a text, character by character.
* `ofUtf8?` — the text that a sequence of bytes encodes, if there is one.
* `hasNul` — whether a text has the character that ends a text among the bytes of a platform.
* `dropEncoded` — the bytes from the first one that begins no encoded character.

## Main results

* `ofUtf8?_utf8` — an encoded text reads back.
* `eq_utf8_of_ofUtf8?` — only the encoding of a text reads as that text.
-/

namespace IbanWatch.Text

/-- A sequence of bytes. -/
abbrev Bytes := List UInt8

/-- The text in the UTF-8 encoding. -/
def utf8 (s : String) : Bytes := s.toList.flatMap String.utf8EncodeChar

/-- The text that the bytes encode, or `none` if they are not valid UTF-8. -/
def ofUtf8? (bytes : Bytes) : Option String := String.fromUTF8? bytes.toByteArray

/-- Whether the text has a NUL, at which the platform takes it to end. -/
def hasNul (s : String) : Bool := s.toList.contains '\x00'

/-! ### Where an encoding breaks off -/

/-- Whether the byte goes on with a character that an earlier byte began. -/
def isContinuation (b : UInt8) : Bool := 0x80 ≤ b && b ≤ 0xBF

/-- Whether two bytes encode a character. -/
def isPair (a b : UInt8) : Bool := 0xC2 ≤ a && a ≤ 0xDF && isContinuation b

/-- Whether three bytes encode a character, one that needs three and is no half of a surrogate
pair. -/
def isTriple (a b c : UInt8) : Bool :=
  0xE0 ≤ a && a ≤ 0xEF && isContinuation b && isContinuation c
    && (a != 0xE0 || 0xA0 ≤ b) && (a != 0xED || b ≤ 0x9F)

/-- Whether four bytes encode a character, one that needs four and is a code point. -/
def isQuadruple (a b c d : UInt8) : Bool :=
  0xF0 ≤ a && a ≤ 0xF4 && isContinuation b && isContinuation c && isContinuation d
    && (a != 0xF0 || 0x90 ≤ b) && (a != 0xF4 || b ≤ 0x8F)

/-- The bytes from the first one that begins no encoded character. -/
def dropEncoded : Bytes → Bytes
  | [] => []
  | a :: s₁ =>
    if a < 0x80 then dropEncoded s₁
    else match s₁ with
      | [] => [a]
      | b :: s₂ =>
        if isPair a b then dropEncoded s₂
        else match s₂ with
          | [] => [a, b]
          | c :: s₃ =>
            if isTriple a b c then dropEncoded s₃
            else match s₃ with
              | [] => [a, b, c]
              | d :: s₄ => if isQuadruple a b c d then dropEncoded s₄ else a :: b :: c :: d :: s₄

/-! ### Reading back -/

theorem toByteArray_utf8 (s : String) : (utf8 s).toByteArray = s.toByteArray := by
  rw [utf8, ← List.utf8Encode, String.utf8Encode_toList]

theorem ofUtf8?_utf8 (s : String) : ofUtf8? (utf8 s) = some s := by
  rw [ofUtf8?, toByteArray_utf8, String.fromUTF8?, dif_pos s.isValidUTF8]
  rfl

theorem eq_utf8_of_ofUtf8? {bytes : Bytes} {s : String} (h : ofUtf8? bytes = some s) :
    bytes = utf8 s := by
  rw [ofUtf8?, String.fromUTF8?] at h
  split at h
  · next hv =>
    have hs : bytes.toByteArray = s.toByteArray := by
      rw [← Option.some.inj h]
      rfl
    rw [← toByteArray_utf8] at hs
    simpa using congrArg (fun b => b.data.toList) hs
  · contradiction

@[simp] theorem utf8_append (s t : String) : utf8 (s ++ t) = utf8 s ++ utf8 t := by
  simp [utf8]

end IbanWatch.Text
