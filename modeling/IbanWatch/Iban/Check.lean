import IbanWatch.Iban.Basic
import IbanWatch.Text.Utf8

/-!
# Checking an identifier

The check digits make the identifier a number that leaves remainder one modulo 97.  To read the
number, the first four characters move to the end and each letter is spelled by its value from 10
for `A` to 35 for `Z`.  The number has up to 46 digits, so its remainder is taken in chunks: after
every seventh digit the running value is cut back below 97, and it never reaches ten digits.

## Main definitions

* `spell` — the decimal digits of the number that an identifier stands for.
* `remainder97` — the remainder of a row of digits modulo 97, with `remainderInChunks` for any
  size of chunk.
* `check` — the first defect of a candidate, if it has one.
* `validate`, `validateOpt` — whether a candidate has none.

## References

The reference's `iban::check`, with `check_structure`, `expand_digits` and `mod97`; its
specification, 4.1 and 10.6.
-/

namespace IbanWatch.Iban

open Text

/-! ### The numeral -/

/-- The digits that spell one letter or digit, given by its byte. -/
def spellByte (byte : UInt8) : List UInt8 :=
  if 48 ≤ byte && byte ≤ 57 then [byte - 48]
  else
    let value := byte - 65 + 10
    [value / 10, value % 10]

/-- The digits of the number that the identifier stands for: the first four characters go to the
end, and each letter is spelled by its two-digit value.  Meant for bytes that passed the layout,
where every character is one byte.  The reference's `expand_digits`. -/
def spell (bytes : Bytes) : List UInt8 :=
  (bytes.drop 4 ++ bytes.take 4).flatMap spellByte

/-- Goes on with a row of digits after `acc`, cutting the running value back below 97 once `left`
more digits are taken, and after every `size` digits from there. -/
def foldInChunks (size : Nat) : (left : Nat) → (acc : UInt64) → List UInt8 → UInt64
  | _, acc, [] => acc % 97
  | 0, acc, d :: ds => foldInChunks size (size - 1) (acc % 97 * 10 + d.toUInt64) ds
  | left + 1, acc, d :: ds => foldInChunks size left (acc * 10 + d.toUInt64) ds

/-- The remainder modulo 97 of the number that the digits spell, taken in chunks of `size`. -/
def remainderInChunks (size : Nat) (digits : List UInt8) : UInt64 :=
  foldInChunks size size 0 digits

/-- How many digits are taken before the running value is cut back.  The value is then below 97
with seven digits behind it, that is, below a thousand million.  The reference's `CHUNK_DIGITS`. -/
def chunkSize : Nat := 7

/-- The remainder modulo 97 of the number that the digits spell, the reference's `mod97`. -/
def remainder97 (digits : List UInt8) : UInt64 := remainderInChunks chunkSize digits

/-! ### The check -/

/-- The first position whose character the layout does not admit, with that character; the
reference's `check_structure`. -/
def firstMisplaced? (normalized : List Char) : Option (Nat × Char) :=
  (normalized.zipIdx.find? fun (c, position) => !allowedAt position c).map
    fun (c, position) => (position, c)

/-- Succeeds for a valid identifier and else names the first rule that the candidate breaks; the
reference's `check`. -/
def check (candidate : String) : Except Defect Unit :=
  let normalized := normalize candidate
  let characters := normalized.toList
  if characters.isEmpty then .error .empty
  else if !country.isPrefixOf characters then .error .wrongCountry
  else if characters.length ≠ length then .error (.wrongLength characters.length)
  else
    match firstMisplaced? characters with
    | some (position, found) => .error (.malformed position found)
    | none =>
      let remainder := remainder97 (spell (utf8 normalized))
      if remainder = 1 then .ok () else .error (.checksum remainder.toNat)

/-- Whether the candidate is a valid identifier, the reference's `validate`. -/
def validate (candidate : String) : Bool :=
  match check candidate with
  | .ok _ => true
  | .error _ => false

/-- Whether there is a candidate and it is a valid identifier, the reference's `validate_opt`. -/
def validateOpt : Option String → Bool
  | none => false
  | some candidate => validate candidate

example : validate "ro49 aaaa 1b31 0075 9384 0000" = true := by decide +kernel

example : validate "RO49AAAA1B31007593840001" = false := by decide +kernel

end IbanWatch.Iban
