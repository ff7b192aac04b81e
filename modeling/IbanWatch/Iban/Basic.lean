import IbanWatch.Text.Blank
import IbanWatch.Text.Quoted

/-!
# Romanian account identifiers

A Romanian IBAN has 24 characters: the country code `RO`, two check digits, the four letters of
the bank and sixteen letters or digits of the account.  People write it with blanks and in either
case, so a candidate is put into normal form before anything is asked of it.

## Main definitions

* `normalize` — the candidate without white space and with its ASCII letters in upper case.
* `allowedAt` — which characters the layout admits at a position.
* `Defect` — the first rule that a candidate breaks, with `Defect.message` for its wording.

## References

The reference's `iban` functions `normalize` and `check_structure` and its `IbanError`; its
specification, 4.1, where normal form has all characters in upper case and not only those of ASCII.
-/

namespace IbanWatch.Iban

open Text

/-- The country code, which every identifier begins with; the reference's `COUNTRY_CODE`. -/
def country : List Char := ['R', 'O']

/-- The number of characters of an identifier in normal form, the reference's `IBAN_LENGTH`. -/
def length : Nat := 24

/-- The candidate without white space and with its ASCII letters in upper case, the reference's
`normalize`. -/
def normalize (candidate : String) : String :=
  String.ofList ((candidate.toList.filter fun c => !isBlank c).map Char.toUpper)

/-- Whether the character is one of the digits `0` to `9`. -/
def isDigit (c : Char) : Bool := '0' ≤ c && c ≤ '9'

/-- Whether the character is one of the letters `A` to `Z`. -/
def isCapital (c : Char) : Bool := 'A' ≤ c && c ≤ 'Z'

/-- Whether the layout admits the character at the position, counted from zero: letters of the
country, check digits, letters of the bank, then letters and digits of the account. -/
def allowedAt (position : Nat) (c : Char) : Bool :=
  if position < 2 then isCapital c
  else if position < 4 then isDigit c
  else if position < 8 then isCapital c
  else isDigit c || isCapital c

/-- The first rule that a candidate breaks, the reference's `IbanError`. -/
inductive Defect where
  /-- Nothing is left after the white space is taken out. -/
  | empty
  /-- It does not begin with the country code. -/
  | wrongCountry
  /-- It has this many characters. -/
  | wrongLength (found : Nat)
  /-- The layout does not admit this character here. -/
  | malformed (position : Nat) (found : Char)
  /-- The numeral it spells leaves this remainder and not one. -/
  | checksum (remainder : Nat)
  deriving DecidableEq, Repr

/-- The wording of a defect. -/
def Defect.message : Defect → String
  | .empty => "empty identifier"
  | .wrongCountry => "country code is not RO"
  | .wrongLength found => s!"expected 24 characters, found {found}"
  | .malformed position found =>
      s!"unexpected character {quotedChar found} at position {position}"
  | .checksum remainder => s!"checksum mismatch (remainder {remainder})"

end IbanWatch.Iban
