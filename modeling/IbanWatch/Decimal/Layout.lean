import IbanWatch.Decimal.Shortest

/-!
# How decimals are written

A decimal is written positionally, with the point before, inside or after its digits, or
scientifically, with one digit before the point and the exponent of ten behind a mark.

## Main definitions

* `Decimal.leadingExponent` — the exponent of ten of the first digit.
* `Decimal.positional`, `Decimal.scientific` — the two ways to write a decimal.
* `plainText` — a double in positional form, whatever its size.
* `compactText` — a double in the form that suits its size.
-/

namespace IbanWatch

namespace Decimal

/-- The digits as characters. -/
def digitText (d : Decimal) : List Char := Nat.toDigits 10 d.digits

/-- The exponent of ten of the first digit. -/
def leadingExponent (d : Decimal) : Int := d.exponent + (d.digitText.length : Int) - 1

/-- The decimal with its point in place; `whole` is written behind a whole number. -/
def positional (whole : List Char) (d : Decimal) : List Char :=
  let digits := d.digitText
  if 0 ≤ d.exponent then digits ++ List.replicate d.exponent.toNat '0' ++ whole
  else
    let places := (-d.exponent).toNat
    if places < digits.length then
      digits.take (digits.length - places) ++ '.' :: digits.drop (digits.length - places)
    else '0' :: '.' :: (List.replicate (places - digits.length) '0' ++ digits)

/-- The decimal with one digit before the point and a signed exponent of ten. -/
def scientific (d : Decimal) : List Char :=
  let mantissa := match d.digitText with
    | first :: second :: rest => first :: '.' :: second :: rest
    | digits => digits
  let e := d.leadingExponent
  let sign := if 0 ≤ e then '+' else '-'
  mantissa ++ 'e' :: sign :: Nat.toDigits 10 e.natAbs

end Decimal

/-- The sign in front of a double. -/
def signText (x : Float) : List Char := if x.toBits >>> 63 == 1 then ['-'] else []

/-- The double in positional form with the fewest digits that identify it; a whole number has no
point, and of two decimals at equal distance the upper one is taken. -/
def plainText (x : Float) : String :=
  if x.isNaN then "NaN"
  else if x.isInf then String.ofList (signText x ++ ['i', 'n', 'f'])
  else String.ofList (signText x ++ ((Dyadic.ofBits x.toBits).shortest true).positional [])

/-- The finite double with the fewest digits that identify it: positionally, with `.0` behind a
whole number, if its first digit stands from `10 ^ -5` to `10 ^ 15`, and else scientifically. -/
def compactText (x : Float) : String :=
  let d := (Dyadic.ofBits x.toBits).shortest false
  let body :=
    if -5 ≤ d.leadingExponent && d.leadingExponent ≤ 15 then d.positional ['.', '0']
    else d.scientific
  String.ofList (signText x ++ body)

example : compactText 1e16 = "1e+16" ∧ compactText 123456789.125 = "123456789.125" := by
  decide +kernel

example : plainText 1e21 = "1000000000000000000000" := by decide +kernel

end IbanWatch
