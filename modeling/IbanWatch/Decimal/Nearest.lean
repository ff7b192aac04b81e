import IbanWatch.Decimal.Shortest

/-!
# The floating-point number nearest to a decimal

## Main definitions

* `Decimal.toFloat` — the double nearest to a decimal.
-/

namespace IbanWatch.Decimal

/-- The double nearest to the decimal; of two at equal distance the even one, and infinity from the
middle behind the greatest double on.  A decimal of at least `10 ^ 310` or below `10 ^ -330` is told
by the number of its digits, so that no huge power is computed. -/
def toFloat (d : Decimal) : Float :=
  let size := d.exponent + (Nat.toDigits 10 d.digits).length
  if d.digits = 0 then 0
  else if 310 < size then 1 / 0
  else if size < -330 then 0
  else Float.ofScientific d.digits (d.exponent < 0) d.exponent.natAbs

end IbanWatch.Decimal
