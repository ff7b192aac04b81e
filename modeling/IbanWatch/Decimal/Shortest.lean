/-!
# The shortest decimal of a floating-point number

A finite double is a natural number times a power of two, and the reals that round to it form an
interval around it.  Among the decimals in that interval the ones with the fewest digits are kept,
and of those the one nearest to the number.  All comparisons are made on natural numbers, so they
are exact.

## Main definitions

* `Dyadic`, `Dyadic.ofBits` — a finite number as `m * 2 ^ q`, read from its bits.
* `Decimal` — a decimal number `digits * 10 ^ exponent`.
* `Dyadic.roundsFrom` — whether a decimal lies in the interval of a number.
* `Dyadic.shortest` — the fewest digits that identify a number.
-/

namespace IbanWatch

/-- A finite number without its sign, `m * 2 ^ q`. -/
structure Dyadic where
  /-- The significand. -/
  m : Nat
  /-- The exponent of two. -/
  q : Int
  /-- The gap to the next smaller number is half the gap to the next larger one. -/
  narrowBelow : Bool
  deriving Repr, DecidableEq

/-- A decimal number without its sign, `digits * 10 ^ exponent`. -/
structure Decimal where
  /-- The digits, read as one natural number. -/
  digits : Nat
  /-- The exponent of ten. -/
  exponent : Int
  deriving Repr, DecidableEq

namespace Dyadic

/-- The magnitude of the finite double with these bits. -/
def ofBits (bits : UInt64) : Dyadic :=
  let biased := ((bits >>> 52) &&& 0x7FF).toNat
  let fraction := (bits &&& 0xFFFFFFFFFFFFF).toNat
  if biased = 0 then ⟨fraction, -1074, false⟩
  else ⟨0x10000000000000 + fraction, (biased : Int) - 1075, fraction == 0 && biased > 1⟩

/-- Compares `a * 10 ^ i` with `n * 2 ^ j`. -/
def compareScaled (a : Nat) (i : Int) (n : Nat) (j : Int) : Ordering :=
  compare (a * Nat.pow 10 i.toNat * Nat.pow 2 (-j).toNat)
    (n * Nat.pow 2 j.toNat * Nat.pow 10 (-i).toNat)

/-- Whether the decimal rounds to the number.  The interval reaches halfway to either neighbour,
and its ends belong to it when the significand is even. -/
def roundsFrom (x : Dyadic) (d : Decimal) : Bool :=
  let low := if x.narrowBelow then 4 * x.m - 1 else 4 * x.m - 2
  let high := 4 * x.m + 2
  let closed := x.m % 2 == 0
  let belowHigh := compareScaled d.digits d.exponent high (x.q - 2)
  let aboveLow := compareScaled d.digits d.exponent low (x.q - 2)
  (aboveLow == .gt || (closed && aboveLow == .eq))
    && (belowHigh == .lt || (closed && belowHigh == .eq))

/-- The least `k` for which a number other than zero is below `10 ^ k`.  The binary logarithm gives
it up to a step or two. -/
def decimalScale (x : Dyadic) : Int :=
  let guess := Int.fdiv (((x.m.log2 : Int) + x.q) * 1233) 4096
  if compareScaled 1 guess x.m x.q == .gt then guess
  else if compareScaled 1 (guess + 1) x.m x.q == .gt then guess + 1
  else guess + 2

/-- The greatest multiple of `10 ^ grid` that is not above the number, counted in such steps. -/
def floorOn (x : Dyadic) (grid : Int) : Nat :=
  x.m * Nat.pow 2 x.q.toNat * Nat.pow 10 (-grid).toNat
    / (Nat.pow 2 (-x.q).toNat * Nat.pow 10 grid.toNat)

/-- The decimal on the grid `10 ^ grid` that rounds to the number, if one of the two neighbours
does.  Of two, the nearer one is taken, and at equal distance the even one or, with `tiesUp`, the
upper one. -/
def onGrid? (tiesUp : Bool) (x : Dyadic) (grid : Int) : Option Decimal :=
  let below := x.floorOn grid
  let lower : Decimal := ⟨below, grid⟩
  let upper : Decimal := ⟨below + 1, grid⟩
  match x.roundsFrom lower, x.roundsFrom upper with
  | true, true =>
    match compareScaled (2 * below + 1) grid (2 * x.m) x.q with
    | .gt => some lower
    | .lt => some upper
    | .eq => some (if tiesUp || below % 2 == 1 then upper else lower)
  | true, false => some lower
  | false, true => some upper
  | false, false => none

/-- Moves the trailing zeros of the digits into the exponent, at most `steps` of them. -/
def dropZeros : (steps : Nat) → Decimal → Decimal
  | 0, d => d
  | steps + 1, d =>
    if d.digits ≠ 0 && d.digits % 10 == 0 then dropZeros steps ⟨d.digits / 10, d.exponent + 1⟩
    else d

/-- The exact value of the number as a decimal. -/
def exact (x : Dyadic) : Decimal :=
  if 0 ≤ x.q then ⟨x.m * Nat.pow 2 x.q.toNat, 0⟩ else ⟨x.m * Nat.pow 5 (-x.q).toNat, x.q⟩

/-- The decimal with the fewest digits that rounds to the number, without trailing zeros.
Seventeen digits always suffice for a double. -/
def shortest (tiesUp : Bool) (x : Dyadic) : Decimal :=
  if x.m = 0 then ⟨0, 0⟩
  else
    let scale := x.decimalScale
    let found := (List.range 17).findSome?
      fun (n : Nat) => x.onGrid? tiesUp (scale - ((n : Int) + 1))
    dropZeros 17 (found.getD x.exact)

end Dyadic

end IbanWatch
