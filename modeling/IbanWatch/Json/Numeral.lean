import IbanWatch.Json.Fault
import IbanWatch.Json.Value

/-!
# JSON numbers

A numeral is read in two steps.  First its parts are told apart by the rules of the grammar, then
they are put together to a number.  The digits of the whole part and of the fraction go into one
significand of 64 bits; digits that no longer fit only move the exponent.  A significand without
fraction or exponent is an integer if it fits; everything else is a double, made from the
significand by one multiplication or division with a power of ten.

## Main definitions

* `Numeral` — the parts of a numeral.
* `Numeral.number` — the number it stands for, or where it turns out to be too large.
* `readNumeral` — the numeral at the head of a text.
-/

namespace IbanWatch.Json

open Text

/-! ### Parts -/

/-- Decimal digits from `0` to `9`, each as a number. -/
abbrev Digits := List Nat

/-- The exponent of a numeral. -/
structure Exponent where
  /-- Whether a minus sign stands before it. -/
  negative : Bool
  /-- Its digits. -/
  digits : Digits
  deriving DecidableEq, Repr

/-- The parts of a numeral. -/
structure Numeral where
  /-- Whether a minus sign stands before it. -/
  negative : Bool
  /-- The digits before the point. -/
  whole : Digits
  /-- The digits behind the point, if there is one. -/
  fraction : Option Digits
  /-- The exponent, if there is one. -/
  exponent : Option Exponent
  deriving DecidableEq, Repr

/-! ### Values -/

/-- Appends digits to a significand as long as it stays below `2 ^ 64`, and counts the digits from
the first that does not fit. -/
def gather (significand : Nat) : Digits → Nat × Nat
  | [] => (significand, 0)
  | d :: ds =>
    if significand * 10 + d < UInt64.size then gather (significand * 10 + d) ds
    else (significand, (d :: ds).length)

/-- The value of the digits of an exponent, or, as soon as it exceeds 31 bits, the number of digits
that are left. -/
def exponentValue (value : Nat) : Digits → Except Nat Nat
  | [] => .ok value
  | d :: ds =>
    if value * 10 + d < 0x80000000 then exponentValue (value * 10 + d) ds else .error ds.length

/-- Ten to the power `n`, for `n` up to 308. -/
def powerOfTen (n : Nat) : Float := .ofScientific 1 false n

/-- Divides by ten to the power `n`, in steps of `10 ^ 308` until nothing is left. -/
def divideByPower (x : Float) (n : Nat) : Float :=
  if n ≤ 308 then x / powerOfTen n
  else if x == 0 then x
  else divideByPower (x / powerOfTen 308) (n - 308)
  termination_by n

/-- Multiplies by ten to the power `e`, or answers `none` if the product is too large. -/
def scale? (x : Float) (e : Int) : Option Float :=
  if e < 0 then some (divideByPower x e.natAbs)
  else if e ≤ 308 then
    let product := x * powerOfTen e.natAbs
    if product.isInf then none else some product
  else if x == 0 then some x
  else none

/-- The double `x` with the sign of the numeral. -/
def Numeral.signed (numeral : Numeral) (x : Float) : Number :=
  .real (if numeral.negative then -x else x)

/-- The number that a bare significand stands for. -/
def Numeral.integer (numeral : Numeral) (significand : Nat) : Number :=
  if !numeral.negative then .integer significand
  else if significand = 0 || significand > 0x8000000000000000 then
    numeral.signed (.ofScientific significand false 0)
  else .integer (-(significand : Int))

/-- The number that the numeral stands for.  A number that is too large is noticed at the end of the
numeral or, by its exponent alone, in the middle of it: the error counts the digits that were not
looked at. -/
def Numeral.number (numeral : Numeral) : Except Nat Number :=
  let (whole, moved) := gather 0 numeral.whole
  let fraction := numeral.fraction.getD []
  let (significand, ignored) := gather whole fraction
  let places : Int := (moved : Int) - ((fraction.length - ignored : Nat) : Int)
  let scaled (e : Int) : Except Nat Number :=
    match scale? (.ofScientific significand false 0) e with
    | some x => .ok (numeral.signed x)
    | none => .error 0
  match numeral.exponent with
  | none =>
    if numeral.fraction.isNone && moved = 0 then .ok (numeral.integer significand)
    else scaled places
  | some exponent =>
    match exponentValue 0 exponent.digits with
    | .ok e => scaled (if exponent.negative then places - e else places + e)
    | .error unread =>
      if significand ≠ 0 && !exponent.negative then .error unread
      else .ok (numeral.signed 0)

/-! ### Reading -/

/-- Whether the byte is a decimal digit. -/
def isDigitByte (b : UInt8) : Bool := 48 ≤ b && b ≤ 57

/-- The value of a digit. -/
def digitValue (b : UInt8) : Nat := b.toNat - 48

/-- The digits at the head of the text, and the rest. -/
def readDigits (s : Bytes) : Digits × Bytes :=
  ((s.takeWhile isDigitByte).map digitValue, s.dropWhile isDigitByte)

/-- The digits before the point: a zero that no digit follows, or digits without a leading zero. -/
def readWhole : Bytes → Except Fault (Digits × Bytes)
  | [] => .error (.before .endInValue [])
  | 48 :: rest =>
    match rest with
    | b :: _ => if isDigitByte b then .error (.on .badNumber rest) else .ok ([0], rest)
    | [] => .ok ([0], [])
  | b :: rest =>
    if isDigitByte b then .ok (readDigits (b :: rest)) else .error (.before .badNumber rest)

/-- The point and the digits behind it, at least one, if a point comes next. -/
def readFraction : Bytes → Except Fault (Option Digits × Bytes)
  | 46 :: rest =>
    match readDigits rest with
    | ([], []) => .error (.on .endInValue [])
    | ([], b :: rest') => .error (.on .badNumber (b :: rest'))
    | (digits, rest') => .ok (some digits, rest')
  | s => .ok (none, s)

/-- The sign before the digits of an exponent, if there is one. -/
def readExponentSign : Bytes → Bool × Bytes
  | 43 :: rest => (false, rest)
  | 45 :: rest => (true, rest)
  | s => (false, s)

/-- The mark `e` or `E` with the exponent behind it, if the mark comes next. -/
def readExponent : Bytes → Except Fault (Option Exponent × Bytes)
  | [] => .ok (none, [])
  | b :: rest =>
    if b = 101 || b = 69 then
      let (negative, digits) := readExponentSign rest
      match digits with
      | [] => .error (.before .endInValue [])
      | d :: rest' =>
        if isDigitByte d then
          let (digits, rest'') := readDigits (d :: rest')
          .ok (some ⟨negative, digits⟩, rest'')
        else .error (.before .badNumber rest')
    else .ok (none, b :: rest)

/-- The numeral at the head of the text, after its sign. -/
def readNumeral (negative : Bool) (s : Bytes) : Except Fault (Numeral × Bytes) := do
  let (whole, s) ← readWhole s
  let (fraction, s) ← readFraction s
  let (exponent, s) ← readExponent s
  return (⟨negative, whole, fraction, exponent⟩, s)

/-- The number at the head of the text, after its sign. -/
def readNumber (negative : Bool) (s : Bytes) : Except Fault (Number × Bytes) := do
  let (numeral, rest) ← readNumeral negative s
  match numeral.number with
  | .ok n => return (n, rest)
  | .error unread => throw ⟨.numberOutOfRange, rest.length + unread⟩

/-! ### What is left is shorter -/

theorem length_readDigits_le (s : Bytes) : (readDigits s).2.length ≤ s.length :=
  (List.dropWhile_suffix isDigitByte).length_le

theorem length_lt_of_readWhole {s rest : Bytes} {digits : Digits}
    (h : readWhole s = .ok (digits, rest)) : rest.length < s.length := by
  unfold readWhole at h
  split at h
  · cases h
  · split at h
    · split at h
      · cases h
      · cases h; simp
    · cases h; simp
  · next b rest' _ =>
    split at h
    · next hd =>
      cases h
      have := length_readDigits_le rest'
      simpa [readDigits, hd] using Nat.lt_succ_of_le this
    · cases h

theorem length_le_of_readFraction {s rest : Bytes} {digits : Option Digits}
    (h : readFraction s = .ok (digits, rest)) : rest.length ≤ s.length := by
  unfold readFraction at h
  split at h
  · next rest' =>
    have hle := length_readDigits_le rest'
    split at h
    · cases h
    · cases h
    · next hr =>
      cases h
      rw [hr] at hle
      exact Nat.le_succ_of_le hle
  · cases h
    exact Nat.le_refl _

theorem length_readExponentSign_le (s : Bytes) : (readExponentSign s).2.length ≤ s.length := by
  unfold readExponentSign
  split <;> simp

theorem length_le_of_readExponent {s rest : Bytes} {exponent : Option Exponent}
    (h : readExponent s = .ok (exponent, rest)) : rest.length ≤ s.length := by
  unfold readExponent at h
  split at h
  · cases h; simp
  · next b rest' =>
    split at h
    · have hs := length_readExponentSign_le rest'
      split at h
      next negative digits heq =>
      rw [heq] at hs
      split at h
      · cases h
      · next d rest'' =>
        split at h
        · have hd := length_readDigits_le (d :: rest'')
          cases h
          simp only [readDigits, List.length_cons] at hs hd ⊢
          omega
        · cases h
    · cases h
      exact Nat.le_refl _

theorem length_lt_of_readNumber {negative : Bool} {s rest : Bytes} {n : Number}
    (h : readNumber negative s = .ok (n, rest)) : rest.length < s.length := by
  cases hw : readWhole s with
  | error fault => simp [readNumber, readNumeral, hw, bind, Except.bind] at h
  | ok whole =>
  cases hf : readFraction whole.2 with
  | error fault => simp [readNumber, readNumeral, hw, hf, bind, Except.bind] at h
  | ok fraction =>
  cases he : readExponent fraction.2 with
  | error fault => simp [readNumber, readNumeral, hw, hf, he, bind, Except.bind] at h
  | ok exponent =>
    have h₁ := length_lt_of_readWhole hw
    have h₂ := length_le_of_readFraction hf
    have h₃ := length_le_of_readExponent he
    simp only [readNumber, readNumeral, hw, hf, he, bind, Except.bind, pure, Except.pure] at h
    split at h
    · cases h
      omega
    · cases h

end IbanWatch.Json
