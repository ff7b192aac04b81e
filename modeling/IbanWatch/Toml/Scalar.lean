import IbanWatch.Decimal.Nearest
import IbanWatch.Time.Instant
import IbanWatch.Toml.Text

/-!
# Values without parts

Besides strings there are integers, floating-point numbers, truth values and moments.  An underscore
may stand between two digits of a number.  A moment is a date, a time of day, or both with or
without an offset; it is kept in its normal form.

## Main definitions

* `Scalar` — a value without parts.
* `moment`, `number`, `truth` — readers of each kind.
* `momentOf?` — the moment that a string spells.
* `scalar` — a value of any of these kinds.
-/

namespace IbanWatch.Toml

open Text Reader Time

/-- A value without parts. -/
inductive Scalar where
  /-- A string. -/
  | text (value : String)
  /-- An integer of 64 bits with its sign. -/
  | integer (value : Int)
  /-- A floating-point number. -/
  | real (value : Float)
  /-- A truth value. -/
  | truth (value : Bool)
  /-- A date, a time of day or both, in normal form. -/
  | moment (value : String)
  deriving Repr

/-! ### Moments -/

/-- A numeral of a fixed number of digits. -/
def fixedNumeral (digits : Nat) : Reader Nat :=
  numeralValue 10 <$> (List.replicate digits Char.isDigit).mapM one

/-- A numeral of two digits within bounds. -/
def pairWithin (low high : Nat) : Reader Nat := do
  let n ← fixedNumeral 2
  if low ≤ n ∧ n ≤ high then return n else failure

/-- A date of the calendar. -/
def date : Reader (List Char) := do
  let year ← fixedNumeral 4
  char '-'
  let month ← pairWithin 1 12
  char '-'
  let day ← pairWithin 1 (Date.monthLength year month)
  return Date.text ⟨year, month, day⟩

/-- The fraction of a second in normal form: at most nine digits, and no zero at the end. -/
def fraction : Reader (List Char) := do
  char '.'
  let digits ← run Char.isDigit
  match ((digits.take 9).reverse.dropWhile (· == '0')).reverse with
  | [] => return []
  | kept => return '.' :: kept

/-- A time of day; a minute may have a leap second. -/
def timeOfDay : Reader (List Char) := do
  let hour ← pairWithin 0 23
  char ':'
  let minute ← pairWithin 0 59
  char ':'
  let second ← pairWithin 0 60
  let part ← optionally fraction
  return padded 2 hour ++ ':' :: (padded 2 minute ++ ':' :: (padded 2 second ++ part.getD []))

/-- The offset of a place from universal time. -/
def offset : Reader (List Char) :=
  (do
    let _ ← one fun c => c == 'Z' || c == 'z'
    return ['Z'])
  <|> do
    let sign ← one fun c => c == '+' || c == '-'
    let hours ← pairWithin 0 23
    char ':'
    let minutes ← pairWithin 0 59
    let shown := if hours = 0 ∧ minutes = 0 then '+' else sign
    return shown :: (padded 2 hours ++ ':' :: padded 2 minutes)

/-- What may follow a date: a time of day, and an offset behind it. -/
def timeBehindDate : Reader (List Char) := do
  let _ ← one fun c => c == 'T' || c == 't' || c == ' '
  let time ← timeOfDay
  let place ← optionally offset
  return 'T' :: (time ++ place.getD [])

/-- A moment in normal form. -/
def moment : Reader String :=
  (do
    let day ← date
    let time ← optionally timeBehindDate
    return String.ofList (day ++ time.getD []))
  <|> String.ofList <$> timeOfDay

/-- The moment, in normal form, that the whole of a string spells. -/
def momentOf? (s : String) : Option String := ((moment <* finish) s.toList).map (·.1)

example : momentOf? "1979-05-27 23:59:60.50-00:00" = some "1979-05-27T23:59:60.5+00:00" := by
  decide +kernel

example : momentOf? "24:00:00" = none := by decide +kernel

/-! ### Numbers -/

/-- Digits with single underscores between them, which are left out. -/
def digitRun (accepted : Char → Bool) : Reader (List Char) := do
  let first ← one accepted
  let more ← many (one accepted <|> char '_' *> one accepted)
  return first :: more

/-- The digits of a whole number, which begin with zero only if there is no other. -/
def wholeDigits : Reader (List Char) :=
  (do
    let c ← one (· == '0')
    return [c])
  <|> digitRun Char.isDigit

/-- Whether there is a minus sign; a plus sign may stand in its place. -/
def minusSign : Reader Bool :=
  (char '-' *> pure true) <|> (char '+' *> pure false) <|> pure false

/-- A whole number behind a mark for its base. -/
def basedNumeral (mark : Char) (base : Nat) (accepted : Char → Bool) : Reader Nat :=
  word ['0', mark] *> numeralValue base <$> digitRun accepted

/-- The least number that no integer reaches, `2 ^ 63`. -/
def integerBound : Nat := 0x8000000000000000

/-- An integer in a base other than ten, which has no sign. -/
def basedInteger : Reader Scalar := do
  let n ← basedNumeral 'x' 16 isHexDigit
    <|> basedNumeral 'o' 8 (fun c => '0' ≤ c && c ≤ '7')
    <|> basedNumeral 'b' 2 (fun c => c == '0' || c == '1')
  if n < integerBound then return .integer n else failure

/-- A number that has a fraction or an exponent, given by its digits.  One that is too large is
refused, though only when it is positive. -/
def realOf (negative : Bool) (whole part : List Char) (exponent : Int) : Option Scalar :=
  let d : Decimal := ⟨numeralValue 10 (whole ++ part), exponent - part.length⟩
  let x := d.toFloat
  if negative then some (.real (-x))
  else if x.isInf then none
  else some (.real x)

/-- The exponent of ten of a number. -/
def exponent : Reader Int := do
  let _ ← one fun c => c == 'e' || c == 'E'
  let negative ← minusSign
  let n := numeralValue 10 (← digitRun Char.isDigit)
  return if negative then -n else n

/-- A number in base ten. -/
def decimalNumber : Reader Scalar := do
  let negative ← minusSign
  let whole ← wholeDigits
  let part ← optionally (char '.' *> digitRun Char.isDigit)
  let power ← optionally exponent
  match part, power with
  | none, none =>
    let n := numeralValue 10 whole
    if negative then if n ≤ integerBound then return .integer (-n) else failure
    else if n < integerBound then return .integer n else failure
  | _, _ => StateT.lift (realOf negative whole (part.getD []) (power.getD 0))

/-- Infinity, or what is no number. -/
def specialNumber : Reader Scalar := do
  let negative ← minusSign
  let x ← (word ['i', 'n', 'f'] *> pure (1 / 0 : Float))
    <|> (word ['n', 'a', 'n'] *> pure (0 / 0 : Float))
  return .real (if negative then -x else x)

/-- A number. -/
def number : Reader Scalar := basedInteger <|> decimalNumber <|> specialNumber

/-! ### Any of them -/

/-- A truth value. -/
def truth : Reader Scalar :=
  (word ['t', 'r', 'u', 'e'] *> pure (.truth true))
    <|> word ['f', 'a', 'l', 's', 'e'] *> pure (.truth false)

/-- A value without parts. -/
def scalar : Reader Scalar :=
  (.text <$> text) <|> truth <|> (.moment <$> moment) <|> number

end IbanWatch.Toml
