/-!
# The Gregorian calendar

Dates of the calendar carried on into the past and the future, each with its number counted from
the first day of 1970.  The year is taken to begin in March, so that the leap day is its last day
and the lengths of the months run 31, 30, 31, 30, 31 over and over; four centuries are one period
of 146097 days.

## Main definitions

* `Date` — a year, a month and a day.
* `Date.IsLeap`, `Date.monthLength` — which years have a leap day, and how long a month is.
* `Date.ofDayNumber` — the date of a day number.
-/

namespace IbanWatch.Time

/-- A date of the calendar; the year before year one is year zero. -/
structure Date where
  /-- The year. -/
  year : Int
  /-- The month, from 1 to 12. -/
  month : Nat
  /-- The day of the month, from 1. -/
  day : Nat
  deriving DecidableEq, Repr

namespace Date

/-- The year has a leap day: every fourth year has, but of the full centuries only every fourth. -/
def IsLeap (year : Int) : Prop := 4 ∣ year ∧ (¬ 100 ∣ year ∨ 400 ∣ year)

instance (year : Int) : Decidable (IsLeap year) := inferInstanceAs (Decidable (_ ∧ _))

/-- The number of days in a month of a year. -/
def monthLength (year : Int) (month : Nat) : Nat :=
  match month with
  | 2 => if IsLeap year then 29 else 28
  | 4 | 6 | 9 | 11 => 30
  | _ => 31

/-- The number of days in a period of four centuries. -/
def periodDays : Nat := 146097

/-- The number of days from the first of March of year zero to the first of January of 1970. -/
def epochOffset : Int := 719468

/-- The year of its period in which a day of the period lies, years beginning in March. -/
def yearOfPeriod (day : Nat) : Nat :=
  (day - day / 1460 + day / 36524 - day / 146096) / 365

/-- The number of days in the first `year` years of a period. -/
def daysBeforeYear (year : Nat) : Nat := 365 * year + year / 4 - year / 100

/-- The month, counted from March, in which a day of the year lies. -/
def monthOfYear (day : Nat) : Nat := (5 * day + 2) / 153

/-- The number of days in the first `month` months of a year that begins in March. -/
def daysBeforeMonth (month : Nat) : Nat := (153 * month + 2) / 5

/-- The date whose number, counted from the first of January of 1970, is `number`. -/
def ofDayNumber (number : Int) : Date :=
  let day := number + epochOffset
  let period := day / periodDays
  let dayOfPeriod := (day % periodDays).toNat
  let year := yearOfPeriod dayOfPeriod
  let dayOfYear := dayOfPeriod - daysBeforeYear year
  let month := monthOfYear dayOfYear
  -- January and February belong to the calendar year that begins with them
  { year := period * 400 + year + (if month < 10 then 0 else 1)
    month := if month < 10 then month + 3 else month - 9
    day := dayOfYear - daysBeforeMonth month + 1 }

example : ofDayNumber 0 = ⟨1970, 1, 1⟩ ∧ ofDayNumber 11016 = ⟨2000, 2, 29⟩ := by decide

end Date

end IbanWatch.Time
