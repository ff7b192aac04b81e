import IbanWatch.Time.Date

/-!
# Instants

An instant is a number of seconds counted from the first day of 1970 and a number of nanoseconds.
In the last second of a minute the nanoseconds may go past a thousand million: the instant then
lies in a leap second behind it.

## Main definitions

* `Instant`, `Instant.ofUnix?` — the instants from year -262143 to year 262142.
* `Instant.timestamp` — the instant as a date and a time of day.

## References

The `DateTime<Utc>` of `chrono`, which the reference's `FraudAlert` holds, and its form in JSON.
-/

namespace IbanWatch.Time

/-- The first second of year -262143. -/
def firstSecond : Int := -8334601228800

/-- The last second of year 262142. -/
def lastSecond : Int := 8210266876799

/-- The number of nanoseconds in a second. -/
def nanosPerSecond : Nat := 1000000000

/-- The seconds lie within the calendar, and there are nanoseconds for one second or, behind the
last second of a minute, for two. -/
def InstantExists (seconds : Int) (nanos : Nat) : Prop :=
  (firstSecond ≤ seconds ∧ seconds ≤ lastSecond) ∧
    (nanos < nanosPerSecond ∨ (nanos < 2 * nanosPerSecond ∧ seconds % 60 = 59))

instance (seconds : Int) (nanos : Nat) : Decidable (InstantExists seconds nanos) :=
  inferInstanceAs (Decidable (_ ∧ _))

/-- A point in time. -/
structure Instant where
  /-- The seconds since the beginning of 1970. -/
  seconds : Int
  /-- The nanoseconds since then. -/
  nanos : Nat
  /-- There is such an instant. -/
  exists_instant : InstantExists seconds nanos
  deriving DecidableEq

namespace Instant

/-- The instant at these seconds and nanoseconds, if there is one. -/
def ofUnix? (seconds : Int) (nanos : Nat) : Option Instant :=
  if h : InstantExists seconds nanos then some ⟨seconds, nanos, h⟩ else none

/-- The beginning of 1970. -/
def epoch : Instant := ⟨0, 0, by decide⟩

instance : Inhabited Instant := ⟨epoch⟩

end Instant

/-! ### Timestamps -/

/-- The decimal digits of `n`, padded with zeros to a width. -/
def padded (width n : Nat) : List Char :=
  let digits := Nat.toDigits 10 n
  List.replicate (width - digits.length) '0' ++ digits

/-- The year in four digits; before year zero and after year 9999 a sign stands before it. -/
def yearText (year : Int) : List Char :=
  if year < 0 then '-' :: padded 4 year.natAbs
  else if 9999 < year then '+' :: padded 4 year.natAbs
  else padded 4 year.natAbs

/-- The date as year, month and day. -/
def Date.text (date : Date) : List Char :=
  yearText date.year ++ '-' :: (padded 2 date.month ++ '-' :: padded 2 date.day)

/-- The fraction of a second in the shortest of 0, 3, 6 or 9 digits that is exact. -/
def fractionText (nanos : Nat) : List Char :=
  if nanos = 0 then []
  else if nanos % 1000000 = 0 then '.' :: padded 3 (nanos / 1000000)
  else if nanos % 1000 = 0 then '.' :: padded 6 (nanos / 1000)
  else '.' :: padded 9 nanos

namespace Instant

/-- The time of day of the instant: hour, minute, second and fraction.  A leap second is the second
60 of its minute. -/
def timeText (t : Instant) : List Char :=
  let ofDay := (t.seconds % 86400).toNat
  let leap := nanosPerSecond ≤ t.nanos
  let second := ofDay % 60 + (if leap then 1 else 0)
  let nanos := if leap then t.nanos - nanosPerSecond else t.nanos
  padded 2 (ofDay / 3600) ++ ':' :: (padded 2 (ofDay / 60 % 60) ++ ':' ::
    (padded 2 second ++ fractionText nanos))

/-- The instant as its date and time of day in universal time. -/
def timestamp (t : Instant) : String :=
  String.ofList ((Date.ofDayNumber (t.seconds / 86400)).text ++ 'T' :: (t.timeText ++ ['Z']))

example : epoch.timestamp = "1970-01-01T00:00:00Z" := by decide +kernel

end Instant

end IbanWatch.Time
