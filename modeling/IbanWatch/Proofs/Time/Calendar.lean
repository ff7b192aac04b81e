import IbanWatch.Time.Date
import Mathlib.Tactic.IntervalCases

/-!
# Counting days by the calendar

The number of a day is found by going through the calendar: 365 days for each year since 1970 and
one more for each leap year among them, then the lengths of the months that are over, then the day
of the month.  Years before year one count backwards by the same rule.  The date of a number goes
the other way by an arithmetic of its own, with years that begin in March and periods of four
centuries, and here it is shown to be the inverse.

A day of a period is told by its century, its cycle of four years, its year in the cycle and its
day in that year.  The last cycle of a century is a day short, except in the last century, and only
the last year of a cycle has a leap day: that is all there is to the corrections in `yearOfPeriod`.

## Main definitions

* `yearLength` — the length of a year.
* `firstDay`, `daysBefore`, `dayNumber` — the number of a day, counted from the first of January of
  1970.
* `IsValid`, `next` — the dates that there are, and the day after a date.

## Main results

* `firstDay_succ`, `dayNumber_next` — the numbers go up by one from day to day.
* `yearOfPeriod_eq` — the year of a period in which a day lies.
* `isValid_ofDayNumber`, `dayNumber_ofDayNumber` — **the date of a number is a date of the calendar,
  and counts up to that number**.
* `dayNumber_inj`, `ofDayNumber_succ` — no other date does, so the date of the next number is the
  next day.
-/

namespace IbanWatch.Time

namespace Date

/-! ### Years and months -/

/-- The number of days in a year. -/
def yearLength (year : Int) : Nat := if IsLeap year then 366 else 365

/-- A month has a day, and no more than 31. -/
theorem monthLength_bounds (year : Int) (month : Nat) :
    1 ≤ monthLength year month ∧ monthLength year month ≤ 31 := by
  unfold monthLength
  split
  · split
    · decide
    · decide
  all_goals decide

/-! ### The number of a day -/

/-- The number of leap years before a year, counted from year one; below zero the leap years are
counted that lie between. -/
def leapYearsBefore (year : Int) : Int := (year - 1) / 4 - (year - 1) / 100 + (year - 1) / 400

theorem leapYearsBefore_succ (year : Int) :
    leapYearsBefore (year + 1) = leapYearsBefore year + if IsLeap year then 1 else 0 := by
  by_cases hleap : IsLeap year
  · rw [if_pos hleap]
    unfold IsLeap at hleap
    unfold leapYearsBefore
    omega
  · rw [if_neg hleap]
    unfold IsLeap at hleap
    unfold leapYearsBefore
    omega

/-- The number of the first of January of a year. -/
def firstDay (year : Int) : Int :=
  365 * (year - 1970) + (leapYearsBefore year - leapYearsBefore 1970)

/-- The year after a year begins when its days are over. -/
theorem firstDay_succ (year : Int) : firstDay (year + 1) = firstDay year + yearLength year := by
  rw [firstDay, firstDay, leapYearsBefore_succ, yearLength]
  split
  · omega
  · omega

/-- The number of days in the months of a year that are over when a month begins. -/
def daysBefore (year : Int) (month : Nat) : Nat :=
  ((List.range' 1 (month - 1)).map (monthLength year)).sum

/-- The number of a date, counted from the first of January of 1970. -/
def dayNumber (date : Date) : Int :=
  firstDay date.year + daysBefore date.year date.month + (date.day - 1)

example : dayNumber ⟨1970, 1, 1⟩ = 0 ∧ dayNumber ⟨-262143, 1, 1⟩ = -96465292
    ∧ dayNumber ⟨262142, 12, 31⟩ = 95026236 := by decide

theorem dayNumber_mk_succ (year : Int) (month day : Nat) :
    dayNumber ⟨year, month, day + 1⟩ = firstDay year + daysBefore year month + day := by
  show firstDay year + daysBefore year month + ((day + 1 : Nat) - 1 : Int) = _
  omega

theorem daysBefore_one (year : Int) : daysBefore year 1 = 0 := rfl

theorem daysBefore_succ (year : Int) {month : Nat} (h : 1 ≤ month) :
    daysBefore year (month + 1) = daysBefore year month + monthLength year month := by
  obtain ⟨m, rfl⟩ : ∃ m, month = m + 1 := ⟨month - 1, by omega⟩
  rw [daysBefore, daysBefore, Nat.add_sub_cancel, Nat.add_sub_cancel, List.range'_1_concat,
    List.map_append, List.sum_append, List.map_singleton, List.sum_singleton, Nat.add_comm 1 m]

/-- The twelve months make up the year. -/
theorem daysBefore_thirteen (year : Int) : daysBefore year 13 = yearLength year := by
  rw [yearLength]
  split
  · next h => simp [daysBefore, monthLength, List.range', h]
  · next h => simp [daysBefore, monthLength, List.range', h]

/-- A month that is over is over when a later one begins. -/
theorem daysBefore_add_le (year : Int) {month later : Nat} (h : 1 ≤ month) (hlt : month < later) :
    daysBefore year month + monthLength year month ≤ daysBefore year later := by
  induction later with
  | zero => omega
  | succ later ih =>
    rw [daysBefore_succ year (by omega)]
    rcases Nat.lt_or_ge month later with hmonth | hmonth
    · exact Nat.le_trans (ih hmonth) (Nat.le_add_right _ _)
    · obtain rfl : month = later := by omega
      exact Nat.le_refl _

/-! ### Dates of the calendar -/

/-- There is such a date. -/
structure IsValid (date : Date) : Prop where
  /-- The months go from one to twelve. -/
  month : 1 ≤ date.month ∧ date.month ≤ 12
  /-- The days go from one to the length of the month. -/
  day : 1 ≤ date.day ∧ date.day ≤ monthLength date.year date.month

theorem IsValid.mk_succ {year : Int} {month day : Nat} (hlow : 1 ≤ month) (hhigh : month ≤ 12)
    (hday : day < monthLength year month) : IsValid ⟨year, month, day + 1⟩ :=
  ⟨⟨hlow, hhigh⟩, Nat.le_add_left _ _, hday⟩

/-- The day after a date. -/
def next (date : Date) : Date :=
  if date.day < monthLength date.year date.month then ⟨date.year, date.month, date.day + 1⟩
  else if date.month < 12 then ⟨date.year, date.month + 1, 1⟩
  else ⟨date.year + 1, 1, 1⟩

theorem IsValid.next {date : Date} (h : date.IsValid) : date.next.IsValid := by
  unfold Date.next
  split
  · next hday => exact .mk_succ h.month.1 h.month.2 hday
  split
  · next hmonth => exact .mk_succ (Nat.le_add_left _ _) hmonth ((monthLength_bounds _ _).1)
  · exact .mk_succ (by decide) (by decide) ((monthLength_bounds _ _).1)

/-- **The numbers go up by one from day to day**, over the ends of months and years. -/
theorem dayNumber_next {date : Date} (h : date.IsValid) :
    date.next.dayNumber = date.dayNumber + 1 := by
  have hmonth := h.month
  have hday := h.day
  unfold Date.next
  -- The next day is in the same month, in the next month or in the next year.
  split
  · simp only [dayNumber]
    omega
  split
  · simp only [dayNumber, daysBefore_succ date.year hmonth.1]
    omega
  · obtain hlast : date.month = 12 := by omega
    have hyear := daysBefore_thirteen date.year
    rw [daysBefore_succ date.year (by decide), ← hlast] at hyear
    simp only [dayNumber, firstDay_succ, daysBefore_one]
    omega

theorem IsValid.dayNumber_bounds {date : Date} (h : date.IsValid) :
    firstDay date.year ≤ date.dayNumber ∧ date.dayNumber < firstDay (date.year + 1) := by
  have hday := h.day
  have hover := daysBefore_add_le date.year h.month.1 (Nat.lt_succ_of_le h.month.2)
  rw [daysBefore_thirteen] at hover
  rw [firstDay_succ, dayNumber]
  omega

theorem firstDay_mono {year later : Int} (h : year ≤ later) : firstDay year ≤ firstDay later := by
  unfold firstDay leapYearsBefore
  omega

/-- **Only one date has a given number.** -/
theorem dayNumber_inj {date other : Date} (h : date.IsValid) (hother : other.IsValid)
    (heq : date.dayNumber = other.dayNumber) : date = other := by
  have hbounds := h.dayNumber_bounds
  have hotherBounds := hother.dayNumber_bounds
  -- Years do not overlap, and neither do the months of a year.
  have hyear : date.year = other.year := by
    by_contra hne
    rcases Int.lt_or_gt_of_ne hne with hlt | hgt
    · have := firstDay_mono (show date.year + 1 ≤ other.year by omega)
      omega
    · have := firstDay_mono (show other.year + 1 ≤ date.year by omega)
      omega
  have hday := h.day
  have hotherDay := hother.day
  rw [dayNumber, dayNumber, hyear] at heq
  rw [hyear] at hday
  have hmonth : date.month = other.month := by
    by_contra hne
    rcases Nat.lt_or_gt_of_ne hne with hlt | hgt
    · have := daysBefore_add_le other.year h.month.1 hlt
      omega
    · have := daysBefore_add_le other.year hother.month.1 hgt
      omega
  rw [hmonth] at heq
  obtain ⟨year, month, day⟩ := date
  obtain ⟨year', month', day'⟩ := other
  simp only at hyear hmonth heq
  rw [hyear, hmonth, show day = day' by omega]

/-! ### The days of a period -/

/-- A day of a period is told by its century, its cycle of four years, its year in the cycle and
its day in that year.  Only the last year of a cycle has a day 366, and in the last cycle of a
century only that of the last century. -/
theorem exists_cycles {day : Nat} (h : day < periodDays) :
    ∃ century cycle year rest, century ≤ 3 ∧ cycle ≤ 24 ∧ year ≤ 3 ∧ rest ≤ 365
      ∧ day = 36524 * century + 1461 * cycle + 365 * year + rest
      ∧ (rest = 365 → year = 3 ∧ (cycle = 24 → century = 3)) := by
  rw [periodDays] at h
  obtain ⟨century, r, hday, hcentury, hr⟩ : ∃ century r, day = 36524 * century + r
      ∧ century ≤ 3 ∧ (r < 36524 ∨ century = 3 ∧ r = 36524) :=
    ⟨min (day / 36524) 3, day - 36524 * min (day / 36524) 3, by omega, by omega, by omega⟩
  obtain ⟨year, rest, hrest, hyear, hle⟩ : ∃ year rest, r % 1461 = 365 * year + rest
      ∧ year ≤ 3 ∧ (rest < 365 ∨ year = 3 ∧ rest = 365) :=
    ⟨min (r % 1461 / 365) 3, r % 1461 - 365 * min (r % 1461 / 365) 3, by omega, by omega,
      by omega⟩
  exact ⟨century, r / 1461, year, rest, hcentury, by omega, hyear, by omega, by omega, by omega⟩

/-- **The year of a period in which a day lies.** -/
theorem yearOfPeriod_eq {century cycle year rest : Nat} (hcentury : century ≤ 3)
    (hcycle : cycle ≤ 24) (hyear : year ≤ 3) (hrest : rest ≤ 365)
    (hlast : rest = 365 → year = 3 ∧ (cycle = 24 → century = 3)) :
    yearOfPeriod (36524 * century + 1461 * cycle + 365 * year + rest)
      = 100 * century + 4 * cycle + year := by
  have hcycles : (36524 * century + 1461 * cycle + 365 * year + rest) / 1460
      = 25 * century + cycle + (24 * century + cycle + 365 * year + rest) / 1460 := by omega
  have hcenturies : (36524 * century + 1461 * cycle + 365 * year + rest) / 36524
      = century + (1461 * cycle + 365 * year + rest) / 36524 := by omega
  -- The last day of the period is the only one behind the full centuries and the full period.
  have hperiod : (36524 * century + 1461 * cycle + 365 * year + rest) / 146096
      = (1461 * cycle + 365 * year + rest) / 36524 := by omega
  rw [yearOfPeriod, hcycles, hcenturies, hperiod]
  interval_cases year <;> omega

theorem daysBeforeYear_eq {century cycle year : Nat} (hcycle : cycle ≤ 24) (hyear : year ≤ 3) :
    daysBeforeYear (100 * century + 4 * cycle + year)
      = 36524 * century + 1461 * cycle + 365 * year := by
  unfold daysBeforeYear
  omega

/-- The year of a period in which a day lies begins on that day or before it, and the day is its
last only where a leap day is. -/
theorem yearOfPeriod_spec {day : Nat} (h : day < periodDays) :
    ∃ rest, day = daysBeforeYear (yearOfPeriod day) + rest ∧ yearOfPeriod day ≤ 399 ∧ rest ≤ 365
      ∧ (rest = 365 → ∀ period : Int, IsLeap (period * 400 + yearOfPeriod day + 1)) := by
  obtain ⟨century, cycle, year, rest, hcentury, hcycle, hyear, hrest, rfl, hlast⟩ := exists_cycles h
  rw [yearOfPeriod_eq hcentury hcycle hyear hrest hlast, daysBeforeYear_eq hcycle hyear]
  refine ⟨rest, rfl, by omega, hrest, ?_⟩
  intro heq period
  obtain ⟨rfl, hcycle⟩ := hlast heq
  unfold IsLeap
  omega

/-! ### The months of a year that begins in March -/

/-- The month in which a day lies has begun, and the next one has not. -/
theorem monthOfYear_spec {day : Nat} (h : day ≤ 365) :
    monthOfYear day ≤ 11 ∧ daysBeforeMonth (monthOfYear day) ≤ day
      ∧ day < daysBeforeMonth (monthOfYear day + 1) := by
  unfold monthOfYear daysBeforeMonth
  omega

/-- From March on, the months of a calendar year are those of the year that begins in March, behind
January and February. -/
theorem daysBefore_of_march (year : Int) {month : Nat} (h : month < 10) :
    daysBefore year (month + 3) = (if IsLeap year then 60 else 59) + daysBeforeMonth month := by
  split
  · next hleap =>
    interval_cases month <;> simp [daysBefore, monthLength, List.range', daysBeforeMonth, hleap]
  · next hleap =>
    interval_cases month <;> simp [daysBefore, monthLength, List.range', daysBeforeMonth, hleap]

theorem monthLength_of_march (year : Int) {month : Nat} (h : month < 10) :
    monthLength year (month + 3) = daysBeforeMonth (month + 1) - daysBeforeMonth month := by
  interval_cases month <;> simp [monthLength, daysBeforeMonth]

/-! ### The date of a number -/

/-- The number of the first of March of a year. -/
def firstOfMarch (year : Int) : Int := firstDay year + if IsLeap year then 60 else 59

/-- Where March begins, told by the periods of four centuries. -/
theorem firstOfMarch_of_period (period : Int) (year : Nat) (h : year ≤ 399) :
    firstOfMarch (period * 400 + year)
      = period * periodDays + daysBeforeYear year - epochOffset := by
  -- Each period has 97 leap years, and the year itself counts from its first of March on.
  have hleaps : leapYearsBefore (period * 400 + year)
      + (if IsLeap (period * 400 + year) then 1 else 0)
      = period * 97 + (year / 4 - year / 100 : Nat) := by
    rw [← leapYearsBefore_succ, leapYearsBefore]
    omega
  rw [firstOfMarch, firstDay, periodDays, daysBeforeYear, epochOffset,
    show leapYearsBefore 1970 = 477 by decide]
  by_cases hleap : IsLeap (period * 400 + year)
  · rw [if_pos hleap] at hleaps ⊢
    omega
  · rw [if_neg hleap] at hleaps ⊢
    omega

/-- The date of a day, counted from the first of March of a year. -/
def ofMarch (year : Int) (day : Nat) : Date where
  year := year + if monthOfYear day < 10 then 0 else 1
  month := if monthOfYear day < 10 then monthOfYear day + 3 else monthOfYear day - 9
  day := day - daysBeforeMonth (monthOfYear day) + 1

/-- The date lies in the calendar year in which March begins, or in January or February of the year
after. -/
theorem ofMarch_cases {day : Nat} (h : day ≤ 365) (year : Int) :
    (∃ month < 10, daysBeforeMonth month ≤ day ∧ day < daysBeforeMonth (month + 1)
        ∧ ofMarch year day = ⟨year, month + 3, day - daysBeforeMonth month + 1⟩)
      ∨ (306 ≤ day ∧ day < 337 ∧ ofMarch year day = ⟨year + 1, 1, day - 306 + 1⟩)
      ∨ (337 ≤ day ∧ ofMarch year day = ⟨year + 1, 2, day - 337 + 1⟩) := by
  obtain ⟨hmonth, hbegun, hleft⟩ := monthOfYear_spec h
  unfold ofMarch
  generalize monthOfYear day = month at hmonth hbegun hleft ⊢
  by_cases hyear : month < 10
  · refine .inl ⟨month, hyear, hbegun, hleft, ?_⟩
    rw [if_pos hyear, if_pos hyear, Int.add_zero]
  · rw [if_neg hyear, if_neg hyear]
    obtain rfl | rfl : month = 10 ∨ month = 11 := by omega
    · exact .inr (.inl ⟨hbegun, hleft, rfl⟩)
    · exact .inr (.inr ⟨hbegun, rfl⟩)

theorem isValid_ofMarch {year : Int} {day : Nat} (h : day ≤ 365)
    (hlast : day = 365 → IsLeap (year + 1)) : (ofMarch year day).IsValid := by
  rcases ofMarch_cases h year with
    ⟨month, hmonth, hbegun, hleft, heq⟩ | ⟨hlow, hhigh, heq⟩ | ⟨hlow, heq⟩
  · have hlength := monthLength_of_march year hmonth
    rw [heq]
    exact .mk_succ (Nat.le_add_left _ _) (by omega) (by omega)
  · rw [heq]
    exact .mk_succ (by decide) (by decide) (show day - 306 < 31 by omega)
  -- The day 366 of such a year is the leap day.
  · have hfebruary : day - 337 < if IsLeap (year + 1) then 29 else 28 := by
      split
      · omega
      · next hleap =>
        have hne : day ≠ 365 := fun heq => hleap (hlast heq)
        omega
    rw [heq]
    exact .mk_succ (by decide) (by decide) hfebruary

theorem dayNumber_ofMarch (year : Int) {day : Nat} (h : day ≤ 365) :
    (ofMarch year day).dayNumber = firstOfMarch year + day := by
  have hyear := firstDay_succ year
  rw [yearLength] at hyear
  rw [firstOfMarch]
  rcases ofMarch_cases h year with
    ⟨month, hmonth, hbegun, hleft, heq⟩ | ⟨hlow, hhigh, heq⟩ | ⟨hlow, heq⟩
  · rw [heq, dayNumber_mk_succ, daysBefore_of_march year hmonth]
    split
    · omega
    · omega
  · rw [heq, dayNumber_mk_succ, hyear, show daysBefore (year + 1) 1 = 0 from rfl]
    split
    · omega
    · omega
  · rw [heq, dayNumber_mk_succ, hyear, show daysBefore (year + 1) 2 = 31 from rfl]
    split
    · omega
    · omega

/-- The date of a number is that of a day counted from a first of March, and the day is a 366th only
where a leap day is. -/
theorem ofDayNumber_eq (number : Int) : ∃ year day, ofDayNumber number = ofMarch year day
    ∧ day ≤ 365 ∧ (day = 365 → IsLeap (year + 1)) ∧ number = firstOfMarch year + day := by
  have hday : ((number + epochOffset) % periodDays).toNat < periodDays := by
    unfold periodDays
    omega
  have hnumber : number + epochOffset = (number + epochOffset) / periodDays * periodDays
      + ((number + epochOffset) % periodDays).toNat := by
    unfold periodDays
    omega
  simp only [ofDayNumber]
  generalize (number + epochOffset) / periodDays = period at hnumber ⊢
  generalize ((number + epochOffset) % periodDays).toNat = day at hday hnumber ⊢
  -- What is left of the period is a year and a day in it.
  obtain ⟨rest, hsplit, hyear, hle, hlast⟩ := yearOfPeriod_spec hday
  have hdayOfYear : day - daysBeforeYear (yearOfPeriod day) = rest := by omega
  refine ⟨period * 400 + yearOfPeriod day, rest, ?_, hle, fun heq => hlast heq period, ?_⟩
  · rw [hdayOfYear, ofMarch]
  · rw [firstOfMarch_of_period period _ hyear]
    omega

/-- **The date of a number is a date of the calendar.** -/
theorem isValid_ofDayNumber (number : Int) : (ofDayNumber number).IsValid := by
  obtain ⟨year, day, heq, hday, hlast, -⟩ := ofDayNumber_eq number
  rw [heq]
  exact isValid_ofMarch hday hlast

/-- **The date of a number counts up to that number.** -/
theorem dayNumber_ofDayNumber (number : Int) : (ofDayNumber number).dayNumber = number := by
  obtain ⟨year, day, heq, hday, -, hnumber⟩ := ofDayNumber_eq number
  rw [heq, dayNumber_ofMarch year hday, hnumber]

/-- **The date of the next number is the next day.** -/
theorem ofDayNumber_succ (number : Int) :
    ofDayNumber (number + 1) = (ofDayNumber number).next := by
  have hvalid := isValid_ofDayNumber number
  refine dayNumber_inj (isValid_ofDayNumber _) hvalid.next ?_
  rw [dayNumber_next hvalid, dayNumber_ofDayNumber, dayNumber_ofDayNumber]

end Date

end IbanWatch.Time
