import IbanWatch.Time.Instant
import IbanWatch.Proofs.Text.Numerals
import IbanWatch.Proofs.Time.Calendar

/-!
# Reading a timestamp

A timestamp shows a date of the calendar and a time of day in universal time.  What it shows is said
here without the writer: how many digits each field has, when the year has a sign, and how long the
fraction is.  Such a text can be read in one way only, since the digits of the year end at the first
character that is no digit, and every field behind them has a fixed width up to the fraction.

The time that is read is counted back to an instant by the calendar.  The second 60 of a minute is a
leap second: it begins when the last second of the minute is over, so it counts as that second and
a thousand million nanoseconds more.

## Main definitions

* `CivilTime`, `CivilTime.IsValid` — a date and a time of day.
* `CivilTime.seconds`, `CivilTime.nanos` — the instant that it counts back to.
* `ShowsDigits`, `ShowsYear`, `ShowsFraction`, `Shows` — what a text shows.
* `Instant.civil` — the date and time of day of an instant.

## Main results

* `Shows.unique` — **a text shows one time at most**.
* `shows_timestamp`, `Instant.isValid_civil` — a timestamp shows the date and time of its instant.
* `Instant.seconds_civil`, `Instant.nanos_civil` — **which count back to the instant**.
* `Instant.year_bounds` — the years of all instants.
* `timestamp_injective` — different instants have different timestamps.
-/

namespace IbanWatch.Time

open Text

/-! ### Dates with a time of day -/

/-- A date and a time of day, to the nanosecond. -/
structure CivilTime where
  /-- The date. -/
  date : Date
  /-- The hour of the day. -/
  hour : Nat
  /-- The minute of the hour. -/
  minute : Nat
  /-- The second of the minute, where 60 is a leap second. -/
  second : Nat
  /-- The nanoseconds since the second began. -/
  fraction : Nat
  deriving DecidableEq, Repr

namespace CivilTime

/-- There is such a date and such a time of day. -/
structure IsValid (c : CivilTime) : Prop where
  /-- The date is one of the calendar. -/
  date : c.date.IsValid
  /-- The hours go up to 23. -/
  hour : c.hour ≤ 23
  /-- The minutes go up to 59. -/
  minute : c.minute ≤ 59
  /-- The seconds go up to 59, and a minute may have a leap second behind them. -/
  second : c.second ≤ 60
  /-- A second that is not over has fewer than a thousand million nanoseconds. -/
  fraction : c.fraction < nanosPerSecond

/-- The seconds since the beginning of 1970, a day having 86400 of them: a leap second counts as the
second before it. -/
def seconds (c : CivilTime) : Int :=
  c.date.dayNumber * 86400 + c.hour * 3600 + c.minute * 60 + min c.second 59

/-- The nanoseconds since the second that is counted: a leap second lies a whole second behind. -/
def nanos (c : CivilTime) : Nat := c.fraction + if c.second = 60 then nanosPerSecond else 0

end CivilTime

/-! ### What a text shows -/

/-- The text is this many decimal digits that spell the number. -/
structure ShowsDigits (width n : Nat) (text : List Char) : Prop where
  /-- The number of digits. -/
  length : text.length = width
  /-- There is nothing but digits. -/
  all : ∀ c ∈ text, c.isDigit = true
  /-- The digits spell the number. -/
  value : numeralValue 10 text = n

/-- A year with so many digits has four, or else no more than it needs. -/
def IsYearWidth (width year : Nat) : Prop := width = 4 ∨ 4 < width ∧ 10 ^ (width - 1) ≤ year

/-- The text shows the year: from year zero to year 9999 in four digits, and before and after with a
sign. -/
inductive ShowsYear : Int → List Char → Prop where
  /-- A year of four digits. -/
  | plain {year : Nat} {text : List Char} (h : year ≤ 9999) (hdigits : ShowsDigits 4 year text) :
      ShowsYear year text
  /-- A year before year zero. -/
  | before {year width : Nat} {text : List Char} (h : 0 < year) (hwidth : IsYearWidth width year)
      (hdigits : ShowsDigits width year text) : ShowsYear (-year) ('-' :: text)
  /-- A year after year 9999. -/
  | after {year width : Nat} {text : List Char} (h : 9999 < year) (hwidth : IsYearWidth width year)
      (hdigits : ShowsDigits width year text) : ShowsYear year ('+' :: text)

/-- The nanoseconds are exact in so many places of a fraction of a second. -/
def IsExact (places nanos : Nat) : Prop := 10 ^ (9 - places) ∣ nanos

/-- The text shows the nanoseconds as a fraction of a second, exactly and in the fewest of 0, 3, 6
and 9 places. -/
inductive ShowsFraction (nanos : Nat) : List Char → Prop where
  /-- There is nothing to show. -/
  | none (h : nanos = 0) : ShowsFraction nanos []
  /-- The places behind a point. -/
  | some {places : Nat} {text : List Char} (h : places ∈ [3, 6, 9]) (hexact : IsExact places nanos)
      (hfewest : ∀ fewer ∈ [0, 3, 6], fewer < places → ¬ IsExact fewer nanos)
      (hdigits : ShowsDigits places (nanos / 10 ^ (9 - places)) text) :
      ShowsFraction nanos ('.' :: text)

/-- The text shows the date and the time of day in universal time. -/
inductive Shows (c : CivilTime) : List Char → Prop where
  /-- The fields in their order, with what stands between them. -/
  | fields {year month day hour minute second fraction : List Char}
      (hyear : ShowsYear c.date.year year) (hmonth : ShowsDigits 2 c.date.month month)
      (hday : ShowsDigits 2 c.date.day day) (hhour : ShowsDigits 2 c.hour hour)
      (hminute : ShowsDigits 2 c.minute minute) (hsecond : ShowsDigits 2 c.second second)
      (hfraction : ShowsFraction c.fraction fraction) :
      Shows c (year ++ '-' :: (month ++ '-' :: (day ++ 'T' :: (hour ++ ':' :: (minute ++ ':' ::
        (second ++ (fraction ++ ['Z'])))))))

/-! ### A text shows one time at most -/

namespace ShowsDigits

/-- The digits tell the number. -/
theorem unique {width other n m : Nat} {text : List Char} (h : ShowsDigits width n text)
    (hm : ShowsDigits other m text) : n = m := by
  rw [← h.value, hm.value]

/-- A field of fixed width ends where its digits end. -/
theorem append_inj {width n m : Nat} {text text' rest rest' : List Char}
    (h : ShowsDigits width n text) (h' : ShowsDigits width m text')
    (heq : text ++ rest = text' ++ rest') : n = m ∧ rest = rest' := by
  obtain ⟨rfl, hrest⟩ := List.append_inj heq (h.length.trans h'.length.symm)
  exact ⟨h.unique h', hrest⟩

end ShowsDigits

/-- Digits end at the first character that is none. -/
theorem digits_append_inj {text text' rest rest' : List Char} {c : Char}
    (h : ∀ d ∈ text, d.isDigit = true) (h' : ∀ d ∈ text', d.isDigit = true)
    (hc : c.isDigit = false) (heq : text ++ c :: rest = text' ++ c :: rest') :
    text = text' ∧ rest = rest' := by
  have htake : ∀ {ds tail : List Char}, (∀ d ∈ ds, d.isDigit = true) →
      (ds ++ c :: tail).takeWhile Char.isDigit = ds := by
    intro ds tail hds
    rw [List.takeWhile_append_of_pos hds, List.takeWhile_cons_of_neg (by rw [hc]; decide),
      List.append_nil]
  obtain rfl : text = text' := by rw [← htake h, heq, htake h']
  exact ⟨rfl, (List.cons_eq_cons.mp (List.append_cancel_left heq)).2⟩

/-- A year of four digits begins with a digit. -/
theorem ShowsDigits.isDigit_of_cons {width n : Nat} {text rest rest' : List Char} {c : Char}
    (h : ShowsDigits (width + 1) n text) (heq : text ++ rest = c :: rest') : c.isDigit = true := by
  cases text with
  | nil => cases h.length
  | cons d text =>
    obtain ⟨rfl, -⟩ := List.cons_eq_cons.mp heq
    exact h.all d List.mem_cons_self

/-- The year is read up to the hyphen behind it. -/
theorem ShowsYear.append_inj {year year' : Int} {text text' rest rest' : List Char}
    (h : ShowsYear year text) (h' : ShowsYear year' text')
    (heq : text ++ '-' :: rest = text' ++ '-' :: rest') : year = year' ∧ rest = rest' := by
  have hhyphen : '-'.isDigit = false := by decide
  have hplus : '+'.isDigit = false := by decide
  -- The first character tells which of the three forms it is.
  cases h with
  | plain _ hd =>
    cases h' with
    | plain _ hd' =>
      obtain ⟨rfl, hrest⟩ := digits_append_inj hd.all hd'.all hhyphen heq
      exact ⟨congrArg _ (hd.unique hd'), hrest⟩
    | before _ _ _ => rw [hd.isDigit_of_cons heq] at hhyphen; cases hhyphen
    | after _ _ _ => rw [hd.isDigit_of_cons heq] at hplus; cases hplus
  | before _ _ hd =>
    cases h' with
    | plain _ hd' => rw [hd'.isDigit_of_cons heq.symm] at hhyphen; cases hhyphen
    | before _ _ hd' =>
      obtain ⟨rfl, hrest⟩ := digits_append_inj hd.all hd'.all hhyphen (List.cons_eq_cons.mp heq).2
      exact ⟨by rw [hd.unique hd'], hrest⟩
    | after _ _ _ => cases (List.cons_eq_cons.mp heq).1
  | after _ _ hd =>
    cases h' with
    | plain _ hd' => rw [hd'.isDigit_of_cons heq.symm] at hplus; cases hplus
    | before _ _ _ => cases (List.cons_eq_cons.mp heq).1
    | after _ _ hd' =>
      obtain ⟨rfl, hrest⟩ := digits_append_inj hd.all hd'.all hhyphen (List.cons_eq_cons.mp heq).2
      exact ⟨by rw [hd.unique hd'], hrest⟩

theorem ShowsFraction.unique {nanos nanos' : Nat} {text : List Char} (h : ShowsFraction nanos text)
    (h' : ShowsFraction nanos' text) : nanos = nanos' := by
  cases h with
  | none hn =>
    cases h' with
    | none hn' => rw [hn, hn']
  | @some places _ hplaces hexact hfewest hdigits =>
    cases h' with
    | @some places' _ hplaces' hexact' hfewest' hdigits' =>
      obtain rfl : places = places' := hdigits.length.symm.trans hdigits'.length
      rw [← Nat.div_mul_cancel hexact, ← Nat.div_mul_cancel hexact', hdigits.unique hdigits']

/-- **A text shows one time at most.** -/
theorem Shows.unique {c c' : CivilTime} {text : List Char} (h : Shows c text)
    (h' : Shows c' text) : c = c' := by
  cases h with
  | fields hyear hmonth hday hhour hminute hsecond hfraction =>
    generalize htext : _ ++ '-' :: _ = text at h'
    cases h' with
    | fields hyear' hmonth' hday' hhour' hminute' hsecond' hfraction' =>
      -- Field by field, what stands behind a field is the same in both readings.
      obtain ⟨heqYear, htext⟩ := hyear.append_inj hyear' htext
      obtain ⟨heqMonth, htext⟩ := hmonth.append_inj hmonth' htext
      obtain ⟨heqDay, htext⟩ := hday.append_inj hday' (List.cons_eq_cons.mp htext).2
      obtain ⟨heqHour, htext⟩ := hhour.append_inj hhour' (List.cons_eq_cons.mp htext).2
      obtain ⟨heqMinute, htext⟩ := hminute.append_inj hminute' (List.cons_eq_cons.mp htext).2
      obtain ⟨heqSecond, htext⟩ := hsecond.append_inj hsecond' (List.cons_eq_cons.mp htext).2
      obtain rfl := List.append_cancel_right htext
      have heqFraction := hfraction.unique hfraction'
      obtain ⟨⟨y, mo, d⟩, h, mi, s, f⟩ := c
      obtain ⟨⟨y', mo', d'⟩, h', mi', s', f'⟩ := c'
      simp only at heqYear heqMonth heqDay heqHour heqMinute heqSecond heqFraction
      rw [heqYear, heqMonth, heqDay, heqHour, heqMinute, heqSecond, heqFraction]

/-! ### What is written -/

theorem length_padded (width n : Nat) :
    (padded width n).length = max width (Nat.toDigits 10 n).length := by
  simp only [padded, List.length_append, List.length_replicate]
  omega

/-- What is written are digits that spell the number. -/
theorem showsDigits_padded (width n : Nat) :
    ShowsDigits (max width (Nat.toDigits 10 n).length) n (padded width n) := by
  refine ⟨length_padded width n, ?_, ?_⟩
  · intro c hc
    rcases List.mem_append.mp hc with hzero | hdigit
    · rw [List.eq_of_mem_replicate hzero]
      decide
    · exact Nat.isDigit_of_mem_toDigits (by decide) (by decide) hdigit
  · have hzeros : ∀ k, numeralValue 10 (List.replicate k '0') = 0 := by
      intro k
      induction k with
      | zero => rfl
      | succ k ih => rw [List.replicate_succ', numeralValue_append, ih]; rfl
    rw [padded, numeralValue_append, hzeros, Nat.zero_mul, Nat.zero_add,
      numeralValue_toDigits (by decide) (by decide)]

/-- A number that fits the width is written in that width. -/
theorem showsDigits_padded_of_lt {width n : Nat} (hwidth : 0 < width) (h : n < 10 ^ width) :
    ShowsDigits width n (padded width n) := by
  have hlength := (Nat.length_toDigits_le_iff (by decide) hwidth).mpr h
  have hdigits := showsDigits_padded width n
  rwa [Nat.max_eq_left hlength] at hdigits

theorem isYearWidth_max (year : Nat) : IsYearWidth (max 4 (Nat.toDigits 10 year).length) year := by
  rcases Nat.lt_or_ge 4 (Nat.toDigits 10 year).length with hlong | hshort
  · have hneeded : ¬ (Nat.toDigits 10 year).length ≤ (Nat.toDigits 10 year).length - 1 := by omega
    rw [Nat.length_toDigits_le_iff (by decide) (by omega), Nat.not_lt] at hneeded
    rw [Nat.max_eq_right (by omega)]
    exact .inr ⟨hlong, hneeded⟩
  · rw [Nat.max_eq_left hshort]
    exact .inl rfl

/-- The year is written as it is to be shown. -/
theorem showsYear_yearText (year : Int) : ShowsYear year (yearText year) := by
  unfold yearText
  by_cases hbefore : year < 0
  · have hyear : year = -(year.natAbs : Int) := by omega
    rw [if_pos hbefore]
    generalize year.natAbs = n at hyear ⊢
    subst hyear
    exact .before (by omega) (isYearWidth_max n) (showsDigits_padded 4 n)
  have hyear : year = (year.natAbs : Int) := by omega
  rw [if_neg hbefore]
  generalize year.natAbs = n at hyear ⊢
  subst hyear
  by_cases hafter : 9999 < (n : Int)
  · rw [if_pos hafter]
    exact .after (by omega) (isYearWidth_max n) (showsDigits_padded 4 n)
  · rw [if_neg hafter]
    exact .plain (by omega) (showsDigits_padded_of_lt (by decide) (by omega))

/-- The fraction is written in the fewest places that are exact. -/
theorem showsFraction_fractionText {nanos : Nat} (h : nanos < nanosPerSecond) :
    ShowsFraction nanos (fractionText nanos) := by
  have hlt : nanos < 1000000000 := h
  have hexact : ∀ places, IsExact places nanos ↔ nanos % 10 ^ (9 - places) = 0 :=
    fun places => Nat.dvd_iff_mod_eq_zero
  unfold fractionText
  split
  · next hnone => exact .none hnone
  next hsome =>
  -- No fewer places would do: in each case the smaller numbers of places were refused before.
  have hzero : ¬ IsExact 0 nanos := by
    rw [hexact]
    omega
  split
  · next hplaces =>
    refine .some (by decide) ((hexact 3).mpr hplaces) ?_
      (showsDigits_padded_of_lt (by decide) (by omega))
    simp [hzero]
  next hplaces =>
  have hthree : ¬ IsExact 3 nanos := fun h => hplaces ((hexact 3).mp h)
  split
  · next hplaces =>
    refine .some (by decide) ((hexact 6).mpr hplaces) ?_
      (showsDigits_padded_of_lt (by decide) (by omega))
    simp [hzero, hthree]
  next hplaces =>
  have hsix : ¬ IsExact 6 nanos := fun h => hplaces ((hexact 6).mp h)
  refine .some (by decide) ((hexact 9).mpr (Nat.mod_one _)) ?_ ?_
  · simp [hzero, hthree, hsix]
  · rw [Nat.sub_self, Nat.pow_zero, Nat.div_one]
    exact showsDigits_padded_of_lt (by decide) hlt

/-! ### The time of an instant -/

namespace Instant

/-- The date and the time of day of an instant, where a leap second is the second 60. -/
def civil (t : Instant) : CivilTime where
  date := Date.ofDayNumber (t.seconds / 86400)
  hour := (t.seconds % 86400).toNat / 3600
  minute := (t.seconds % 86400).toNat / 60 % 60
  second := (t.seconds % 86400).toNat % 60 + if nanosPerSecond ≤ t.nanos then 1 else 0
  fraction := if nanosPerSecond ≤ t.nanos then t.nanos - nanosPerSecond else t.nanos

/-- In a leap second there are nanoseconds for two seconds, and the second is the last of its
minute. -/
theorem of_leap (t : Instant) (h : nanosPerSecond ≤ t.nanos) :
    t.nanos < 2 * nanosPerSecond ∧ t.seconds % 60 = 59 := by
  rcases t.exists_instant.2 with hlt | hleap
  · exact absurd h (Nat.not_le.mpr hlt)
  · exact hleap

/-- An instant shows a leap second when it has nanoseconds for one. -/
theorem second_civil (t : Instant) : t.civil.second = 60 ↔ nanosPerSecond ≤ t.nanos := by
  have hleap := t.of_leap
  simp only [civil]
  split
  · omega
  · omega

theorem isValid_civil (t : Instant) : t.civil.IsValid := by
  have hleap := t.of_leap
  refine ⟨Date.isValid_ofDayNumber _, ?_, ?_, ?_, ?_⟩
  · simp only [civil]
    omega
  · simp only [civil]
    omega
  · simp only [civil]
    split
    · omega
    · omega
  · simp only [civil]
    split
    · omega
    · omega

/-- **The date and the time of day count back to the seconds of the instant.** -/
theorem seconds_civil (t : Instant) : t.civil.seconds = t.seconds := by
  have hleap := t.of_leap
  simp only [CivilTime.seconds, civil, Date.dayNumber_ofDayNumber]
  split
  · omega
  · omega

/-- **The fraction, with the leap second, counts back to the nanoseconds of the instant.** -/
theorem nanos_civil (t : Instant) : t.civil.nanos = t.nanos := by
  rw [CivilTime.nanos]
  simp only [t.second_civil]
  simp only [civil]
  split
  · omega
  · omega

/-- The years of all instants. -/
theorem year_bounds (t : Instant) :
    -262143 ≤ t.civil.date.year ∧ t.civil.date.year ≤ 262142 := by
  have hbounds := t.isValid_civil.date.dayNumber_bounds
  have hnumber : t.civil.date.dayNumber = t.seconds / 86400 := Date.dayNumber_ofDayNumber _
  have hrange : firstSecond ≤ t.seconds ∧ t.seconds ≤ lastSecond := t.exists_instant.1
  rw [firstSecond, lastSecond] at hrange
  have hfirst : Date.firstDay (-262143) = -96465292 := by decide
  have hlast : Date.firstDay 262143 = 95026237 := by decide
  constructor
  · by_contra hlt
    have := Date.firstDay_mono (show t.civil.date.year + 1 ≤ -262143 by omega)
    omega
  · by_contra hgt
    have := Date.firstDay_mono (show 262143 ≤ t.civil.date.year by omega)
    omega

end Instant

/-- Two digits are enough for a month and for a day of it. -/
theorem Date.IsValid.lt_hundred {date : Date} (h : date.IsValid) :
    date.month < 10 ^ 2 ∧ date.day < 10 ^ 2 := by
  have hmonth := h.month
  have hday := h.day
  have hlength := (Date.monthLength_bounds date.year date.month).2
  omega

/-- **A timestamp shows the date and the time of day of its instant.** -/
theorem shows_timestamp (t : Instant) : Shows t.civil t.timestamp.toList := by
  have hvalid := t.isValid_civil
  have htext : t.timestamp.toList =
      yearText t.civil.date.year ++ '-' :: (padded 2 t.civil.date.month
        ++ '-' :: (padded 2 t.civil.date.day ++ 'T' :: (padded 2 t.civil.hour ++ ':' ::
          (padded 2 t.civil.minute ++ ':' :: (padded 2 t.civil.second
            ++ (fractionText t.civil.fraction ++ ['Z'])))))) := by
    simp [Instant.timestamp, Date.text, Instant.timeText, Instant.civil]
  have htwo : ∀ {n}, n < 10 ^ 2 → ShowsDigits 2 n (padded 2 n) :=
    fun h => showsDigits_padded_of_lt (by decide) h
  obtain ⟨hmonth, hday⟩ := hvalid.date.lt_hundred
  rw [htext]
  exact .fields (showsYear_yearText _) (htwo hmonth) (htwo hday)
    (htwo (Nat.lt_of_le_of_lt hvalid.hour (by decide)))
    (htwo (Nat.lt_of_le_of_lt hvalid.minute (by decide)))
    (htwo (Nat.lt_of_le_of_lt hvalid.second (by decide)))
    (showsFraction_fractionText hvalid.fraction)

/-- **Different instants have different timestamps.** -/
theorem timestamp_injective : Function.Injective Instant.timestamp := by
  intro t t' heq
  have hcivil : t.civil = t'.civil := by
    have hshows := shows_timestamp t
    rw [heq] at hshows
    exact hshows.unique (shows_timestamp t')
  have hseconds : t.seconds = t'.seconds := by rw [← t.seconds_civil, hcivil, t'.seconds_civil]
  have hnanos : t.nanos = t'.nanos := by rw [← t.nanos_civil, hcivil, t'.nanos_civil]
  obtain ⟨seconds, nanos, _⟩ := t
  obtain ⟨seconds', nanos', _⟩ := t'
  simp only at hseconds hnanos
  subst hseconds
  subst hnanos
  rfl

end IbanWatch.Time
