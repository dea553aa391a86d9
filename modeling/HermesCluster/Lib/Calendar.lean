import HermesCluster.Lib.FixedWidth
import Mathlib.Data.Nat.Find
import Mathlib.Data.String.Basic

/-!
# Naive dates with a time

The proleptic Gregorian calendar from year 1 to year 9999, with a time of day in microseconds, and
the ISO text of a date.

* `toMicroseconds`: how long after the first day of year 1 it is; `ofMicroseconds` is its inverse
  (`toMicroseconds_ofMicroseconds`).
* `isoformat_lt_iff`: the ISO texts stand in the order of the dates, although they differ in
  length.

Everything is counted in blocks of varying length (years, months) or of one length (days, hours),
and `block_lt_iff` says how the members of two blocks compare.
-/

namespace Calendar

open FixedWidth

/-! ### Blocks -/

/-- `f a` is where block `a` starts: members are compared by their blocks first. -/
theorem block_lt_iff {f : ℕ → ℕ} (hf : Monotone f) {a b i j : ℕ} (hi : f a + i < f (a + 1))
    (hj : f b + j < f (b + 1)) : f a + i < f b + j ↔ a < b ∨ a = b ∧ i < j := by
  rcases lt_trichotomy a b with hlt | rfl | hgt
  · have hle : f (a + 1) ≤ f b := hf hlt
    omega
  · omega
  · have hle : f (b + 1) ≤ f a := hf hgt
    omega

/-- Blocks of one length. -/
theorem mul_add_lt_iff {n a b i j : ℕ} (hi : i < n) (hj : j < n) :
    a * n + i < b * n + j ↔ a < b ∨ a = b ∧ i < j := by
  have hmono : Monotone (· * n) := fun _ _ h => Nat.mul_le_mul_right n h
  refine block_lt_iff hmono ?_ ?_
  · rw [Nat.succ_mul]
    omega
  · rw [Nat.succ_mul]
    omega

/-- The last block that starts at `n` or before, if `n` is before the block after `k`. -/
theorem findGreatest_block {f : ℕ → ℕ} {n k : ℕ} (h0 : f 0 ≤ n) (hk : n < f (k + 1)) :
    f (Nat.findGreatest (f · ≤ n) k) ≤ n ∧ n < f (Nat.findGreatest (f · ≤ n) k + 1) := by
  refine ⟨Nat.findGreatest_spec (P := (f · ≤ n)) (Nat.zero_le k) h0, ?_⟩
  rcases (Nat.findGreatest_le (P := (f · ≤ n)) k).eq_or_lt with heq | hlt
  · rw [heq]
    exact hk
  · have hnot := Nat.findGreatest_is_greatest (P := (f · ≤ n)) (Nat.lt_succ_self _) hlt
    exact not_le.mp hnot

/-! ### Days -/

def isLeap (year : ℕ) : Bool := year % 4 = 0 ∧ (year % 100 ≠ 0 ∨ year % 400 = 0)

def daysInYear (year : ℕ) : ℕ := if isLeap year then 366 else 365

/-- There is no day in a month that does not exist. -/
def daysInMonth (year : ℕ) : ℕ → ℕ
  | 2 => if isLeap year then 29 else 28
  | 4 | 6 | 9 | 11 => 30
  | 1 | 3 | 5 | 7 | 8 | 10 | 12 => 31
  | _ => 0

/-- The days of the years before. -/
def daysBeforeYear (year : ℕ) : ℕ :=
  (year - 1) * 365 + (year - 1) / 4 - (year - 1) / 100 + (year - 1) / 400

/-- The days of the months before, in the same year. -/
def daysBeforeMonth (year : ℕ) : ℕ → ℕ
  | 0 => 0
  | month + 1 => daysBeforeMonth year month + daysInMonth year month

/-- A year more adds one to a quotient when it is divisible. -/
theorem div_year {year : ℕ} (h : 1 ≤ year) (k : ℕ) :
    year / k = (year - 1) / k + if year % k = 0 then 1 else 0 := by
  obtain ⟨y, rfl⟩ : ∃ y, year = y + 1 := ⟨year - 1, by omega⟩
  simp only [Nat.succ_div, Nat.dvd_iff_mod_eq_zero, Nat.add_sub_cancel]

theorem daysBeforeYear_succ {year : ℕ} (h : 1 ≤ year) :
    daysBeforeYear (year + 1) = daysBeforeYear year + daysInYear year := by
  have hle : (year - 1) / 100 ≤ (year - 1) / 4 := Nat.div_le_div_left (by omega) (by omega)
  have h100 : year % 100 = 0 → year % 4 = 0 := fun h => by omega
  have h400 : year % 400 = 0 → year % 100 = 0 := fun h => by omega
  have hdays : daysInYear year =
      365 + (if year % 4 = 0 then 1 else 0) + (if year % 400 = 0 then 1 else 0) -
        (if year % 100 = 0 then 1 else 0) := by
    simp only [daysInYear, isLeap, decide_eq_true_eq]
    split_ifs <;> omega
  rw [daysBeforeYear, daysBeforeYear, hdays, Nat.add_sub_cancel, div_year h 4, div_year h 100,
    div_year h 400]
  generalize (year - 1) / 4 = q4, (year - 1) / 100 = q100, (year - 1) / 400 = q400 at *
  split_ifs <;> omega

theorem monotone_daysBeforeYear : Monotone daysBeforeYear := by
  refine monotone_nat_of_le_succ fun year => ?_
  rcases Nat.eq_zero_or_pos year with rfl | hpos
  · exact le_rfl
  · rw [daysBeforeYear_succ hpos]
    exact Nat.le_add_right _ _

theorem le_daysBeforeYear (year : ℕ) : (year - 1) * 365 ≤ daysBeforeYear year := by
  rw [daysBeforeYear]
  omega

theorem monotone_daysBeforeMonth (year : ℕ) : Monotone (daysBeforeMonth year) :=
  monotone_nat_of_le_succ fun _ => Nat.le_add_right _ _

/-- The months make up the year. -/
theorem daysBeforeMonth_thirteen (year : ℕ) : daysBeforeMonth year 13 = daysInYear year := by
  rw [daysInYear]
  cases h : isLeap year with
  | false => simp [daysBeforeMonth, daysInMonth, h]
  | true => simp [daysBeforeMonth, daysInMonth, h]

/-! ### Dates -/

/-- A `datetime` without an offset. -/
structure NaiveDateTime where
  year : ℕ
  month : ℕ
  day : ℕ
  hour : ℕ
  minute : ℕ
  second : ℕ
  microsecond : ℕ
  year_pos : 1 ≤ year
  year_le : year ≤ 9999
  month_pos : 1 ≤ month
  month_le : month ≤ 12
  day_pos : 1 ≤ day
  day_le : day ≤ daysInMonth year month
  hour_lt : hour < 24
  minute_lt : minute < 60
  second_lt : second < 60
  microsecond_lt : microsecond < 1000000

/-- The microseconds of a day. -/
abbrev dayLength : ℕ := 86400000000

namespace NaiveDateTime

/-- The microseconds since midnight. -/
def timeOfDay (a : NaiveDateTime) : ℕ :=
  a.hour * 3600000000 + (a.minute * 60000000 + (a.second * 1000000 + a.microsecond))

/-- The microseconds since 0001-01-01T00:00:00. -/
def toMicroseconds (a : NaiveDateTime) : ℕ :=
  daysBeforeYear a.year * dayLength +
    (daysBeforeMonth a.year a.month * dayLength + ((a.day - 1) * dayLength + a.timeOfDay))

/-- The fields compared one after the other. -/
def FieldsBefore (a b : NaiveDateTime) : Prop :=
  a.year < b.year ∨ a.year = b.year ∧
    (a.month < b.month ∨ a.month = b.month ∧
      (a.day < b.day ∨ a.day = b.day ∧
        (a.hour < b.hour ∨ a.hour = b.hour ∧
          (a.minute < b.minute ∨ a.minute = b.minute ∧
            (a.second < b.second ∨ a.second = b.second ∧ a.microsecond < b.microsecond)))))

/-! ### The order of the dates -/

variable (a b : NaiveDateTime)

theorem timeOfDay_lt : a.timeOfDay < dayLength := by
  have := a.hour_lt
  have := a.minute_lt
  have := a.second_lt
  have := a.microsecond_lt
  rw [timeOfDay, dayLength]
  omega

/-- A date lies in its month. -/
theorem month_bound : daysBeforeMonth a.year a.month * dayLength +
    ((a.day - 1) * dayLength + a.timeOfDay) <
      daysBeforeMonth a.year (a.month + 1) * dayLength := by
  have := a.day_pos
  have := a.day_le
  have := a.timeOfDay_lt
  rw [daysBeforeMonth]
  simp only [dayLength] at *
  omega

/-- A date lies in its year. -/
theorem year_bound : a.toMicroseconds < daysBeforeYear (a.year + 1) * dayLength := by
  have hle : daysBeforeMonth a.year (a.month + 1) ≤ daysInYear a.year := by
    rw [← daysBeforeMonth_thirteen]
    exact monotone_daysBeforeMonth a.year (Nat.succ_le_succ a.month_le)
  calc a.toMicroseconds
      < daysBeforeYear a.year * dayLength + daysBeforeMonth a.year (a.month + 1) * dayLength :=
        Nat.add_lt_add_left a.month_bound _
    _ = (daysBeforeYear a.year + daysBeforeMonth a.year (a.month + 1)) * dayLength :=
        (Nat.add_mul _ _ _).symm
    _ ≤ daysBeforeYear (a.year + 1) * dayLength := by
        rw [daysBeforeYear_succ a.year_pos]
        exact Nat.mul_le_mul_right _ (Nat.add_le_add_left hle _)

theorem timeOfDay_lt_iff : a.timeOfDay < b.timeOfDay ↔
    a.hour < b.hour ∨ a.hour = b.hour ∧ (a.minute < b.minute ∨ a.minute = b.minute ∧
      (a.second < b.second ∨ a.second = b.second ∧ a.microsecond < b.microsecond)) := by
  have := a.minute_lt
  have := b.minute_lt
  have := a.second_lt
  have := b.second_lt
  have := a.microsecond_lt
  have := b.microsecond_lt
  rw [timeOfDay, timeOfDay, mul_add_lt_iff (by omega) (by omega),
    mul_add_lt_iff (by omega) (by omega), mul_add_lt_iff (by omega) (by omega)]

/-- A date is earlier than another exactly if its fields are before the other's. -/
theorem toMicroseconds_lt_iff : a.toMicroseconds < b.toMicroseconds ↔ FieldsBefore a b := by
  have hyears : Monotone fun year => daysBeforeYear year * dayLength :=
    fun _ _ h => Nat.mul_le_mul_right dayLength (monotone_daysBeforeYear h)
  have hmonths : Monotone fun month => daysBeforeMonth b.year month * dayLength :=
    fun _ _ h => Nat.mul_le_mul_right dayLength (monotone_daysBeforeMonth b.year h)
  have hday : ∀ c : NaiveDateTime, c.day - 1 + 1 = c.day := fun c => Nat.sub_add_cancel c.day_pos
  rw [toMicroseconds, toMicroseconds, block_lt_iff hyears a.year_bound b.year_bound, FieldsBefore]
  refine or_congr_right (and_congr_right fun hy => ?_)
  have hbound := a.month_bound
  rw [hy] at hbound ⊢
  rw [block_lt_iff hmonths hbound b.month_bound]
  refine or_congr_right (and_congr_right fun _ => ?_)
  rw [mul_add_lt_iff a.timeOfDay_lt b.timeOfDay_lt, timeOfDay_lt_iff]
  have ha := hday a
  have hb := hday b
  refine or_congr (by omega) (and_congr_left fun _ => by omega)

/-! ### The text -/

/-- `.ffffff`, which is left out when it is zero. -/
def fraction (microsecond : ℕ) : List Char :=
  if microsecond = 0 then [] else '.' :: pad 6 microsecond

/-- `YYYY-MM-DDTHH:MM:SS` and the fraction. -/
def isoChars (a : NaiveDateTime) : List Char :=
  pad 4 a.year ++ '-' :: (pad 2 a.month ++ '-' :: (pad 2 a.day ++ 'T' ::
    (pad 2 a.hour ++ ':' :: (pad 2 a.minute ++ ':' :: (pad 2 a.second ++
      fraction a.microsecond)))))

def isoformat (a : NaiveDateTime) : String := String.ofList a.isoChars

theorem fraction_lt_iff {u v : ℕ} (hu : u < 1000000) (hv : v < 1000000) :
    fraction u < fraction v ↔ u < v := by
  rw [fraction, fraction]
  by_cases hu0 : u = 0
  · by_cases hv0 : v = 0
    · simp [hu0, hv0]
    · -- a text without a fraction is the front of one with a fraction
      rw [if_pos hu0, if_neg hv0]
      exact iff_of_true (List.nil_lt_cons _ _) (by omega)
  · by_cases hv0 : v = 0
    · rw [if_neg hu0, if_pos hv0]
      exact iff_of_false (List.not_lt_nil _) (by omega)
    · rw [if_neg hu0, if_neg hv0, List.cons_lt_cons_iff, pad_lt_pad_iff hu hv]
      simp

theorem daysInMonth_le (year month : ℕ) : daysInMonth year month ≤ 31 := by
  rw [daysInMonth.eq_def]
  split
  · split <;> omega
  all_goals omega

theorem isoformat_lt_iff_fields : a.isoformat < b.isoformat ↔ FieldsBefore a b := by
  have hyear : ∀ c : NaiveDateTime, c.year < 10 ^ 4 := fun c => Nat.lt_succ_of_le c.year_le
  have hmonth : ∀ c : NaiveDateTime, c.month < 10 ^ 2 := fun c => by
    have := c.month_le
    omega
  have hday : ∀ c : NaiveDateTime, c.day < 10 ^ 2 := fun c => by
    have := c.day_le.trans (daysInMonth_le c.year c.month)
    omega
  have hhour : ∀ c : NaiveDateTime, c.hour < 10 ^ 2 := fun c => by
    have := c.hour_lt
    omega
  have hminute : ∀ c : NaiveDateTime, c.minute < 10 ^ 2 := fun c => by
    have := c.minute_lt
    omega
  have hsecond : ∀ c : NaiveDateTime, c.second < 10 ^ 2 := fun c => by
    have := c.second_lt
    omega
  rw [isoformat, isoformat, String.lt_iff, String.toList_ofList, String.toList_ofList, isoChars,
    isoChars, field_lt_field_iff '-' _ _ (hyear a) (hyear b),
    field_lt_field_iff '-' _ _ (hmonth a) (hmonth b),
    field_lt_field_iff 'T' _ _ (hday a) (hday b), field_lt_field_iff ':' _ _ (hhour a) (hhour b),
    field_lt_field_iff ':' _ _ (hminute a) (hminute b),
    pad_append_lt_iff _ _ (hsecond a) (hsecond b),
    fraction_lt_iff a.microsecond_lt b.microsecond_lt, FieldsBefore]

/-- **ISO texts stand in the order of time.** -/
theorem isoformat_lt_iff : a.isoformat < b.isoformat ↔ a.toMicroseconds < b.toMicroseconds := by
  rw [isoformat_lt_iff_fields, toMicroseconds_lt_iff]

end NaiveDateTime

/-! ### The date at a time -/

/-- The year of a day, counted from the first day of year 1. -/
def yearOf (days : ℕ) : ℕ := Nat.findGreatest (daysBeforeYear · ≤ days) (days / 365 + 1)

/-- The month of a day of a year. -/
def monthOf (year days : ℕ) : ℕ := Nat.findGreatest (daysBeforeMonth year · ≤ days) 12

theorem yearOf_spec (days : ℕ) :
    daysBeforeYear (yearOf days) ≤ days ∧ days < daysBeforeYear (yearOf days + 1) := by
  refine findGreatest_block (Nat.zero_le days) ?_
  have hle := le_daysBeforeYear (days / 365 + 1 + 1)
  omega

theorem yearOf_pos (days : ℕ) : 1 ≤ yearOf days :=
  Nat.le_findGreatest (Nat.le_add_left 1 _) (Nat.zero_le days)

theorem yearOf_le {days : ℕ} (h : days < daysBeforeYear 10000) : yearOf days ≤ 9999 := by
  have hlt : yearOf days < 10000 :=
    monotone_daysBeforeYear.reflect_lt ((yearOf_spec days).1.trans_lt h)
  omega

theorem monthOf_spec {year days : ℕ} (h : days < daysInYear year) :
    daysBeforeMonth year (monthOf year days) ≤ days ∧
      days < daysBeforeMonth year (monthOf year days + 1) := by
  refine findGreatest_block (Nat.zero_le days) ?_
  rwa [daysBeforeMonth_thirteen]

theorem monthOf_pos (year days : ℕ) : 1 ≤ monthOf year days :=
  Nat.le_findGreatest (by omega) (Nat.zero_le days)

/-- The number of a day in its year. -/
def dayOfYearOf (days : ℕ) : ℕ := days - daysBeforeYear (yearOf days)

/-- The day in its month. -/
def dayOf (year days : ℕ) : ℕ := days - daysBeforeMonth year (monthOf year days) + 1

theorem dayOfYearOf_lt (days : ℕ) : dayOfYearOf days < daysInYear (yearOf days) := by
  obtain ⟨hle, hlt⟩ := yearOf_spec days
  rw [daysBeforeYear_succ (yearOf_pos days)] at hlt
  rw [dayOfYearOf]
  omega

theorem dayOf_le {year days : ℕ} (h : days < daysInYear year) :
    dayOf year days ≤ daysInMonth year (monthOf year days) := by
  obtain ⟨hle, hlt⟩ := monthOf_spec h
  rw [daysBeforeMonth] at hlt
  rw [dayOf]
  omega

/-- A day is that day of that month of that year. -/
theorem days_eq (days : ℕ) : daysBeforeYear (yearOf days) +
    (daysBeforeMonth (yearOf days) (monthOf (yearOf days) (dayOfYearOf days)) +
      (dayOf (yearOf days) (dayOfYearOf days) - 1)) = days := by
  have hyear := (yearOf_spec days).1
  have hmonth := (monthOf_spec (dayOfYearOf_lt days)).1
  rw [dayOf, Nat.add_sub_cancel, Nat.add_sub_cancel' hmonth, dayOfYearOf,
    Nat.add_sub_cancel' hyear]

/-- The microseconds of the years 1 to 9999. -/
def calendarLength : ℕ := 315537897600000000

theorem div_dayLength_lt {n : ℕ} (h : n < calendarLength) :
    n / dayLength < daysBeforeYear 10000 := by
  have hdays : daysBeforeYear 10000 = 3652059 := by decide
  rw [hdays, dayLength]
  rw [calendarLength] at h
  omega

namespace NaiveDateTime

/-- The date at so many microseconds after 0001-01-01T00:00:00. -/
def ofMicroseconds (n : ℕ) (h : n < calendarLength) : NaiveDateTime where
  year := yearOf (n / dayLength)
  month := monthOf (yearOf (n / dayLength)) (dayOfYearOf (n / dayLength))
  day := dayOf (yearOf (n / dayLength)) (dayOfYearOf (n / dayLength))
  hour := n % dayLength / 3600000000
  minute := n % 3600000000 / 60000000
  second := n % 60000000 / 1000000
  microsecond := n % 1000000
  year_pos := yearOf_pos _
  year_le := yearOf_le (div_dayLength_lt h)
  month_pos := monthOf_pos _ _
  month_le := Nat.findGreatest_le 12
  day_pos := Nat.le_add_left 1 _
  day_le := dayOf_le (dayOfYearOf_lt _)
  hour_lt := by
    rw [dayLength]
    omega
  minute_lt := by omega
  second_lt := by omega
  microsecond_lt := by omega

theorem timeOfDay_ofMicroseconds {n : ℕ} (h : n < calendarLength) :
    (ofMicroseconds n h).timeOfDay = n % dayLength := by
  simp only [timeOfDay, ofMicroseconds, dayLength]
  omega

/-- **Every time of the calendar is the time of a date.** -/
theorem toMicroseconds_ofMicroseconds {n : ℕ} (h : n < calendarLength) :
    (ofMicroseconds n h).toMicroseconds = n := by
  have hsum : ∀ i j k l : ℕ, i * dayLength + (j * dayLength + (k * dayLength + l)) =
      (i + (j + k)) * dayLength + l := by
    intro i j k l
    rw [Nat.add_mul, Nat.add_mul, Nat.add_assoc, Nat.add_assoc]
  rw [toMicroseconds, timeOfDay_ofMicroseconds, hsum]
  exact (congrArg (· * dayLength + n % dayLength) (days_eq (n / dayLength))).trans
    (Nat.div_add_mod' n dayLength)

example : (ofMicroseconds 63902822400500000 (by decide)).isoformat =
    "2026-01-01T00:00:00.500000" := by decide +kernel

example : (ofMicroseconds 63902822401000000 (by decide)).isoformat = "2026-01-01T00:00:01" := by
  decide +kernel

end NaiveDateTime

end Calendar
