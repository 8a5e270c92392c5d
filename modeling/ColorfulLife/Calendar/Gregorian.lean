/-
The proleptic Gregorian calendar.

A date is a year, a month and a day of it that exist, so that no value names the
thirtieth of February. Dates are counted by the days since the first of January
1970, and the count is a bijection with the integers (`ofDay_toDay`,
`toDay_ofDay`): years start in order (`dayFromYear_succ`), and every day lies in
the one year that starts on it or before and does not end before it
(`yearFromDay_spec`, `yearFromDay_eq`).
-/

import Mathlib.Data.Int.ConditionallyCompleteOrder
import Mathlib.Order.SuccPred.Basic
import Mathlib.Order.Monotone.Basic
import Mathlib.Tactic.Common
import Mathlib.Tactic.IntervalCases

namespace Calendar

/-! ### Years -/

def isLeap (year : Int) : Bool := decide (year % 4 = 0 ∧ (year % 100 ≠ 0 ∨ year % 400 = 0))

def daysInYear (leap : Bool) : Nat := if leap then 366 else 365

/-- The days from 1970-01-01 to the first day of a year. -/
def dayFromYear (year : Int) : Int :=
  365 * (year - 1970) + (year - 1969) / 4 - (year - 1901) / 100 + (year - 1601) / 400

/-- The year of a day: 400 years have 146097 days, which is off by a year at most. -/
def yearFromDay (day : Int) : Int :=
  let guess := 400 * day / 146097 + 1970
  if day < dayFromYear guess then guess - 1
  else if dayFromYear (guess + 1) ≤ day then guess + 1
  else guess

theorem dayFromYear_succ (year : Int) :
    dayFromYear (year + 1) = dayFromYear year + daysInYear (isLeap year) := by
  unfold dayFromYear daysInYear isLeap
  by_cases leap : year % 4 = 0 ∧ (year % 100 ≠ 0 ∨ year % 400 = 0)
  · rw [decide_eq_true leap, if_pos rfl]
    omega
  · rw [decide_eq_false leap, if_neg Bool.false_ne_true]
    omega

theorem dayFromYear_strictMono : StrictMono dayFromYear := by
  refine strictMono_int_of_lt_succ fun year => ?_
  have years := dayFromYear_succ year
  have pos : 0 < daysInYear (isLeap year) := by
    unfold daysInYear
    split <;> decide
  omega

/-- A day lies in its year. -/
theorem yearFromDay_spec (day : Int) :
    dayFromYear (yearFromDay day) ≤ day ∧ day < dayFromYear (yearFromDay day + 1) := by
  have near : dayFromYear (400 * day / 146097 + 1970 - 1) ≤ day ∧
      day < dayFromYear (400 * day / 146097 + 1970 + 1 + 1) := by
    unfold dayFromYear
    omega
  unfold yearFromDay
  generalize 400 * day / 146097 + 1970 = guess at near
  simp only
  by_cases early : day < dayFromYear guess
  · rw [if_pos early, Int.sub_add_cancel]
    exact ⟨near.1, early⟩
  · by_cases late : dayFromYear (guess + 1) ≤ day
    · rw [if_neg early, if_pos late]
      exact ⟨late, near.2⟩
    · rw [if_neg early, if_neg late]
      exact ⟨not_lt.mp early, not_le.mp late⟩

/-- No other year has it. -/
theorem yearFromDay_eq {year day : Int} (starts : dayFromYear year ≤ day)
    (ends : day < dayFromYear (year + 1)) : yearFromDay day = year := by
  obtain ⟨starts', ends'⟩ := yearFromDay_spec day
  have le := dayFromYear_strictMono.lt_iff_lt.mp (starts.trans_lt ends')
  have ge := dayFromYear_strictMono.lt_iff_lt.mp (starts'.trans_lt ends)
  omega

/-- A day after the start of a year is not of an earlier one. -/
theorem le_yearFromDay {year day : Int} (starts : dayFromYear year ≤ day) :
    year ≤ yearFromDay day := by
  have lt := dayFromYear_strictMono.lt_iff_lt.mp (starts.trans_lt (yearFromDay_spec day).2)
  omega

/-! ### Months, counted from zero -/

def daysInMonth (leap : Bool) : Nat → Nat
  | 1 => if leap then 29 else 28
  | 3 | 5 | 8 | 10 => 30
  | _ => 31

/-- The days of a year before a month. -/
def monthStart (leap : Bool) (month : Nat) : Nat :=
  ((List.range month).map (daysInMonth leap)).sum

/-- The month of a day of the year. -/
def monthFromDay (leap : Bool) (day : Nat) : Nat :=
  (List.range' 1 11).countP fun month => decide (monthStart leap month ≤ day)

theorem monthStart_succ (leap : Bool) (month : Nat) :
    monthStart leap (month + 1) = monthStart leap month + daysInMonth leap month := by
  simp [monthStart, List.range_succ]

theorem monthStart_year (leap : Bool) : monthStart leap 12 = daysInYear leap := by
  cases leap <;> rfl

theorem monthStart_mono (leap : Bool) : Monotone (monthStart leap) :=
  monotone_nat_of_le_succ fun month => monthStart_succ leap month ▸ Nat.le_add_right _ _

/-- The months that start by a day are those up to its own. -/
theorem monthFromDay_eq {leap : Bool} {month day : Nat} (small : month < 12)
    (starts : monthStart leap month ≤ day) (ends : day < monthStart leap (month + 1)) :
    monthFromDay leap day = month := by
  have started : ∀ m, decide (monthStart leap m ≤ day) = decide (m ≤ month) := by
    intro m
    rw [decide_eq_decide]
    constructor
    · intro le
      by_contra after
      exact absurd (ends.trans_le (monthStart_mono leap (not_le.mp after))) (not_lt.mpr le)
    · exact fun le => (monthStart_mono leap le).trans starts
  simp only [monthFromDay, started]
  interval_cases month <;> rfl

/-- Every day of a year lies in a month. -/
theorem exists_month {leap : Bool} {day : Nat} (within : day < daysInYear leap) :
    ∃ month < 12, monthStart leap month ≤ day ∧ day < monthStart leap (month + 1) := by
  by_contra none
  have after : ∀ month ≤ 12, monthStart leap month ≤ day := by
    intro month le
    induction month with
    | zero => exact Nat.zero_le day
    | succ month ih =>
        by_contra before
        exact none ⟨month, le, ih (Nat.le_of_succ_le le), not_le.mp before⟩
  exact absurd (after 12 le_rfl) (not_le.mpr (monthStart_year leap ▸ within))

/-! ### Dates -/

/-- A day of the calendar; months count from zero. -/
@[ext] structure Date where
  year : Int
  month : Nat
  day : Nat
  month_lt : month < 12
  day_pos : 0 < day
  day_le : day ≤ daysInMonth (isLeap year) month
  deriving DecidableEq

namespace Date

/-- The days since 1970-01-01. -/
def toDay (date : Date) : Int :=
  dayFromYear date.year + monthStart (isLeap date.year) date.month + date.day - 1

/-- The day of its year, counted from zero. -/
def dayWithinYear (day : Int) : Nat := (day - dayFromYear (yearFromDay day)).toNat

theorem dayWithinYear_lt (day : Int) :
    dayWithinYear day < daysInYear (isLeap (yearFromDay day)) := by
  have spec := yearFromDay_spec day
  rw [dayFromYear_succ] at spec
  unfold dayWithinYear
  omega

/-- The month of a day and where it starts and ends. -/
theorem monthFromDay_spec (day : Int) :
    monthFromDay (isLeap (yearFromDay day)) (dayWithinYear day) < 12 ∧
      monthStart (isLeap (yearFromDay day))
        (monthFromDay (isLeap (yearFromDay day)) (dayWithinYear day)) ≤ dayWithinYear day ∧
      dayWithinYear day < monthStart (isLeap (yearFromDay day))
        (monthFromDay (isLeap (yearFromDay day)) (dayWithinYear day) + 1) := by
  obtain ⟨month, small, starts, ends⟩ := exists_month (dayWithinYear_lt day)
  rw [monthFromDay_eq small starts ends]
  exact ⟨small, starts, ends⟩

/-- The date of a day. -/
def ofDay (day : Int) : Date where
  year := yearFromDay day
  month := monthFromDay (isLeap (yearFromDay day)) (dayWithinYear day)
  day := dayWithinYear day - monthStart (isLeap (yearFromDay day))
    (monthFromDay (isLeap (yearFromDay day)) (dayWithinYear day)) + 1
  month_lt := (monthFromDay_spec day).1
  day_pos := Nat.succ_pos _
  day_le := by
    obtain ⟨-, starts, ends⟩ := monthFromDay_spec day
    rw [monthStart_succ] at ends
    omega

theorem toDay_ofDay (day : Int) : (ofDay day).toDay = day := by
  obtain ⟨-, starts, -⟩ := monthFromDay_spec day
  have spec := (yearFromDay_spec day).1
  have offset : (dayWithinYear day : Int) = day - dayFromYear (yearFromDay day) := by
    unfold dayWithinYear
    omega
  simp only [toDay, ofDay]
  omega

theorem ofDay_toDay (date : Date) : ofDay date.toDay = date := by
  have starts : dayFromYear date.year ≤ date.toDay := by
    have pos := date.day_pos
    unfold toDay
    omega
  have within : (date.toDay - dayFromYear date.year).toNat =
      monthStart (isLeap date.year) date.month + date.day - 1 := by
    have pos := date.day_pos
    unfold toDay
    omega
  have fits : monthStart (isLeap date.year) date.month + date.day - 1 <
      monthStart (isLeap date.year) (date.month + 1) := by
    have pos := date.day_pos
    have le := date.day_le
    rw [monthStart_succ]
    omega
  have ends : date.toDay < dayFromYear (date.year + 1) := by
    have last : monthStart (isLeap date.year) (date.month + 1) ≤ daysInYear (isLeap date.year) :=
      monthStart_year _ ▸ monthStart_mono (isLeap date.year) date.month_lt
    rw [dayFromYear_succ]
    omega
  have year : yearFromDay date.toDay = date.year := yearFromDay_eq starts ends
  have month : monthFromDay (isLeap date.year)
      (monthStart (isLeap date.year) date.month + date.day - 1) = date.month :=
    monthFromDay_eq date.month_lt (by have pos := date.day_pos; omega) fits
  ext
  · exact year
  · simp only [ofDay, dayWithinYear, year, within, month]
  · have pos := date.day_pos
    simp only [ofDay, dayWithinYear, year, within, month]
    rw [Nat.add_sub_assoc pos, Nat.add_sub_cancel_left, Nat.sub_add_cancel pos]

/-- A date lies in its year. -/
theorem toDay_spec (date : Date) :
    dayFromYear date.year ≤ date.toDay ∧ date.toDay < dayFromYear (date.year + 1) := by
  have year : yearFromDay date.toDay = date.year := congrArg Date.year (ofDay_toDay date)
  rw [← year]
  exact yearFromDay_spec date.toDay

end Date

end Calendar
