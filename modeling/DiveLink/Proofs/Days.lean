import DiveLink.Calendar.Instant
import Mathlib

/-!
# Every day has a date

1. `locate_spec`: what `locate` gives is a month of the list and a day of that month, and the days
   up to there are those that were counted.
2. `isDate_dateOf`, `dayNumber_dateOf`: the date of a day exists and counts that day again.
3. `year_dateOf`: the days of instants lie in the years -262143 to 262142.
-/

namespace DiveLink.Calendar

/-! ## §1 Months -/

/-- A day is so many whole months and a day of the month behind them. -/
theorem locate_spec (lengths : List Nat) (day : Nat) (hday : day < lengths.sum) :
    (locate lengths day).2 < lengths.getD (locate lengths day).1 0 ∧
      (lengths.take (locate lengths day).1).sum + (locate lengths day).2 = day := by
  induction lengths generalizing day with
  | nil => simp at hday
  | cons length others ih =>
    rw [locate]
    by_cases hfirst : day < length
    · simp [hfirst]
    · rw [List.sum_cons] at hday
      obtain ⟨hinside, hsum⟩ := ih (day - length) (by omega)
      simp only [hfirst, if_false, List.getD_cons_succ, List.take_succ_cons, List.sum_cons]
      exact ⟨hinside, by omega⟩

/-- Behind the list there are no months. -/
theorem locate_fst_lt (lengths : List Nat) (day : Nat) (hday : day < lengths.sum) :
    (locate lengths day).1 < lengths.length := by
  by_contra houtside
  have := (locate_spec lengths day hday).1
  rw [List.getD_eq_default _ _ (Nat.le_of_not_lt houtside)] at this
  omega

theorem daysBeforeMonth_succ (leap : Bool) (months : Nat) :
    daysBeforeMonth leap (months + 1) = ((monthLengths leap).take months).sum := by
  rw [daysBeforeMonth, Nat.add_sub_cancel, List.sum_eq_foldl]

/-! ## §2 Years -/

/-- A year has as many days as its months together. -/
theorem daysBeforeYear_succ (year : Int) :
    daysBeforeYear (year + 1) = daysBeforeYear year + (monthLengths (isLeap year)).sum := by
  have hcommon : (monthLengths false).sum = 365 := rfl
  have hleap : (monthLengths true).sum = 366 := rfl
  -- the quotients by 4, 100 and 400 grow together in a leap year and in no other
  unfold daysBeforeYear
  cases h : isLeap year with
  | false =>
    rw [hcommon]
    simp only [isLeap, Bool.and_eq_false_iff, Bool.or_eq_false_iff, beq_eq_false_iff_ne, ne_eq,
      bne_eq_false_iff_eq] at h
    omega
  | true =>
    rw [hleap]
    simp only [isLeap, Bool.and_eq_true, Bool.or_eq_true, beq_iff_eq, bne_iff_ne, ne_eq] at h
    omega

/-- The later year starts later. -/
theorem daysBeforeYear_le {first second : Int} (h : first ≤ second) :
    daysBeforeYear first ≤ daysBeforeYear second := by
  unfold daysBeforeYear
  omega

/-- The days of instants lie in the years of the calendar. -/
theorem year_dateOf {day : Int} (hfirst : firstDay ≤ day) (hlast : day ≤ lastDay) :
    -262143 ≤ (dateOf day).year ∧ (dateOf day).year ≤ 262142 := by
  obtain ⟨hstart, hend⟩ := yearOf_bounds day
  change -262143 ≤ yearOf day ∧ yearOf day ≤ 262142
  -- all days of a year outside lie outside of the calendar
  constructor
  · by_contra hbefore
    have := daysBeforeYear_le (show yearOf day + 1 ≤ -262143 by omega)
    unfold firstDay at hfirst
    omega
  · by_contra hbehind
    have := daysBeforeYear_le (show 262143 ≤ yearOf day by omega)
    unfold lastDay at hlast
    omega

/-! ## §3 Dates -/

theorem isDate_iff (date : Date) :
    isDate date = true ↔ (1 ≤ date.month ∧ date.month ≤ 12) ∧ 1 ≤ date.day ∧
      date.day ≤ (monthLengths (isLeap date.year)).getD (date.month - 1) 0 := by
  simp only [isDate, Bool.and_eq_true, decide_eq_true_eq, and_assoc]

/-- How far a day lies behind the start of its year. -/
def dayInYear (day : Int) : Nat := (day - daysBeforeYear (yearOf day)).toNat

theorem dayInYear_lt (day : Int) :
    dayInYear day < (monthLengths (isLeap (yearOf day))).sum := by
  have := yearOf_bounds day
  rw [daysBeforeYear_succ] at this
  unfold dayInYear
  omega

theorem dateOf_eq (day : Int) :
    dateOf day =
      ⟨yearOf day, (locate (monthLengths (isLeap (yearOf day))) (dayInYear day)).1 + 1,
        (locate (monthLengths (isLeap (yearOf day))) (dayInYear day)).2 + 1⟩ := by
  simp only [dateOf, dayInYear]

/-- The date of a day is a date. -/
theorem isDate_dateOf (day : Int) : isDate (dateOf day) = true := by
  obtain ⟨hinside, -⟩ := locate_spec _ _ (dayInYear_lt day)
  have hmonths := locate_fst_lt _ _ (dayInYear_lt day)
  have hlength : (monthLengths (isLeap (yearOf day))).length = 12 := rfl
  rw [dateOf_eq, isDate_iff]
  dsimp only
  rw [Nat.add_sub_cancel]
  omega

/-- The date of a day counts that day. -/
theorem dayNumber_dateOf (day : Int) : dayNumber (dateOf day) = day := by
  obtain ⟨-, hsum⟩ := locate_spec _ _ (dayInYear_lt day)
  have hstart := (yearOf_bounds day).1
  rw [dateOf_eq, dayNumber]
  dsimp only
  rw [daysBeforeMonth_succ]
  unfold dayInYear at hsum ⊢
  omega

theorem monthLength_le (leap : Bool) (month : Nat) :
    (monthLengths leap).getD month 0 ≤ 31 := by
  by_cases hmonth : month < 12
  · revert leap month
    decide
  · rw [List.getD_eq_default _ _ (Nat.le_of_not_lt hmonth)]
    exact Nat.zero_le 31

/-- Months and days of the month are numbers of two digits. -/
theorem month_day_bounds {date : Date} (hdate : isDate date = true) :
    (1 ≤ date.month ∧ date.month ≤ 12) ∧ 1 ≤ date.day ∧ date.day ≤ 31 := by
  obtain ⟨hmonth, hfirst, hlast⟩ := (isDate_iff date).mp hdate
  exact ⟨hmonth, hfirst, Nat.le_trans hlast (monthLength_le _ _)⟩

end DiveLink.Calendar
