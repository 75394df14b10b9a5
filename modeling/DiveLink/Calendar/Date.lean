/-!
# The calendar

Days of the Gregorian calendar, carried back before its first day and forward without end. A day is
counted from the first of January of the year 0.

1. `Calendar.dayNumber` counts the day of a date, `Calendar.dateOf` gives the date of a day.
2. `Calendar.isDate` says which years, months and days make a date.
-/

namespace DiveLink.Calendar

/-! ## §1 Years -/

/-- Whether the year has a twenty-ninth of February. -/
def isLeap (year : Int) : Bool :=
  year % 4 == 0 && (year % 100 != 0 || year % 400 == 0)

/-- The days from the first of January of the year 0 to the first of January of `year`. -/
def daysBeforeYear (year : Int) : Int :=
  365 * year + (year + 3) / 4 - (year + 99) / 100 + (year + 399) / 400

/-- The year in which a day lies. Four hundred years are 146097 days; the quotient by their mean
length is the year or one of its neighbours. -/
def yearOf (day : Int) : Int :=
  let year := 400 * day / 146097
  if day < daysBeforeYear year then year - 1
  else if day < daysBeforeYear (year + 1) then year
  else year + 1

/-- A day lies behind the start of its year and before the start of the next one. -/
theorem yearOf_bounds (day : Int) :
    daysBeforeYear (yearOf day) ≤ day ∧ day < daysBeforeYear (yearOf day + 1) := by
  unfold yearOf
  dsimp only
  split
  next h =>
    rw [Int.sub_add_cancel]
    refine ⟨?_, h⟩
    unfold daysBeforeYear
    omega
  next h =>
    split
    next h' => exact ⟨Int.not_lt.mp h, h'⟩
    next h' =>
      refine ⟨Int.not_lt.mp h', ?_⟩
      unfold daysBeforeYear
      omega

/-! ## §2 Months -/

def monthLengths (leap : Bool) : List Nat :=
  [31, if leap then 29 else 28, 31, 30, 31, 30, 31, 31, 30, 31, 30, 31]

/-- The days of a year before the first of a month. -/
def daysBeforeMonth (leap : Bool) (month : Nat) : Nat :=
  ((monthLengths leap).take (month - 1)).foldl (· + ·) 0

/-- How many of the months are over on a day counted from zero, and how many days of the month
that is not. -/
def locate : List Nat → Nat → Nat × Nat
  | [], day => (0, day)
  | length :: others, day =>
    if day < length then (0, day)
    else
      let (months, rest) := locate others (day - length)
      (months + 1, rest)

/-! ## §3 Dates -/

/-- A day by year, month and day of the month; months and days are counted from one. -/
structure Date where
  year : Int
  month : Nat
  day : Nat
  deriving DecidableEq, Repr

/-- Whether month and day exist in the year. -/
def isDate (date : Date) : Bool :=
  1 ≤ date.month && date.month ≤ 12 && 1 ≤ date.day &&
    date.day ≤ (monthLengths (isLeap date.year)).getD (date.month - 1) 0

/-- The number of the day of a date. -/
def dayNumber (date : Date) : Int :=
  daysBeforeYear date.year + daysBeforeMonth (isLeap date.year) date.month + date.day - 1

def dateOf (day : Int) : Date :=
  let year := yearOf day
  let (months, rest) := locate (monthLengths (isLeap year)) (day - daysBeforeYear year).toNat
  ⟨year, months + 1, rest + 1⟩

end DiveLink.Calendar
