/-!
# The calendar from 1970 on

Days are counted from the first of January 1970, a Thursday. The year of a day is found by taking
off whole years, its month by taking off whole months.
-/

namespace Refetch.Calendar

def isLeap (year : Nat) : Bool := (year % 4 == 0 && year % 100 != 0) || year % 400 == 0

def yearLength (year : Nat) : Nat := if isLeap year then 366 else 365

/-- The lengths of the months, from January on. -/
def monthLengths (year : Nat) : List Nat :=
  [31, if isLeap year then 29 else 28, 31, 30, 31, 30, 31, 31, 30, 31, 30, 31]

theorem yearLength_pos (year : Nat) : 0 < yearLength year := by
  unfold yearLength; split <;> decide

/-- The year of a day counted from the start of `year`, and the day counted from that year's. -/
def splitYear (year day : Nat) : Nat × Nat :=
  if day < yearLength year then (year, day) else splitYear (year + 1) (day - yearLength year)
termination_by day
decreasing_by have := yearLength_pos year; omega

/-- The month, from zero, of a day of the year, and the day counted from that month's start. -/
def splitMonth : List Nat → Nat → Nat × Nat
  | [], day => (0, day)
  | m :: rest, day =>
    if day < m then (0, day) else
      let (k, d) := splitMonth rest (day - m)
      (k + 1, d)

/-- A date; months and days count from one. -/
structure Date where
  year : Nat
  month : Nat
  day : Nat
  deriving Repr, DecidableEq

def Date.ofDays (days : Nat) : Date :=
  let (year, dayOfYear) := splitYear 1970 days
  let (month, day) := splitMonth (monthLengths year) dayOfYear
  ⟨year, month + 1, day + 1⟩

/-- The date exists, in 1970 or later. -/
def Date.Valid (d : Date) : Prop :=
  1970 ≤ d.year ∧ 1 ≤ d.month ∧ d.month ≤ 12 ∧ 1 ≤ d.day ∧
    d.day ≤ (monthLengths d.year).getD (d.month - 1) 0

instance (d : Date) : Decidable d.Valid := by unfold Date.Valid; infer_instance

/-- The days before the start of the year. -/
def daysBeforeYear (year : Nat) : Nat :=
  ((List.range' 1970 (year - 1970)).map yearLength).foldr (· + ·) 0

def Date.toDays (d : Date) : Nat :=
  daysBeforeYear d.year + ((monthLengths d.year).take (d.month - 1)).foldr (· + ·) 0 + (d.day - 1)

/-- The day of the week, Monday being zero. -/
def weekday (days : Nat) : Nat := (days + 3) % 7

end Refetch.Calendar
