/-!
# The calendar

Years and their months and weeks. The first week of a year is the one with its first Thursday, and
weeks begin on Monday.

* `Calendar.dateNear`: the date of a day by its number, counted from the first day of the year one.
* `Calendar.ofWeek?`: the date of a day of a week.
-/

namespace Disposition

/-- A date of the calendar, which need not exist. -/
structure Date where
  /-- The year. -/
  year : Nat
  /-- The month, from one on. -/
  month : Nat
  /-- The day of the month, from one on. -/
  day : Nat
  deriving DecidableEq, Repr, Inhabited

namespace Calendar

/-- The year has a day more. -/
def isLeap (year : Nat) : Bool :=
  year % 4 = 0 && (year % 100 ≠ 0 || year % 400 = 0)

/-- The days of the months of a year. -/
def monthLengths (year : Nat) : List Nat :=
  [31, if isLeap year then 29 else 28, 31, 30, 31, 30, 31, 31, 30, 31, 30, 31]

/-- The days of a month of a year, none if there is no such month. -/
def monthLength (year month : Nat) : Nat :=
  match month with
  | 0 => 0
  | month + 1 => ((monthLengths year)[month]?).getD 0

/-- The number of the first day of a year. -/
def firstDay (year : Nat) : Nat :=
  let before := year - 1
  365 * before + before / 4 - before / 100 + before / 400 + 1

/-- The day of the week of a day by its number, from zero for Monday on. -/
def weekday (number : Nat) : Nat :=
  (number + 6) % 7

/-- The month and the day of the month of a day of a year, counted from zero. The months begin with
the given one. -/
def monthDay (month : Nat) : (lengths : List Nat) → (day : Nat) → Nat × Nat
  | [], day => (month, day + 1)
  | length :: lengths, day =>
    if day < length then (month, day + 1) else monthDay (month + 1) lengths (day - length)

/-- The date of a day by its number, which lies in the year or in one next to it. -/
def dateNear (year number : Nat) : Date :=
  let year :=
    if number < firstDay year then year - 1
    else if number < firstDay (year + 1) then year
    else year + 1
  let (month, day) := monthDay 1 (monthLengths year) (number - firstDay year)
  ⟨year, month, day⟩

/-- The number of the Monday of the first week of a year. -/
def firstMonday (year : Nat) : Nat :=
  let first := firstDay year
  if weekday first ≤ 3 then first - weekday first else first + 7 - weekday first

/-- The number of weeks of a year. -/
def weekCount (year : Nat) : Nat :=
  let first := weekday (firstDay year)
  if first = 3 || (first = 2 && isLeap year) then 53 else 52

/-- The date of a day of a week, both counted from one on, if there are such. The years begin with
the first one, so the days of the weeks before it have no month. -/
def ofWeek? (year week day : Nat) : Option Date :=
  if 1 ≤ week && week ≤ weekCount year && 1 ≤ day && day ≤ 7 then
    some (if year = 0 then ⟨1, 0, day⟩
      else dateNear year (firstMonday year + 7 * (week - 1) + (day - 1)))
  else none

end Calendar

end Disposition
