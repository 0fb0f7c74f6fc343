/-
**Dates of the Gregorian calendar.**

Days are counted from 1970-01-01, in both directions and without an end.

* `Date.toDays` counts the days up to a date;
* `Date.ofDays` finds the year of a day by estimate and its month by walking through the year.
-/

namespace ClientAssertion

/-- A year has a 29th of February. -/
def isLeapYear (year : Int) : Bool :=
  year % 4 == 0 && (year % 100 != 0 || year % 400 == 0)

/-- Days in a month. -/
def daysInMonth (year : Int) : (month : Nat) → Nat
  | 2 => if isLeapYear year then 29 else 28
  | 4 | 6 | 9 | 11 => 30
  | _ => 31

theorem daysInMonth_pos (year : Int) (month : Nat) : 0 < daysInMonth year month := by
  unfold daysInMonth
  split <;> (try split) <;> decide

/-- A date that exists. -/
structure Date where
  year : Int
  month : Nat
  day : Nat
  valid : (1 ≤ month ∧ month ≤ 12) ∧ 1 ≤ day ∧ day ≤ daysInMonth year month
deriving DecidableEq, Repr

namespace Date

/-- The date with the given numbers, if it exists. -/
def of? (year : Int) (month day : Nat) : Option Date :=
  if valid : (1 ≤ month ∧ month ≤ 12) ∧ 1 ≤ day ∧ day ≤ daysInMonth year month then
    some ⟨year, month, day, valid⟩
  else none

/-- Days from 1970-01-01 to the first day of a year. -/
def daysBeforeYear (year : Int) : Int :=
  let passed := year - 1
  passed * 365 + passed / 4 - passed / 100 + passed / 400 - 719162

/-- Days in the months of a year before a month. -/
def daysBeforeMonth (year : Int) : (month : Nat) → Nat
  | 0 => 0
  | 1 => 0
  | month + 1 => daysBeforeMonth year month + daysInMonth year month

/-- Days from 1970-01-01 to a date. -/
def toDays (date : Date) : Int :=
  daysBeforeYear date.year + daysBeforeMonth date.year date.month + (date.day - 1 : Nat)

/-- The year of a day.  The mean length of a year leads to that year or to one next to it. -/
def yearOf (days : Int) : Int :=
  let guess := 1970 + 400 * days / 146097
  if days < daysBeforeYear guess then guess - 1
  else if daysBeforeYear (guess + 1) ≤ days then guess + 1
  else guess

/-- The date that lies a number of days behind the first day of a month, with `left` months of
the year to come. -/
def walk (year : Int) (month left days : Nat) (inYear : 1 ≤ month ∧ month + left = 12) : Date :=
  match left with
  | 0 =>
    ⟨year, month, min days (daysInMonth year month - 1) + 1, by omega,
      by have := daysInMonth_pos year month; omega⟩
  | left + 1 =>
    if within : days < daysInMonth year month then
      ⟨year, month, days + 1, by omega, by omega⟩
    else walk year (month + 1) left (days - daysInMonth year month) (by omega)

/-- The date of a day. -/
def ofDays (days : Int) : Date :=
  let year := yearOf days
  walk year 1 11 (days - daysBeforeYear year).toNat (by omega)

/-- A date is the last day of its month. -/
def isLastOfMonth (date : Date) : Bool := date.day == daysInMonth date.year date.month

end Date

end ClientAssertion
