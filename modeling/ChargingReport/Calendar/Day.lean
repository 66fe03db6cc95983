import ChargingReport.Number.Arithmetic
import ChargingReport.Text.Digits

/-!
# Days of the calendar

A day of the years 1 to 9999 is its number, counted from 0001-01-01. The order of days is the order
of their numbers, and a look-back is a subtraction.

* `CivilDate` is a day as year, month and day of the month; `CivilDate.Valid` says which of these
  exist.
* `Day.ofCivil?` and `Day.civil` go between the two views.
* `Day.before` steps back by a number of days, with the three ways in which that can fail.
* `Day.text` writes `YYYY-MM-DD`, and `CivilDate.read` reads it.
-/

namespace ChargingReport

/-- The number of days in the years 1 to 9999. -/
def dayCount : Nat := 3652059

/-- A day of the years 1 to 9999, counted from 0001-01-01. -/
structure Day where
  number : Nat
  inRange : number < dayCount
deriving DecidableEq

/-- A day as year, month and day of the month. -/
structure CivilDate where
  year : Nat
  month : Nat
  day : Nat
deriving DecidableEq, Repr

/-! ## Years and months -/

/-- Whether the year has a 29th of February. -/
def isLeapYear (year : Nat) : Bool :=
  year % 4 == 0 && (year % 100 != 0 || year % 400 == 0)

/-- The lengths of the twelve months. -/
def monthLengths (leap : Bool) : List Nat :=
  [31, if leap then 29 else 28, 31, 30, 31, 30, 31, 31, 30, 31, 30, 31]

/-- The length of a month, and zero for a number that names no month. -/
def daysInMonth (year month : Nat) : Nat :=
  if month = 0 then 0 else (monthLengths (isLeapYear year)).getD (month - 1) 0

/-- The days from 0001-01-01 to the first day of the year. -/
def daysBeforeYear (year : Nat) : Nat :=
  365 * (year - 1) + (year - 1) / 4 - (year - 1) / 100 + (year - 1) / 400

/-- The days from the first day of the year to the first day of the month. -/
def daysBeforeMonth (year month : Nat) : Nat :=
  sumOf ((monthLengths (isLeapYear year)).take (month - 1))

namespace CivilDate

/-- The date exists in the calendar, and its year has at most four digits. -/
def Valid (c : CivilDate) : Prop :=
  1 ≤ c.year ∧ c.year ≤ 9999 ∧ 1 ≤ c.month ∧ c.month ≤ 12 ∧
    1 ≤ c.day ∧ c.day ≤ daysInMonth c.year c.month

instance (c : CivilDate) : Decidable c.Valid := by
  unfold Valid
  infer_instance

/-- The days from 0001-01-01 to the date. -/
def number (c : CivilDate) : Nat :=
  daysBeforeYear c.year + daysBeforeMonth c.year c.month + (c.day - 1)

end CivilDate

/-! ## From a number to a date -/

/-- The year of a day, and the days from the first day of that year. The number is split into
cycles of 400, 100, 4 and 1 years; the last day of a long cycle stays in the last short one. -/
def splitYear (n : Nat) : Nat × Nat :=
  let n400 := n / 146097
  let r400 := n % 146097
  let n100 := min 3 (r400 / 36524)
  let r100 := r400 - 36524 * n100
  let n4 := r100 / 1461
  let r4 := r100 % 1461
  let n1 := min 3 (r4 / 365)
  (400 * n400 + 100 * n100 + 4 * n4 + n1 + 1, r4 - 365 * n1)

/-- The month that a day of the year falls in, and its day of the month. -/
def splitMonth : List Nat → Nat → Nat × Nat
  | [], n => (1, n + 1)
  | length :: rest, n =>
    if n < length then (1, n + 1)
    else
      let (month, day) := splitMonth rest (n - length)
      (month + 1, day)

namespace Day

/-- The date with year, month and day of the month. -/
def civil (d : Day) : CivilDate :=
  let (year, n) := splitYear d.number
  let (month, day) := splitMonth (monthLengths (isLeapYear year)) n
  ⟨year, month, day⟩

/-- The day with the number, if there is one. -/
def ofNumber? (n : Int) : Option Day :=
  match n with
  | .ofNat k => if h : k < dayCount then some ⟨k, h⟩ else none
  | .negSucc _ => none

/-- The day of a date that exists. -/
def ofCivil? (c : CivilDate) : Option Day :=
  if c.Valid then ofNumber? c.number else none

end Day

/-! ## Stepping back -/

/-- The ways in which date arithmetic fails. -/
inductive CalendarError where
  /-- The result is outside the years 1 to 9999. -/
  | outOfRange
  /-- The number of days does not fit into 32 bits. -/
  | daysTooLarge
  /-- The number of days fits, but is not a length of time. -/
  | magnitude (days : Int)
deriving DecidableEq, Repr

namespace CalendarError

/-- The message of the error. -/
def message : CalendarError → String
  | .outOfRange => "date value out of range"
  | .daysTooLarge => "Python int too large to convert to C int"
  | .magnitude days => "days=" ++ intText days ++ "; must have magnitude <= 999999999"

end CalendarError

/-- Whether an integer fits into 32 bits with a sign. -/
def fitsInt32 (n : Int) : Bool := -2147483648 ≤ n && n ≤ 2147483647

/-- Whether an integer fits into 64 bits with a sign. -/
def fitsInt64 (n : Int) : Bool := -9223372036854775808 ≤ n && n ≤ 9223372036854775807

namespace Day

/-- The day `days` days before `d`. -/
def before (d : Day) (days : Int) : Except CalendarError Day :=
  if !fitsInt32 days then .error .daysTooLarge
  else if 999999999 < days.natAbs then .error (.magnitude days)
  else match ofNumber? (d.number - days) with
    | some result => .ok result
    | none => .error .outOfRange

end Day

/-! ## Text -/

namespace CivilDate

/-- `YYYY-MM-DD`. -/
def text (c : CivilDate) : List Char :=
  padded 4 c.year ++ '-' :: padded 2 c.month ++ '-' :: padded 2 c.day

/-- Reads `YYYY-MM-DD` from the front of a text. The date need not exist. -/
def read (cs : List Char) : Option (CivilDate × List Char) :=
  match cs with
  | y1 :: y2 :: y3 :: y4 :: '-' :: m1 :: m2 :: '-' :: d1 :: d2 :: rest => do
    let year ← natOfChars? [y1, y2, y3, y4]
    let month ← natOfChars? [m1, m2]
    let day ← natOfChars? [d1, d2]
    return (⟨year, month, day⟩, rest)
  | _ => none

end CivilDate

namespace Day

/-- `YYYY-MM-DD`. -/
def text (d : Day) : String := String.ofList d.civil.text

/-- The day written as `YYYY-MM-DD`. -/
def ofText? (s : String) : Option Day :=
  match CivilDate.read s.toList with
  | some (c, []) => ofCivil? c
  | _ => none

end Day

end ChargingReport
