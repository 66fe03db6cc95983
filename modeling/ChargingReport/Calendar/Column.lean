import ChargingReport.Calendar.Iso

/-!
# Times in columns

A column keeps a time as the text `YYYY-MM-DD HH:MM:SS.ffffff` and a day as `YYYY-MM-DD`. All texts
of one kind have the same length, and a query compares them as texts, character by character.

* `Instant.columnText` and `Day.columnText` are the texts.
* `DayReading` is how a database reads the day from the text of a time, and `DayReading.columnDay` is
  the day that it reads.
* `Instant.columnLe` compares two times, and `Instant.earlier` is the lesser of them.
-/

namespace ChargingReport

/-- `YYYY-MM-DD HH:MM:SS.ffffff`. -/
def WallClock.columnText (w : WallClock) : List Char :=
  w.day.civil.text ++ ' ' :: (padded 2 w.hour ++ ':' :: (padded 2 w.minute ++ ':' ::
    (padded 2 w.second ++ '.' :: padded 6 w.microsecond)))

/-- `YYYY-MM-DD`. -/
def Day.columnText (d : Day) : List Char := d.civil.text

/-- The length of `YYYY-MM-DD`. -/
def columnDayLength : Nat := 10

/-- Whether a text is not above another. -/
def columnTextLe (a b : List Char) : Bool := !decide (b < a)

namespace Instant

/-- The text under which a column keeps the instant. -/
def columnText (i : Instant) : List Char := i.utc.columnText

/-- `YYYY-MM-DD` from the front of the text. -/
def columnFront (i : Instant) : List Char := i.columnText.take columnDayLength

/-- Whether a time is not above another, as columns compare them. -/
def columnLe (a b : Instant) : Bool := columnTextLe a.columnText b.columnText

/-- The lesser of two times, as columns compare them. -/
def earlier (a b : Instant) : Instant := if a.columnLe b then a else b

/-- The least of some times, if there are any. -/
def earliest? : List Instant → Option Instant
  | [] => none
  | i :: rest => some (rest.foldl earlier i)

end Instant

/-! ## Days of columns -/

/-- How a database reads the day from the text of a time. -/
inductive DayReading where
  /-- It takes the front of the text, as SQLite 3.40 does. -/
  | front
  /-- It takes the front of the text too, but a day of the month above 28, which a month may not have,
  is computed anew from the time to the millisecond, as SQLite 3.46 does. -/
  | rounded
deriving DecidableEq

/-- Half a millisecond, in microseconds. -/
def halfMillisecond : Nat := 500

/-- The day that is read from the text of a time. A time that is rounded out of the calendar has
none. -/
def DayReading.columnDay : DayReading → Instant → Option (List Char)
  | .front, i => some i.columnFront
  | .rounded, i =>
    if i.day.civil.day ≤ 28 then some i.columnFront
    else (i.shift? halfMillisecond).map Instant.columnFront

end ChargingReport
