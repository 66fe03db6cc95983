import ChargingReport.Calendar.Clock

/-!
# Written dates and times

Instants are written as `YYYY-MM-DDTHH:MM:SS`, with six digits of a fraction where it is not zero,
and a suffix for UTC. Tables and reports use the suffix `+00:00`, and answers to requests use `Z`.

`Stamp.ofText?` reads the same form with any offset. The grammar of a query is wider and has its own
module.
-/

namespace ChargingReport

namespace WallClock

/-- `YYYY-MM-DDTHH:MM:SS`, with six digits of a fraction unless it is zero. -/
def text (w : WallClock) : List Char :=
  let fraction := if w.microsecond = 0 then [] else '.' :: padded 6 w.microsecond
  w.day.civil.text ++ 'T' :: padded 2 w.hour ++ ':' :: padded 2 w.minute ++
    ':' :: padded 2 w.second ++ fraction

end WallClock

namespace Instant

/-- The written form with the offset of UTC. -/
def text (i : Instant) : String := String.ofList (i.utc.text ++ ['+', '0', '0', ':', '0', '0'])

/-- The written form with the letter for UTC. -/
def zuluText (i : Instant) : String := String.ofList (i.utc.text ++ ['Z'])

end Instant

/-! ## Reading -/

/-- Two digits at the front of a text. -/
def readTwo (cs : List Char) : Option (Nat × List Char) :=
  match cs with
  | a :: b :: rest => (natOfChars? [a, b]).map (·, rest)
  | _ => none

/-- The first six digits of a fraction as microseconds. Further digits are cut. -/
def fractionMicros (digits : List Char) : Nat :=
  let kept := digits.take 6
  (natOfChars? (kept ++ List.replicate (6 - kept.length) '0')).getD 0

/-- A fraction, if the text goes on with a point. -/
def readFraction (cs : List Char) : Option (Nat × List Char) :=
  match cs with
  | '.' :: rest =>
    let digits := rest.takeWhile isDigitChar
    if digits.isEmpty then none
    else some (fractionMicros digits, rest.dropWhile isDigitChar)
  | _ => some (0, cs)

/-- `:SS` with a fraction, if the text goes on with a colon. The answer is in microseconds. -/
def readSeconds (cs : List Char) : Option (Nat × List Char) :=
  match cs with
  | ':' :: rest => do
    let (seconds, rest) ← readTwo rest
    let (micros, rest) ← readFraction rest
    return (seconds * microsPerSecond + micros, rest)
  | _ => some (0, cs)

/-- `HH:MM` with optional seconds and fraction, in microseconds. -/
def readClock (cs : List Char) : Option (Nat × List Char) := do
  let (hour, rest) ← readTwo cs
  match rest with
  | ':' :: rest =>
    let (minute, rest) ← readTwo rest
    let (micros, rest) ← readSeconds rest
    return (hour * 3600000000 + minute * 60000000 + micros, rest)
  | _ => none

/-- The offset at the end of a stamp, in microseconds; no text is no offset. -/
def readOffset (cs : List Char) : Option (Option Int) :=
  match cs with
  | [] => some none
  | ['Z'] => some (some 0)
  | '+' :: rest =>
    match readClock rest with
    | some (micros, []) => some (some (micros : Int))
    | _ => none
  | '-' :: rest =>
    match readClock rest with
    | some (micros, []) => some (some (-(micros : Int)))
    | _ => none
  | _ => none

namespace Stamp

/-- Reads `YYYY-MM-DDTHH:MM:SS[.ffffff]` with an optional offset. -/
def ofText? (s : String) : Option Stamp := do
  let (date, rest) ← CivilDate.read s.toList
  let day ← Day.ofCivil? date
  match rest with
  | 'T' :: rest =>
    let (micros, rest) ← readClock rest
    let offset ← readOffset rest
    let wall ← WallClock.ofDayTime? day micros
    return ⟨wall, offset⟩
  | _ => none

end Stamp

end ChargingReport
