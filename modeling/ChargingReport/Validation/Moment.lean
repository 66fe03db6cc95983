import ChargingReport.Calendar.Clock
import ChargingReport.Calendar.Iso
import ChargingReport.Json
import ChargingReport.Validation.Issue

/-!
# Points in time from input

A point in time comes as text or as a number.

* Text is a date, or a date and a clock time with an optional offset from UTC, or a number.
* A number counts the seconds since 1970, or the milliseconds if it is beyond 20000000000 on either
  side.

`readMoment` gives a stamp, which still has to be turned into an instant. A text that is neither a
date nor a number is reported with what is wrong with its date.
-/

namespace ChargingReport

/-! ## Dates -/

/-- A digit at the front of a text, or a fault. -/
def takeDigit (fault : MomentFault) (cs : List Char) : Except MomentFault (Nat × List Char) :=
  match cs with
  | c :: rest =>
    match digitValue? c with
    | some d => .ok (d, rest)
    | none => .error fault
  | [] => .error fault

/-- A number of `count` digits at the front of a text, or a fault. -/
def takeNumber (fault : MomentFault) : Nat → Nat → List Char → Except MomentFault (Nat × List Char)
  | 0, value, cs => .ok (value, cs)
  | count + 1, value, cs => do
    let (d, rest) ← takeDigit fault cs
    takeNumber fault count (value * 10 + d) rest

/-- The hyphen between the parts of a date. -/
def takeHyphen (cs : List Char) : Except MomentFault (List Char) :=
  match cs with
  | '-' :: rest => .ok rest
  | _ => .error .separator

/-- The date at the front of a text, and the rest. The year may be 0. -/
def takeDate (cs : List Char) : Except MomentFault (CivilDate × List Char) := do
  if String.utf8ByteSize (String.ofList cs) < 10 then throw .tooShort
  let (year, rest) ← takeNumber .yearCharacter 4 0 cs
  let rest ← takeHyphen rest
  let (month, rest) ← takeNumber .monthCharacter 2 0 rest
  let rest ← takeHyphen rest
  let (day, rest) ← takeNumber .dayCharacter 2 0 rest
  if month < 1 || 12 < month then throw .monthRange
  if day < 1 || daysInMonth year month < day then throw .dayRange
  return (⟨year, month, day⟩, rest)

/-- A text that is a date and nothing else. -/
def readDate (cs : List Char) : Except MomentFault CivilDate := do
  let (date, rest) ← takeDate cs
  if rest.isEmpty then return date else throw .trailing

/-! ## Clock times -/

/-- `HH:MM` at the front of a text, in minutes. -/
def takeHourMinute (cs : List Char) : Option (Nat × List Char) := do
  let (hour, rest) ← readTwo cs
  match rest with
  | ':' :: rest =>
    let (minute, rest) ← readTwo rest
    if hour < 24 ∧ minute < 60 then some (hour * 60 + minute, rest) else none
  | _ => none

/-- A fraction of a second after a point or a comma, in microseconds. -/
def takeFraction (cs : List Char) : Option (Nat × List Char) :=
  match cs with
  | ',' :: rest => readFraction ('.' :: rest)
  | _ => readFraction cs

/-- `:SS` with a fraction, if there is a colon. The answer is in microseconds. -/
def takeSeconds (cs : List Char) : Option (Nat × List Char) :=
  match cs with
  | ':' :: rest => do
    let (seconds, rest) ← readTwo rest
    if seconds < 60 then
      let (micros, rest) ← takeFraction rest
      some (seconds * microsPerSecond + micros, rest)
    else none
  | _ => some (0, cs)

/-- The hours and minutes of an offset, with or without a colon between them, in minutes. -/
def readOffsetMinutes (cs : List Char) : Option Nat := do
  let (hours, rest) ← readTwo cs
  let (minutes, rest) ← readTwo (match rest with
    | ':' :: rest => rest
    | _ => rest)
  if rest.isEmpty ∧ minutes < 60 ∧ hours < 24 then some (hours * 60 + minutes) else none

/-- The offset that ends a text, in microseconds. No text is no offset. The mathematical minus sign
counts as a minus. -/
def readOffsetText (cs : List Char) : Option (Option Int) :=
  match cs with
  | [] => some none
  | ['Z'] => some (some 0)
  | ['z'] => some (some 0)
  | sign :: rest =>
    if sign = '+' then (readOffsetMinutes rest).map fun m => some ((m : Int) * 60000000)
    else if sign = '-' ∨ sign = '\u2212' then
      (readOffsetMinutes rest).map fun m => some (-(m : Int) * 60000000)
    else none

/-- A clock time and an offset, both in microseconds. -/
def readClockOffset (cs : List Char) : Option (Nat × Option Int) := do
  let (minutes, rest) ← takeHourMinute cs
  let (micros, rest) ← takeSeconds rest
  let offset ← readOffsetText rest
  return (minutes * 60000000 + micros, offset)

/-- Whether the character stands between a date and a clock time. -/
def isDateTimeSeparator (c : Char) : Bool := c == 'T' || c == 't' || c == ' ' || c == '_'

/-- A date, the microseconds since its midnight, and an offset. -/
structure WrittenMoment where
  date : CivilDate
  time : Nat
  offset : Option Int

/-- A date and a clock time. -/
def readDateTime (cs : List Char) : Option WrittenMoment :=
  match takeDate cs with
  | .ok (date, separator :: rest) =>
    if isDateTimeSeparator separator then
      (readClockOffset rest).map fun (time, offset) => ⟨date, time, offset⟩
    else none
  | _ => none

/-- The stamp of a written moment. Only the year 0 has none. -/
def WrittenMoment.stamp (w : WrittenMoment) : Except MomentFault Stamp :=
  match Day.ofCivil? w.date with
  | none => .error .yearZero
  | some day =>
    match WallClock.ofDayTime? day w.time with
    | none => .error .yearZero
    | some wall => .ok ⟨wall, w.offset⟩

/-! ## Seconds since 1970 -/

/-- A Unix timestamp: a sign, and a size `num / den`. -/
structure UnixTime where
  negative : Bool
  num : Nat
  den : Nat
  den_pos : 0 < den

/-- Beyond this number, a timestamp counts milliseconds. -/
def millisecondThreshold : Nat := 20000000000

/-- The first second of the year 0. -/
def leastUnixSecond : Int := -62167219200

/-- The last second of the year 9999. -/
def greatestUnixSecond : Int := 253402300799

namespace UnixTime

/-- The microseconds in the unit that the timestamp counts. -/
def unit (u : UnixTime) : Nat :=
  if millisecondThreshold * u.den < u.num then 1000 else microsPerSecond

/-- A size with the sign of the timestamp. -/
def signed (u : UnixTime) (size : Nat) : Int := if u.negative then -(size : Int) else size

/-- The microseconds since 1970, rounded to the nearest. -/
def micros (u : UnixTime) : Int := u.signed (Binary64.roundHalfUp (u.num * u.unit) u.den)

/-- The stamp of a timestamp. -/
def stamp (u : UnixTime) : Except MomentFault Stamp :=
  let second := u.micros / microsPerSecond
  if greatestUnixSecond < second then .error .afterRange
  else if second < leastUnixSecond then .error .beforeRange
  else match Instant.ofUnixMicros? u.micros with
    | some instant => .ok ⟨instant.utc, some 0⟩
    | none => .error .yearZero

/-- The timestamp of an integer. -/
def ofInt (n : Int) : UnixTime := ⟨decide (n < 0), n.natAbs, 1, Nat.one_pos⟩

/-- The timestamp of a finite floating-point number. -/
def ofFinite (negative : Bool) (significand : Nat) (exponent : Int) : UnixTime :=
  let size := Binary64.magnitude significand exponent
  ⟨negative, size.1, size.2, Binary64.magnitude_den_pos significand exponent⟩

end UnixTime

/-- The whole part of a timestamp in text: an optional sign, and a number that fits into 64 bits. The
answer is whether there is a minus, and the number without it. -/
def readTimestamp (cs : List Char) : Option (Bool × Nat) := do
  let (negative, digits) := match cs with
    | '-' :: rest => (true, rest)
    | '+' :: rest => (false, rest)
    | _ => (false, cs)
  let n ← natOfChars? digits
  if fitsInt64 (if negative then -(n : Int) else n) then some (negative, n) else none

/-- What stands behind the whole part: nothing, or a point and further digits. The answer is the
number that the digits make, and how many there are. -/
def readPlaces (cs : List Char) : Option (Nat × Nat) :=
  match cs with
  | [] => some (0, 0)
  | [_] => some (0, 0)
  | _ :: digits => do
    let n ← natOfChars? digits
    if fitsInt64 n then some (n, digits.length) else none

/-- A timestamp in text. -/
def readTimestampText (cs : List Char) : Option UnixTime := do
  let (negative, whole) ← readTimestamp (cs.takeWhile (· != '.'))
  let (n, places) ← readPlaces (cs.dropWhile (· != '.'))
  return ⟨negative, whole * powerOfTen places + n, powerOfTen places, powerOfTen_pos places⟩

/-! ## All together -/

/-- A point in time in text. -/
def readMomentText (s : String) : Except Issue Stamp :=
  let cs := s.toList
  let written : Except Issue Stamp :=
    match readDate cs with
    | .ok date =>
      match (⟨date, 0, none⟩ : WrittenMoment).stamp with
      | .ok stamp => .ok stamp
      | .error fault => .error (.moment fault)
    | .error fault => .error (.date fault)
  match readDateTime cs with
  | some w =>
    match w.stamp with
    | .ok stamp => .ok stamp
    | .error fault => .error (.moment fault)
  | none =>
    match readTimestampText cs with
    | none => written
    | some timestamp =>
      match timestamp.stamp with
      | .ok stamp => .ok stamp
      | .error .yearZero => .error (.moment .yearZero)
      | .error fault => if cs.contains '.' then written else .error (.date fault)

/-- A timestamp as a floating-point number. -/
def stampOfFloat (x : Binary64) : Except MomentFault Stamp :=
  match x with
  | .notANumber => .error .notANumber
  | .infinite negative => .error (if negative then .beforeRange else .afterRange)
  | .finite negative significand exponent =>
    (UnixTime.ofFinite negative significand exponent).stamp

/-- A point in time from input. -/
def readMoment : Json → Except Issue Stamp
  | .text s => readMomentText s
  | .int n => (UnixTime.ofInt n).stamp.mapError .moment
  | .float x => (stampOfFloat x).mapError .moment
  | _ => .error .momentType

end ChargingReport
