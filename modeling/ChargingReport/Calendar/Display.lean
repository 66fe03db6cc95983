import ChargingReport.Calendar.Zone

/-!
# Instants for display

An instant is shown with the clock time of a zone. The day is `Today`, `Yesterday` or `Tomorrow`
when it is near the day of a reference instant in the same zone, and a date otherwise. The date
does not pad its year.
-/

namespace ChargingReport

/-- Why an instant cannot be shown. -/
inductive DisplayError where
  | zone (cause : ZoneError)
  | calendar (cause : CalendarError)
deriving DecidableEq, Repr

/-- `HH:MM`. -/
def WallClock.clockText (w : WallClock) : List Char :=
  padded 2 w.hour ++ ':' :: padded 2 w.minute

/-- The date with an unpadded year. -/
def CivilDate.displayText (c : CivilDate) : List Char :=
  natText c.year ++ '-' :: padded 2 c.month ++ '-' :: padded 2 c.day

/-- The word for the day of a reading, seen from today, or its date. -/
def dayPhrase (today shown : Day) : List Char :=
  if shown.number = today.number then "Today".toList
  else if shown.number + 1 = today.number then "Yesterday".toList
  else if shown.number = today.number + 1 then "Tomorrow".toList
  else shown.civil.displayText

/-- A reading in words, seen from a day. -/
def phrase (today : Day) (shown : WallClock) : String :=
  String.ofList (dayPhrase today shown.day ++ " at ".toList ++ shown.clockText)

/-- The instant `shown` in a zone, seen from the instant `now`. -/
def displayIn? (zone : Zone) (now shown : Instant) : Option String := do
  let shownLocal ← zone.local? shown
  let nowLocal ← zone.local? now
  return phrase nowLocal.day shownLocal

/-- A stamp for display. No stamp is shown as the empty text, whatever the zone. The zone is looked
up before the stamps are converted. -/
def displayStamp (key : String) (now : Stamp) (shown : Option Stamp) :
    Except DisplayError String :=
  match shown with
  | none => .ok ""
  | some stamp =>
    match Zone.ofKey key with
    | .error cause => .error (.zone cause)
    | .ok zone =>
      let text := do displayIn? zone (← now.instant?) (← stamp.instant?)
      match text with
      | some s => .ok s
      | none => .error (.calendar .outOfRange)

end ChargingReport
