import ChargingReport.Store.Relations
import ChargingReport.Store.Session

/-!
# Demonstration data

One station with two connectors, a finished session and an active one, and six samples, of which two
are not tagged with their session. `seed` adds all of it, or nothing if the station exists.
-/

namespace ChargingReport

/-- The station of the demonstration. -/
def demoStation : String := "CB-DEMO-01"

/-- The tag of the demonstration. -/
def demoTag : String := "DEMO-TAG-0001"

/-- A sample of the demonstration. -/
structure DemoSample where
  connector : Int
  transaction : Option Int
  time : Instant
  value : String

/-- The draft of a sample. -/
def DemoSample.draft (s : DemoSample) : Draft :=
  .meterValue {
    connectorPk := some s.connector
    transactionPk := s.transaction
    time := some ⟨s.time.utc, none⟩
    sample := {
      value := some s.value
      readingContext := some "Sample.Periodic"
      format := some "Raw"
      measurand := some "Energy.Active.Import.Register"
      location := some "Outlet"
      unit := some "Wh" } }

/-- The microseconds of a minute. -/
def microsPerMinute : Int := 60000000

/-- An instant moved by minutes. -/
def Instant.plusMinutes (i : Instant) (minutes : Int) : Except Failure Instant :=
  match i.shift? (minutes * microsPerMinute) with
  | some i => .ok i
  | none => .error (.calendar .outOfRange)

/-- The draft of the station. -/
def demoBox : Draft :=
  .chargeBox { chargeBoxId := some demoStation, description := some "Demo station" }

/-- The draft of the tag. -/
def demoCard : Draft := .tag { idTag := some demoTag, note := some "Demo card" }

/-- The draft of a connector of the station. -/
def demoConnector (number : Int) : Draft :=
  .connector { chargeBoxId := some demoStation, number := some number }

/-- The times of the demonstration, seen from an instant. The finished session began a day and two
hours ago and took an hour. The active one began three quarters of an hour ago. -/
structure DemoTimes where
  now : Instant
  finishedStart : Instant
  finishedStop : Instant
  activeStart : Instant

/-- The times of the demonstration, seen from the clock. -/
def DemoTimes.ofClock (clock : Stamp) : Except Failure DemoTimes := do
  let instant ← clock.instant.mapError .calendar
  let now := instant.wholeSecond
  let start ← now.plusMinutes (-(24 + 2) * 60)
  return ⟨now, start, ← start.plusMinutes 60, ← now.plusMinutes (-45)⟩

/-- The draft of the finished session, on the connector with a key. -/
def demoFinished (times : DemoTimes) (connector : Int) : Draft :=
  .transaction {
    connectorPk := some connector
    idTag := some demoTag
    start := some ⟨times.finishedStart.utc, none⟩
    startValue := some "1000"
    stop := some ⟨times.finishedStop.utc, none⟩
    stopValue := some "8400" }

/-- The draft of the active session, on the connector with a key. -/
def demoActive (times : DemoTimes) (connector : Int) : Draft :=
  .transaction {
    connectorPk := some connector
    idTag := some demoTag
    start := some ⟨times.activeStart.utc, none⟩
    startValue := some "500" }

/-- The samples of the demonstration, for connectors and sessions with these keys. -/
def demoSamples (times : DemoTimes) (first second finished active : Int) :
    Except Failure (List DemoSample) := do
  return [
    ⟨first, some finished, ← times.finishedStart.plusMinutes 15, "3200"⟩,
    ⟨first, none, ← times.finishedStart.plusMinutes 30, "5600"⟩,
    ⟨first, some finished, ← times.finishedStart.plusMinutes 45, "8400"⟩,
    ⟨first, some finished, ← times.finishedStart.plusMinutes 60, "8400"⟩,
    ⟨second, some active, ← times.now.plusMinutes (-30), "1900"⟩,
    ⟨second, none, ← times.now.plusMinutes (-15), "3300"⟩]

/-! ## Adding the demonstration -/

/-- Adds the station, the tag and the connectors. The answer is the keys of the connectors. -/
def seedEquipment (schema : Schema) : Session (Int × Int) := do
  let _ ← Session.insert schema demoBox
  let _ ← Session.insert schema demoCard
  let first ← Session.insert schema (demoConnector 1)
  let second ← Session.insert schema (demoConnector 2)
  return (first, second)

/-- Adds the sessions on connectors with these keys. The answer is the keys of the sessions. -/
def seedSessions (schema : Schema) (times : DemoTimes) (first second : Int) :
    Session (Int × Int) := do
  let finished ← Session.insert schema (demoFinished times first)
  let active ← Session.insert schema (demoActive times second)
  return (finished, active)

/-- Adds the demonstration, unless its station exists. -/
def seed (schema : Schema) (clock : Stamp) : Session Unit := do
  if ((← get).chargeBox? demoStation).isSome then return
  let (first, second) ← seedEquipment schema
  let times ← Session.ofExcept (DemoTimes.ofClock clock)
  let (finished, active) ← seedSessions schema times first second
  let samples ← Session.ofExcept (demoSamples times first second finished active)
  let _ ← Session.insertAll schema (samples.map DemoSample.draft)

end ChargingReport
