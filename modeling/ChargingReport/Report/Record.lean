import ChargingReport.Report.Fetching

/-!
# Records of transactions

A `TransactionRecord` is a listed session with its start and stop written for display. The record of
a row fails when the display zone has no such key, or when a clock in the zone would leave the
calendar.

`ReportContext` is what a report is made from: the store, the clock, the settings that matter, and how
the database reads days and rows are fetched.
-/

namespace ChargingReport

/-- What a report is made from. There is no store while the database does not answer. -/
structure ReportContext where
  store : Option Store
  clock : Stamp
  displayZone : String
  batchSize : Nat
  days : DayReading := .front
  fetcher : Fetcher := .buffered

/-- A listed session, with its times written for display. -/
structure TransactionRecord where
  pk : Int
  chargeBoxId : String
  connectorNumber : Int
  idTag : String
  start : Instant
  startDisplay : String
  startValue : String
  stop : Option Instant
  stopDisplay : String
  stopValue : Option String
  chargeBoxPk : Int
  tagPk : Int
deriving DecidableEq

/-- Whether the session of the record is still open. -/
def TransactionRecord.isActive (r : TransactionRecord) : Bool := r.stop.isNone

/-- An instant as a stamp in UTC. -/
def Instant.stamp (i : Instant) : Stamp := ⟨i.utc, some 0⟩

namespace ReportContext

/-- The day of the clock in UTC. -/
def today (ctx : ReportContext) : Except Failure Day :=
  match ctx.clock.utcDay with
  | .ok day => .ok day
  | .error cause => .error (.calendar cause)

/-- An instant for display. No instant is shown as the empty text. -/
def display (ctx : ReportContext) (i : Option Instant) : Except Failure String :=
  (displayStamp ctx.displayZone ctx.clock (i.map Instant.stamp)).mapError Failure.ofDisplay

/-- The record of a listed row. -/
def record (ctx : ReportContext) (row : ListedRow) : Except Failure TransactionRecord := do
  let t := row.transaction
  return {
    pk := t.pk
    chargeBoxId := row.connector.chargeBoxId
    connectorNumber := row.connector.number
    idTag := t.idTag
    start := t.start
    startDisplay := ← ctx.display (some t.start)
    startValue := t.startValue
    stop := t.stop
    stopDisplay := ← ctx.display t.stop
    stopValue := t.stopValue
    chargeBoxPk := row.chargeBox.pk
    tagPk := row.tag.pk }

/-- The store for a query with some conditions. A database that does not answer comes before a
number that cannot be stored. -/
def read (ctx : ReportContext) (conditions : List Condition) : Except Failure Store :=
  match ctx.store with
  | none => .error .unavailable
  | some store =>
    if conditions.all Condition.fits then .ok store else .error (.write .integerRange)

/-- The conditions of a form, seen from the day of the clock. -/
def conditions (ctx : ReportContext) (form : QueryForm) : Except Failure (List Condition) := do
  form.conditions ctx.days (← ctx.today)

end ReportContext

end ChargingReport
