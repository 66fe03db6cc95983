import ChargingReport.Calendar.Column
import ChargingReport.Failure

/-!
# Conditions of a query

A form is turned into a list of conditions on a session and its connector, all of which have to
hold. A criterion that is not set adds none, so the form without criteria matches every session.

`QueryForm.conditions` builds the list, `Condition.holds` says what a condition means, and
`Condition.describe` shows it as operand, operator and values. Times and days are compared as the
texts that columns keep, and a condition on days has the way in which the database reads them.
-/

namespace ChargingReport

/-- A condition on a session and its connector. -/
inductive Condition where
  /-- The session has this key. -/
  | keyIs (pk : Int)
  /-- The connector belongs to this station. -/
  | stationIs (chargeBoxId : String)
  /-- The session was authorised by this tag. -/
  | tagIs (idTag : String)
  /-- The session has no stop time. -/
  | isOpen
  /-- The session began on this day in UTC. -/
  | startedOn (days : DayReading) (day : Day)
  /-- The session began on one of these days in UTC, the ends included. -/
  | startedWithin (days : DayReading) (first last : Day)
  /-- The session began in this time, the ends included. A missing end matches nothing. -/
  | startedBetween (first last : Option Instant)
deriving DecidableEq

namespace Condition

/-- Whether the condition holds. A start without a day is on no day. -/
def holds (t : Transaction) (c : Connector) : Condition → Bool
  | .keyIs pk => t.pk == pk
  | .stationIs chargeBoxId => c.chargeBoxId == chargeBoxId
  | .tagIs idTag => t.idTag == idTag
  | .isOpen => t.stop.isNone
  | .startedOn days day => (days.columnDay t.start).any fun text => text == day.columnText
  | .startedWithin days first last => (days.columnDay t.start).any fun text =>
    columnTextLe first.columnText text && columnTextLe text last.columnText
  | .startedBetween (some first) (some last) =>
    first.columnLe t.start && t.start.columnLe last
  | .startedBetween _ _ => false

/-- Whether all numbers of the condition can be stored at all. -/
def fits : Condition → Bool
  | .keyIs pk => fitsInt64 pk
  | _ => true

/-- An instant or null. -/
private def instantValue : Option Instant → Json
  | some i => .text i.text
  | none => .null

/-- The condition as operand, operator and values. -/
def describe : Condition → Json
  | .keyIs pk => .list [.text "transaction.transaction_pk", .text "eq", .int pk]
  | .stationIs id => .list [.text "connector.charge_box_id", .text "eq", .text id]
  | .tagIs id => .list [.text "transaction.id_tag", .text "eq", .text id]
  | .isOpen => .list [.text "transaction.stop_timestamp", .text "is_", .null]
  | .startedOn _ day =>
    .list [.text "date(transaction.start_timestamp)", .text "eq", .text day.text]
  | .startedWithin _ first last =>
    .list [.text "date(transaction.start_timestamp)", .text "between", .text first.text,
      .text last.text]
  | .startedBetween first last =>
    .list [.text "transaction.start_timestamp", .text "between", instantValue first,
      instantValue last]

end Condition

/-- Whether a value is a text that is the name of a period that looks back some days. -/
def Json.namesLookBack : Json → Bool
  | .text s => ((QueryPeriod.ofName? s).bind QueryPeriod.intervalDays).isSome
  | _ => false

namespace QueryForm

/-- The condition that a criterion adds, if it is set. -/
def criterion {α : Type} (condition : α → Condition) : Option α → List Condition
  | some a => [condition a]
  | none => []

/-- The condition on active sessions. A type that is no type asks for nothing. -/
def typeConditions : Choice QueryType → List Condition
  | .known .active => [.isOpen]
  | _ => []

/-- The condition that a look-back of some days adds. -/
def lookBack (days : DayReading) (count : Nat) (today : Day) : Except Failure (List Condition) :=
  match today.before count with
  | .ok first => .ok [.startedWithin days first today]
  | .error cause => .error (.calendar cause)

/-- The failure of what stands in the place of a period. A text that is the name of a period passes
for that period where days are to be looked back, and has none. -/
def uncheckedPeriod (value : Json) : Failure :=
  if value.namesLookBack then .noInterval value.kindName else .unknownPeriod value.shown

/-- The conditions of a period, seen from a day. -/
def periodConditions (form : QueryForm) (days : DayReading) (today : Day) :
    Except Failure (List Condition) :=
  match form.period with
  | .unchecked value => .error (uncheckedPeriod value)
  | .known .today => .ok [.startedOn days today]
  | .known .fromTo => .ok [.startedBetween form.earliest form.latest]
  | .known period =>
    match period.intervalDays with
    | some count => lookBack days count today
    | none => .ok []

/-- The conditions of a form, seen from a day. -/
def conditions (form : QueryForm) (days : DayReading) (today : Day) :
    Except Failure (List Condition) := do
  let period ← form.periodConditions days today
  return criterion .keyIs form.transactionPk ++ criterion .stationIs form.chargeBoxId ++
    criterion .tagIs form.idTag ++ typeConditions form.type ++ period

end QueryForm

end ChargingReport
