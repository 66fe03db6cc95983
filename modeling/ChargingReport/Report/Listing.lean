import ChargingReport.Journal.Basic
import ChargingReport.Report.Record

/-!
# Listings

* `ReportContext.transactions` lists the records that a form selects, newest first.
* `ReportContext.transaction?` is the one record that a form selects, if there is one.
* `ReportContext.activeKeys` are the keys of the open sessions of a station.

Listing and active keys record a span. The span ends with the query, so what goes wrong when records
are made does not show in it.
-/

namespace ChargingReport

/-- The name of the choice that a form made. -/
def Choice.label {α : Type} (name : α → String) : Choice α → Except Failure String
  | .known a => .ok (name a)
  | .unchecked value => .error (.notAChoice value.kindName)

/-- A query that is ready to run: its conditions, and the attributes of its span. -/
structure QueryPlan where
  conditions : List Condition
  attributes : List (String × Json)

namespace ReportContext

/-- The plan of a listing. -/
def listingPlan (ctx : ReportContext) (form : QueryForm) : Except Failure QueryPlan := do
  let conditions ← ctx.conditions form
  let period ← form.period.label QueryPeriod.name
  let type ← form.type.label QueryType.name
  return ⟨conditions, [("period_type", .text period), ("query_type", .text type)]⟩

/-- The rows that conditions select. -/
def listedRows (ctx : ReportContext) (conditions : List Condition) :
    Except Failure (List ListedRow) := do
  return (← ctx.read conditions).listed conditions

/-- The records that a form selects, newest first. -/
def transactions (ctx : ReportContext) (form : QueryForm) (j : Journal) :
    Outcome (List TransactionRecord) :=
  match ctx.listingPlan form with
  | .error f => ⟨.error f, j⟩
  | .ok plan =>
    let rows := ctx.listedRows plan.conditions
    ⟨rows.bind fun rows => rows.mapM ctx.record,
      j.endSpan "transactions.list" plan.attributes (failureOf rows)⟩

/-- The one record that a form selects, if there is one. More than one is a failure. -/
def transaction? (ctx : ReportContext) (form : QueryForm) :
    Except Failure (Option TransactionRecord) := do
  let rows ← ctx.listedRows (← ctx.conditions form)
  match rows with
  | [] => return none
  | [row] => return some (← ctx.record row)
  | _ => throw .multipleRows

/-- The keys of the sessions that are still open at a station, newest first. -/
def activeKeys (ctx : ReportContext) (chargeBoxId : String) (j : Journal) :
    Outcome (List Int) :=
  let keys := (ctx.read []).map fun store => store.openKeys chargeBoxId
  ⟨keys, j.endSpan "transactions.active_ids" [("charge_box_id", .text chargeBoxId)]
    (failureOf keys)⟩

end ReportContext

end ChargingReport
