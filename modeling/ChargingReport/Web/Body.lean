import ChargingReport.Report.Details

/-!
# Bodies of answers

Records, readings and issues as structured values. Reports elsewhere use the same values with
another way of writing instants, so the writer is an argument.
-/

namespace ChargingReport

/-- An instant or null. -/
def Json.ofInstant? (write : Instant → String) : Option Instant → Json
  | some i => .text (write i)
  | none => .null

/-- The fields of a record. -/
def TransactionRecord.fields (write : Instant → String) (r : TransactionRecord) :
    List (String × Json) :=
  [("id", .int r.pk), ("charge_box_id", .text r.chargeBoxId),
    ("connector_id", .int r.connectorNumber), ("ocpp_id_tag", .text r.idTag),
    ("start_timestamp", .text (write r.start)),
    ("start_timestamp_display", .text r.startDisplay), ("start_value", .text r.startValue),
    ("stop_timestamp", .ofInstant? write r.stop),
    ("stop_timestamp_display", .text r.stopDisplay), ("stop_value", .ofText? r.stopValue),
    ("charge_box_pk", .int r.chargeBoxPk), ("ocpp_tag_pk", .int r.tagPk)]

/-- A record in an answer. -/
def TransactionRecord.body (r : TransactionRecord) : Json := .object (r.fields Instant.zuluText)

/-- The fields of a reading. -/
def Reading.fields (write : Instant → String) (r : Reading) : List (String × Json) :=
  [("value_timestamp", .text (write r.time)), ("value", .ofText? r.sample.value),
    ("reading_context", .ofText? r.sample.readingContext), ("format", .ofText? r.sample.format),
    ("measurand", .ofText? r.sample.measurand), ("location", .ofText? r.sample.location),
    ("unit", .ofText? r.sample.unit)]

/-- Details in an answer. -/
def TransactionDetails.body (d : TransactionDetails) : Json :=
  .object [("transaction", d.transaction.body),
    ("values", .list (d.values.map fun r => .object (r.fields Instant.zuluText)))]

/-- An answer that only says what is the matter. -/
def detailBody (text : String) : Json := .object [("detail", .text text)]

/-- An issue of a parameter, which stands in a part of the request and was given as a text. -/
def Issue.body (part name input : String) (issue : Issue) : Json :=
  let context := match issue.context with
    | some (key, text) => [("ctx", Json.object [(key, .text text)])]
    | none => []
  .object ([("type", .text issue.code), ("loc", .list [.text part, .text name]),
    ("msg", .text issue.message), ("input", .text input)] ++ context)

end ChargingReport
