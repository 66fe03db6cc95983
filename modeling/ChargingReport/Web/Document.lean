import ChargingReport.Form.Criteria
import ChargingReport.Report.Details
import ChargingReport.Web.Body

/-!
# The interface document

What the service tells about its interface: the operations with their parameters, and the values that
they take and give.
-/

namespace ChargingReport

/-- A parameter of an operation. -/
structure ParameterEntry where
  name : String
  place : String
  required : Bool
deriving DecidableEq, Repr

/-- An operation of the interface. -/
structure OperationEntry where
  path : String
  method : String
  parameters : List ParameterEntry
  responses : List String
  tags : List String
deriving DecidableEq, Repr

/-- A value of the interface: its fields and which of them are required, or the names that it can
be. -/
structure ValueEntry where
  name : String
  fields : List String := []
  required : List String := []
  names : Option (List String) := none
deriving DecidableEq, Repr

/-- What the service says about itself. -/
def serviceDescription : String :=
  "Read-only reporting over charging transactions and their meter values."

namespace Document

/-- The parameters of a query form. -/
def formParameters : List ParameterEntry :=
  ["transaction_pk", "charge_box_id", "ocpp_id_tag", "type", "period_type", "from", "to"].map
    fun name => ⟨name, "query", false⟩

/-- The operations, sorted by path. -/
def operations : List OperationEntry :=
  [⟨"/api/charge-boxes/\x7bcharge_box_id\x7d/active-transactions", "get",
      [⟨"charge_box_id", "path", true⟩], ["200", "422"], ["charge-boxes"]⟩,
    ⟨"/api/healthz", "get", [], ["200"], ["health"]⟩,
    ⟨"/api/readyz", "get", [], ["200"], ["health"]⟩,
    ⟨"/api/transactions", "get", formParameters, ["200", "422"], ["transactions"]⟩,
    ⟨"/api/transactions/export", "get", formParameters, ["200", "422"], ["transactions"]⟩,
    ⟨"/api/transactions/\x7btransaction_pk\x7d", "get", [⟨"transaction_pk", "path", true⟩],
      ["200", "422"], ["transactions"]⟩]

/-- The fields of a record, in order. -/
def recordFields : List String :=
  ["id", "charge_box_id", "connector_id", "ocpp_id_tag", "start_timestamp",
    "start_timestamp_display", "start_value", "stop_timestamp", "stop_timestamp_display",
    "stop_value", "charge_box_pk", "ocpp_tag_pk"]

/-- The fields of a reading, in order. -/
def readingFields : List String :=
  ["value_timestamp", "value", "reading_context", "format", "measurand", "location", "unit"]

/-- The values of the interface. -/
def values : List ValueEntry :=
  [{ name := "HTTPValidationError", fields := ["detail"] },
    { name := "MeterValueRead", fields := readingFields, required := readingFields },
    { name := "QueryPeriodType", names := some (QueryPeriod.members.map QueryPeriod.name) },
    { name := "QueryType", names := some (QueryType.members.map QueryType.name) },
    { name := "TransactionDetailsRead", fields := ["transaction", "values"],
      required := ["transaction", "values"] },
    { name := "TransactionRead", fields := recordFields, required := recordFields },
    { name := "ValidationError", fields := ["loc", "msg", "type", "input", "ctx"],
      required := ["loc", "msg", "type"] }]

/-- An operation as a structured value. -/
def OperationEntry.describe (o : OperationEntry) : Json :=
  .list [.text o.path, .text o.method,
    .list (o.parameters.map fun p => .list [.text p.name, .text p.place, .bool p.required]),
    .texts o.responses, .texts o.tags]

/-- A value of the interface as a structured value. -/
def ValueEntry.describe (v : ValueEntry) : Json :=
  .list [.texts (v.fields.mergeSort textLe), .texts v.required,
    match v.names with
    | some names => .texts names
    | none => .null]

/-- The document of a service with a name and a version. -/
def describe (title version : String) : Json :=
  .object [
    ("info", .object [("title", .text title), ("version", .text version),
      ("description", .text serviceDescription)]),
    ("operations", .list (operations.map OperationEntry.describe)),
    ("schemas", .object (values.map fun v => (v.name, ValueEntry.describe v)))]

end Document

end ChargingReport
