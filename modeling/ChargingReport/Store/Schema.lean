import ChargingReport.Store.Row

/-!
# Schemas

A `Schema` describes the tables of a database: their columns, keys, references, constraints and
indexes. `Schema.declared` is the schema that the row types need.

Names of constraints that are not given follow a convention: a unique column of a table is
`uq_table_column`, a reference is `fk_table_column_target`, and a check `ck_table_name`.
-/

namespace ChargingReport

/-- The type of a column. -/
inductive ColumnType where
  | integer
  | text (limit : Nat)
  | timestamp
deriving DecidableEq, Repr

/-- A column of a table. -/
structure Column where
  name : String
  type : ColumnType
  nullable : Bool
deriving DecidableEq, Repr

/-- What happens to a row whose reference is deleted. -/
inductive DeleteRule where
  | cascade
  | setNull
deriving DecidableEq, Repr

/-- Columns that refer to the columns of another table. -/
structure Reference where
  name : String
  columns : List String
  target : String
  targetColumns : List String
  onDelete : DeleteRule
deriving DecidableEq, Repr

/-- Columns that no two rows of a table share. -/
structure UniqueRule where
  name : String
  columns : List String
deriving DecidableEq, Repr

/-- A condition on a row. -/
inductive RowRule where
  /-- Both columns are null, or neither is. -/
  | paired (first second : String)
deriving DecidableEq, Repr

/-- A condition on every row of a table. -/
structure CheckRule where
  name : String
  rule : RowRule
deriving DecidableEq, Repr

/-- An index over columns of a table. -/
structure IndexRule where
  name : String
  columns : List String
  unique : Bool
deriving DecidableEq, Repr

/-- A table of a schema. -/
structure TableSchema where
  name : String
  columns : List Column
  primaryKey : List String
  references : List Reference := []
  uniques : List UniqueRule := []
  checks : List CheckRule := []
  indexes : List IndexRule := []
deriving DecidableEq, Repr

/-- A description of the tables of a database. -/
structure Schema where
  tables : List TableSchema
deriving DecidableEq, Repr

/-- The table with a name. -/
def Schema.table? (schema : Schema) (name : String) : Option TableSchema :=
  schema.tables.find? fun t => t.name == name

/-! ## Columns -/

/-- The length that every text column is declared with. -/
def columnLength : Nat := 255

/-- An integer column that must be set. -/
def requiredInteger (name : String) : Column := ⟨name, .integer, false⟩

/-- An integer column that may be null. -/
def optionalInteger (name : String) : Column := ⟨name, .integer, true⟩

/-- A text column that must be set. -/
def requiredText (name : String) : Column := ⟨name, .text columnLength, false⟩

/-- A text column that may be null. -/
def optionalText (name : String) : Column := ⟨name, .text columnLength, true⟩

/-- A timestamp column that must be set. -/
def requiredTimestamp (name : String) : Column := ⟨name, .timestamp, false⟩

/-- A timestamp column that may be null. -/
def optionalTimestamp (name : String) : Column := ⟨name, .timestamp, true⟩

/-! ## Names by convention -/

/-- The name of the rule that a column is unique. -/
def uniqueName (table column : String) : String := "uq_" ++ table ++ "_" ++ column

/-- The name of a reference from a column to a table. -/
def referenceName (table column target : String) : String :=
  "fk_" ++ table ++ "_" ++ column ++ "_" ++ target

/-- The name of a check. -/
def checkName (table name : String) : String := "ck_" ++ table ++ "_" ++ name

/-- The rule that a column is unique, with the name by convention. -/
def uniqueColumn (table column : String) : UniqueRule := ⟨uniqueName table column, [column]⟩

/-- The reference from a column to a column of the same name, with the name by convention. -/
def referenceTo (table column target : String) (onDelete : DeleteRule) : Reference :=
  ⟨referenceName table column target, [column], target, [column], onDelete⟩

/-! ## The declared schema -/

/-- The rule that a stop time and a stop value are set together. -/
def stopPaired : RowRule := .paired "stop_timestamp" "stop_value"

/-- The table of charging stations. -/
def chargeBoxTable : TableSchema :=
  { name := "charge_box"
    columns := [requiredInteger "charge_box_pk", requiredText "charge_box_id",
      optionalText "description"]
    primaryKey := ["charge_box_pk"]
    uniques := [uniqueColumn "charge_box" "charge_box_id"] }

/-- The table of connectors. -/
def connectorTable : TableSchema :=
  { name := "connector"
    columns := [requiredInteger "connector_pk", requiredText "charge_box_id",
      requiredInteger "connector_id"]
    primaryKey := ["connector_pk"]
    references := [referenceTo "connector" "charge_box_id" "charge_box" .cascade]
    uniques := [⟨"uq_connector_charge_box_connector", ["charge_box_id", "connector_id"]⟩] }

/-- The table of tags. -/
def tagTable : TableSchema :=
  { name := "ocpp_tag"
    columns := [requiredInteger "ocpp_tag_pk", requiredText "id_tag", optionalText "note"]
    primaryKey := ["ocpp_tag_pk"]
    uniques := [uniqueColumn "ocpp_tag" "id_tag"] }

/-- The table of sessions. -/
def transactionTable : TableSchema :=
  { name := "transaction"
    columns := [requiredInteger "transaction_pk", requiredInteger "connector_pk",
      requiredText "id_tag", requiredTimestamp "start_timestamp", requiredText "start_value",
      optionalTimestamp "stop_timestamp", optionalText "stop_value"]
    primaryKey := ["transaction_pk"]
    references := [referenceTo "transaction" "connector_pk" "connector" .cascade,
      referenceTo "transaction" "id_tag" "ocpp_tag" .cascade]
    checks := [⟨checkName "transaction" "stop_fields_paired", stopPaired⟩]
    indexes := [⟨"ix_transaction_connector_pk", ["connector_pk"], false⟩,
      ⟨"ix_transaction_id_tag", ["id_tag"], false⟩] }

/-- The table of meter values. -/
def meterValueTable : TableSchema :=
  { name := "connector_meter_value"
    columns := [requiredInteger "id", requiredInteger "connector_pk",
      optionalInteger "transaction_pk", requiredTimestamp "value_timestamp",
      optionalText "value", optionalText "reading_context", optionalText "format",
      optionalText "measurand", optionalText "location", optionalText "unit"]
    primaryKey := ["id"]
    references := [referenceTo "connector_meter_value" "connector_pk" "connector" .cascade,
      referenceTo "connector_meter_value" "transaction_pk" "transaction" .setNull]
    indexes := [⟨"ix_connector_meter_value_connector_pk_value_timestamp",
        ["connector_pk", "value_timestamp"], false⟩,
      ⟨"ix_connector_meter_value_transaction_pk", ["transaction_pk"], false⟩] }

/-- The schema that the row types need. -/
def Schema.declared : Schema :=
  ⟨[chargeBoxTable, connectorTable, tagTable, transactionTable, meterValueTable]⟩

end ChargingReport
