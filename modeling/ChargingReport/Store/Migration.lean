import ChargingReport.Store.Schema

/-!
# Migrations

A migration changes a schema step by step. There is one revision, which makes the tables, and a
record of the revision that a database is at.

`Database.migrate` moves a database to a target: the head, the base, or a revision by its name or
the beginning of its name. Any target makes the table that records the revision.
-/

namespace ChargingReport

/-- One step of a migration. -/
inductive SchemaChange where
  | createTable (table : TableSchema)
  | createIndex (table : String) (index : IndexRule)
  | dropIndex (table : String) (name : String)
  | dropTable (name : String)

/-- Changes the table of a name. -/
def Schema.updateTable (schema : Schema) (name : String) (change : TableSchema → TableSchema) :
    Schema :=
  ⟨schema.tables.map fun t => if t.name = name then change t else t⟩

/-- The schema after a step. -/
def SchemaChange.apply (schema : Schema) : SchemaChange → Schema
  | .createTable table => ⟨schema.tables ++ [table]⟩
  | .createIndex table index =>
    schema.updateTable table fun t => { t with indexes := t.indexes ++ [index] }
  | .dropIndex table name =>
    schema.updateTable table fun t =>
      { t with indexes := t.indexes.filter fun i => i.name != name }
  | .dropTable name => ⟨schema.tables.filter fun t => t.name != name⟩

/-- The schema after a list of steps. -/
def Schema.applyAll (schema : Schema) (changes : List SchemaChange) : Schema :=
  changes.foldl SchemaChange.apply schema

/-! ## The initial schema -/

/-- The name of the only revision. -/
def initialRevision : String := "20261017_01"

/-- The steps that make the tables. The check of the transaction table is given by its full name,
to which the convention adds the table once more. -/
def upgradeSteps : List SchemaChange :=
  [.createTable
    { name := "charge_box"
      columns := [requiredInteger "charge_box_pk", requiredText "charge_box_id",
        optionalText "description"]
      primaryKey := ["charge_box_pk"]
      uniques := [⟨"uq_charge_box_charge_box_id", ["charge_box_id"]⟩] },
    .createTable
    { name := "ocpp_tag"
      columns := [requiredInteger "ocpp_tag_pk", requiredText "id_tag", optionalText "note"]
      primaryKey := ["ocpp_tag_pk"]
      uniques := [⟨"uq_ocpp_tag_id_tag", ["id_tag"]⟩] },
    .createTable
    { name := "connector"
      columns := [requiredInteger "connector_pk", requiredText "charge_box_id",
        requiredInteger "connector_id"]
      primaryKey := ["connector_pk"]
      references := [⟨"fk_connector_charge_box_id_charge_box", ["charge_box_id"], "charge_box",
        ["charge_box_id"], .cascade⟩]
      uniques := [⟨"uq_connector_charge_box_connector", ["charge_box_id", "connector_id"]⟩] },
    .createTable
    { name := "transaction"
      columns := [requiredInteger "transaction_pk", requiredInteger "connector_pk",
        requiredText "id_tag", requiredTimestamp "start_timestamp", requiredText "start_value",
        optionalTimestamp "stop_timestamp", optionalText "stop_value"]
      primaryKey := ["transaction_pk"]
      references := [⟨"fk_transaction_connector_pk_connector", ["connector_pk"], "connector",
          ["connector_pk"], .cascade⟩,
        ⟨"fk_transaction_id_tag_ocpp_tag", ["id_tag"], "ocpp_tag", ["id_tag"], .cascade⟩]
      checks := [⟨checkName "transaction" "ck_transaction_stop_fields_paired", stopPaired⟩] },
    .createIndex "transaction" ⟨"ix_transaction_connector_pk", ["connector_pk"], false⟩,
    .createIndex "transaction" ⟨"ix_transaction_id_tag", ["id_tag"], false⟩,
    .createTable
    { name := "connector_meter_value"
      columns := [requiredInteger "id", requiredInteger "connector_pk",
        optionalInteger "transaction_pk", requiredTimestamp "value_timestamp",
        optionalText "value", optionalText "reading_context", optionalText "format",
        optionalText "measurand", optionalText "location", optionalText "unit"]
      primaryKey := ["id"]
      references := [⟨"fk_connector_meter_value_connector_pk_connector", ["connector_pk"],
          "connector", ["connector_pk"], .cascade⟩,
        ⟨"fk_connector_meter_value_transaction_pk_transaction", ["transaction_pk"],
          "transaction", ["transaction_pk"], .setNull⟩] },
    .createIndex "connector_meter_value"
      ⟨"ix_connector_meter_value_connector_pk_value_timestamp",
        ["connector_pk", "value_timestamp"], false⟩,
    .createIndex "connector_meter_value"
      ⟨"ix_connector_meter_value_transaction_pk", ["transaction_pk"], false⟩]

/-- The steps that take the tables away. -/
def downgradeSteps : List SchemaChange :=
  [.dropIndex "connector_meter_value" "ix_connector_meter_value_transaction_pk",
    .dropIndex "connector_meter_value" "ix_connector_meter_value_connector_pk_value_timestamp",
    .dropTable "connector_meter_value",
    .dropIndex "transaction" "ix_transaction_id_tag",
    .dropIndex "transaction" "ix_transaction_connector_pk",
    .dropTable "transaction",
    .dropTable "connector",
    .dropTable "ocpp_tag",
    .dropTable "charge_box"]

/-- The table that records the revision of a database. -/
def revisionTable : TableSchema :=
  { name := "alembic_version"
    columns := [⟨"version_num", .text 32, false⟩]
    primaryKey := ["version_num"] }

/-! ## Databases -/

/-- The schema of a database and the revision that it is at. -/
structure Database where
  schema : Schema
  revision : Option String

/-- A revision that does not exist. -/
structure UnknownRevision where
  name : String
deriving DecidableEq, Repr

/-- The message of the error. -/
def UnknownRevision.message (e : UnknownRevision) : String :=
  "Can't locate revision identified by '" ++ e.name ++ "'"

/-- Where a migration leads. -/
inductive MigrationTarget where
  | base
  | head
deriving DecidableEq, Repr

namespace MigrationTarget

/-- The target that a name stands for. -/
def ofName (name : String) : Except UnknownRevision MigrationTarget :=
  if name = "base" then .ok .base
  else if name = "head" ∨ name = "heads" then .ok .head
  else if !name.isEmpty && name.toList.isPrefixOf initialRevision.toList then .ok .head
  else .error ⟨name⟩

end MigrationTarget

namespace Database

/-- A database without tables. -/
def empty : Database := ⟨⟨[]⟩, none⟩

/-- The database with the table that records the revision. -/
def withRevisionTable (d : Database) : Database :=
  if (d.schema.table? revisionTable.name).isSome then d
  else { d with schema := ⟨d.schema.tables ++ [revisionTable]⟩ }

/-- Moves a database to a target. At the target, nothing changes. -/
def moveTo (d : Database) (target : MigrationTarget) : Database :=
  let d := d.withRevisionTable
  match target, d.revision with
  | .head, none => ⟨d.schema.applyAll upgradeSteps, some initialRevision⟩
  | .base, some _ => ⟨d.schema.applyAll downgradeSteps, none⟩
  | _, _ => d

/-- Moves a database to the target of a name. -/
def migrate (d : Database) (name : String) : Except UnknownRevision Database :=
  (MigrationTarget.ofName name).map d.moveTo

/-- Moves a database to the targets of a list of names, one after the other. -/
def migrateAll (d : Database) (names : List String) : Except UnknownRevision Database :=
  names.foldlM migrate d

end Database

/-- The schema of a database at the head. -/
def Schema.migrated : Schema := (Database.empty.moveTo .head).schema

end ChargingReport
