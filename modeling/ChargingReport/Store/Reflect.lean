import ChargingReport.Json
import ChargingReport.Store.Schema

/-!
# A schema as a structured value

What a database tells about its tables. Columns keep their order, and everything else is sorted by
name.
-/

namespace ChargingReport

/-- A list sorted by a name. -/
def sortByName {α : Type} (name : α → String) (xs : List α) : List α :=
  xs.mergeSort fun a b => textLe (name a) (name b)

/-- The name of a column type. -/
def ColumnType.name : ColumnType → String
  | .integer => "INTEGER"
  | .text limit => "VARCHAR(" ++ String.ofList (natText limit) ++ ")"
  | .timestamp => "DATETIME"

/-- The name of a delete rule. -/
def DeleteRule.name : DeleteRule → String
  | .cascade => "CASCADE"
  | .setNull => "SET NULL"

namespace TableSchema

/-- What a database tells about a table. -/
def reflect (t : TableSchema) : Json :=
  .object [
    ("columns", .list (t.columns.map fun c =>
      .list [.text c.name, .text c.type.name, .bool c.nullable])),
    ("primary_key", .texts t.primaryKey),
    ("foreign_keys", .list ((sortByName Reference.name t.references).map fun r =>
      .list [.text r.name, .texts r.columns, .text r.target, .texts r.targetColumns,
        .text r.onDelete.name])),
    ("unique", .list ((sortByName UniqueRule.name t.uniques).map fun u =>
      .list [.text u.name, .texts u.columns])),
    ("checks", .texts ((sortByName CheckRule.name t.checks).map CheckRule.name)),
    ("indexes", .list ((sortByName IndexRule.name t.indexes).map fun i =>
      .list [.text i.name, .texts i.columns, .bool i.unique]))]

end TableSchema

/-- What a database tells about its tables. -/
def Schema.reflect (schema : Schema) : Json :=
  .object ((sortByName TableSchema.name schema.tables).map fun t => (t.name, t.reflect))

end ChargingReport
