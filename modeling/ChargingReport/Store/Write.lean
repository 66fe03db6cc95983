import ChargingReport.Store.Schema

/-!
# The store and its writes

A `Store` holds the rows of the five tables, in the order in which they were added.

`Store.insert` adds a draft under the constraints of a schema. The first rule that is broken
decides:

1. every integer fits into 64 bits;
2. every column that must be set is set, in the order of the columns;
3. the checks of the table hold;
4. no other row has the key;
5. no other row has the same content in the columns of a unique rule.

References between tables are not enforced. `Store.insertAll` adds a list of drafts or nothing.
`Store.stop` sets the two stop columns of a session.
-/

namespace ChargingReport

/-- The rows of the charging database. -/
structure Store where
  chargeBoxes : List ChargeBox := []
  connectors : List Connector := []
  tags : List Tag := []
  transactions : List Transaction := []
  meterValues : List MeterValue := []
deriving DecidableEq

/-- Why a row cannot be written. -/
inductive WriteError where
  /-- An integer does not fit into 64 bits. -/
  | integerRange
  /-- The schema has no such table. -/
  | noTable (table : String)
  /-- A column that must be set is null. -/
  | notNull (table column : String)
  /-- The condition of this name does not hold. -/
  | check (name : String)
  /-- Another row has the same content in these columns. -/
  | unique (table : String) (columns : List String)
deriving DecidableEq, Repr

namespace WriteError

/-- The name of a column with its table. -/
def qualified (table column : String) : String := table ++ "." ++ column

/-- The message of the error. -/
def message : WriteError → String
  | .integerRange => "Python int too large to convert to SQLite INTEGER"
  | .noTable table => "no such table: " ++ table
  | .notNull table column => "NOT NULL constraint failed: " ++ qualified table column
  | .check name => "CHECK constraint failed: " ++ name
  | .unique table columns =>
    "UNIQUE constraint failed: " ++ String.intercalate ", " (columns.map (qualified table))

/-- The kind of the error. -/
def kind : WriteError → String
  | .integerRange => "OverflowError"
  | .noTable _ => "OperationalError"
  | _ => "IntegrityError"

end WriteError

namespace Store

/-- A database without rows. -/
def empty : Store := {}

/-- The keys of a table. -/
def keys (s : Store) : Table → List Int
  | .chargeBox => s.chargeBoxes.map ChargeBox.pk
  | .connector => s.connectors.map Connector.pk
  | .tag => s.tags.map Tag.pk
  | .transaction => s.transactions.map Transaction.pk
  | .meterValue => s.meterValues.map MeterValue.pk

/-- The cells of the rows of a table. -/
def rowCells (s : Store) : Table → List (List NamedCell)
  | .chargeBox => s.chargeBoxes.map ChargeBox.cells
  | .connector => s.connectors.map Connector.cells
  | .tag => s.tags.map Tag.cells
  | .transaction => s.transactions.map Transaction.cells
  | .meterValue => s.meterValues.map MeterValue.cells

/-- The largest key that a row can have. -/
def lastKey : Int := 9223372036854775807

/-- The first of 1, 2, 3 and so on that is not taken. -/
def freeKey (taken : List Int) : Int :=
  let candidates := (List.range (taken.length + 1)).map fun (n : Nat) => (n : Int) + 1
  (candidates.find? fun key => !taken.contains key).getD 0

/-- The key after the largest one, and 1 in an empty table. Where no key comes after the largest one,
it is one that no row has. -/
def nextKey (s : Store) (table : Table) : Int :=
  match (s.keys table).max? with
  | some n => if n < lastKey then n + 1 else freeKey (s.keys table)
  | none => 1

end Store

/-! ## Constraints -/

/-- Whether a condition holds for a row. -/
def RowRule.holds (cells : List NamedCell) : RowRule → Bool
  | .paired first second => (cellAt cells first == .null) == (cellAt cells second == .null)

/-- Whether two rows have the same content in some columns. A null equals nothing. -/
def shareColumns (columns : List String) (a b : List NamedCell) : Bool :=
  columns.all fun c => cellAt a c != .null && cellAt a c == cellAt b c

namespace TableSchema

/-- The first column that must be set and is not. -/
def missingColumn? (t : TableSchema) (cells : List NamedCell) : Option Column :=
  t.columns.find? fun c => !c.nullable && cellAt cells c.name == .null

/-- The first condition that does not hold. -/
def brokenCheck? (t : TableSchema) (cells : List NamedCell) : Option CheckRule :=
  t.checks.find? fun c => !c.rule.holds cells

/-- The first unique rule, the key in front, under which the row repeats another one. -/
def repeated? (t : TableSchema) (others : List (List NamedCell)) (cells : List NamedCell) :
    Option (List String) :=
  (t.primaryKey :: t.uniques.map UniqueRule.columns).find? fun columns =>
    others.any (shareColumns columns cells)

/-- Whether a row may stand in the table beside others. -/
def accept (t : TableSchema) (others : List (List NamedCell)) (cells : List NamedCell) :
    Except WriteError Unit :=
  match t.missingColumn? cells with
  | some column => .error (.notNull t.name column.name)
  | none =>
    match t.brokenCheck? cells with
    | some check => .error (.check check.name)
    | none =>
      match t.repeated? others cells with
      | some columns => .error (.unique t.name columns)
      | none => .ok ()

end TableSchema

/-! ## From drafts to rows -/

/-- The content of a column that every row has. -/
def required {α : Type} (table : Table) (column : String) (v : Option α) : Except WriteError α :=
  match v with
  | some a => .ok a
  | none => .error (.notNull table.name column)

namespace ChargeBoxDraft

/-- The row under a key. -/
def row (d : ChargeBoxDraft) (key : Int) : Except WriteError ChargeBox := do
  return ⟨key, ← required .chargeBox "charge_box_id" d.chargeBoxId, d.description⟩

end ChargeBoxDraft

namespace ConnectorDraft

/-- The row under a key. -/
def row (d : ConnectorDraft) (key : Int) : Except WriteError Connector := do
  return ⟨key, ← required .connector "charge_box_id" d.chargeBoxId,
    ← required .connector "connector_id" d.number⟩

end ConnectorDraft

namespace TagDraft

/-- The row under a key. -/
def row (d : TagDraft) (key : Int) : Except WriteError Tag := do
  return ⟨key, ← required .tag "id_tag" d.idTag, d.note⟩

end TagDraft

namespace TransactionDraft

/-- The row under a key. -/
def row (d : TransactionDraft) (key : Int) : Except WriteError Transaction := do
  return {
    pk := key
    connectorPk := ← required .transaction "connector_pk" d.connectorPk
    idTag := ← required .transaction "id_tag" d.idTag
    start := (← required .transaction "start_timestamp" d.start).stored
    startValue := ← required .transaction "start_value" d.startValue
    stop := d.stop.map Stamp.stored
    stopValue := d.stopValue }

end TransactionDraft

namespace MeterValueDraft

/-- The row under a key. -/
def row (d : MeterValueDraft) (key : Int) : Except WriteError MeterValue := do
  return {
    pk := key
    connectorPk := ← required .meterValue "connector_pk" d.connectorPk
    transactionPk := d.transactionPk
    time := (← required .meterValue "value_timestamp" d.time).stored
    sample := d.sample }

end MeterValueDraft

/-! ## Writing -/

namespace Store

/-- Adds the row of a draft under a key, without looking at constraints between rows. -/
def append (s : Store) (draft : Draft) (key : Int) : Except WriteError Store :=
  match draft with
  | .chargeBox d => do return { s with chargeBoxes := s.chargeBoxes ++ [← d.row key] }
  | .connector d => do return { s with connectors := s.connectors ++ [← d.row key] }
  | .tag d => do return { s with tags := s.tags ++ [← d.row key] }
  | .transaction d => do return { s with transactions := s.transactions ++ [← d.row key] }
  | .meterValue d => do return { s with meterValues := s.meterValues ++ [← d.row key] }

/-- Adds a draft. The answer is the key of the new row and the store with it. -/
def insert (schema : Schema) (s : Store) (draft : Draft) : Except WriteError (Int × Store) := do
  let key := draft.key?.getD (s.nextKey draft.table)
  let cells := draft.cells key
  if cells.all (fun c => c.2.fits) then
    match schema.table? draft.table.name with
    | none => .error (.noTable draft.table.name)
    | some table =>
      table.accept (s.rowCells draft.table) cells
      return (key, ← s.append draft key)
  else .error .integerRange

/-- Adds drafts in order. The answer is the keys of the new rows and the store with all of them;
an error adds none. -/
def insertAll (schema : Schema) (s : Store) : List Draft → Except WriteError (List Int × Store)
  | [] => .ok ([], s)
  | draft :: rest => do
    let (key, s) ← s.insert schema draft
    let (keys, s) ← s.insertAll schema rest
    return (key :: keys, s)

/-- The session with a key. -/
def transaction? (s : Store) (pk : Int) : Option Transaction :=
  s.transactions.find? fun t => t.pk == pk

/-- Sets the stop time and the stop value of a session, each of which may be null. The answer is
the session and the store with it, or nothing if there is no session with the key. -/
def stop (schema : Schema) (s : Store) (pk : Int) (time : Option Stamp)
    (value : Option String) : Except WriteError (Option (Transaction × Store)) :=
  if !fitsInt64 pk then .error .integerRange
  else match s.transaction? pk with
    | none => .ok none
    | some t =>
      let stopped := { t with stop := time.map Stamp.stored, stopValue := value }
      match schema.table? Table.transaction.name with
      | none => .error (.noTable Table.transaction.name)
      | some table =>
        match table.brokenCheck? stopped.cells with
        | some check => .error (.check check.name)
        | none =>
          .ok (some (stopped, { s with
            transactions := s.transactions.map fun r => if r.pk = pk then stopped else r }))

end Store

end ChargingReport
