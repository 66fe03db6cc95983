import ChargingReport.Calendar.Clock

/-!
# Rows

The five kinds of rows of the charging database, and the drafts that become rows.

* A row has its key and every column that must be set. Columns that may be null are options.
* A draft may lack any column, its key included. Its timestamps are written stamps, of which a
  column keeps the reading and forgets the offset.
* `Row.cells` and `Draft.cells` show both in the same way, as named cells, and the constraints of a
  schema are rules about these.
-/

namespace ChargingReport

/-! ## Rows -/

/-- A charging station. -/
structure ChargeBox where
  pk : Int
  chargeBoxId : String
  description : Option String
deriving DecidableEq

/-- A numbered outlet of a charging station. -/
structure Connector where
  pk : Int
  chargeBoxId : String
  number : Int
deriving DecidableEq

/-- A tag that authorises a session. -/
structure Tag where
  pk : Int
  idTag : String
  note : Option String
deriving DecidableEq

/-- A charging session on a connector. It is active while it has no stop time. -/
structure Transaction where
  pk : Int
  connectorPk : Int
  idTag : String
  start : Instant
  startValue : String
  stop : Option Instant
  stopValue : Option String
deriving DecidableEq

/-- What a meter reported, without the time. Two samples are the same reading when all six parts
agree. -/
structure Sample where
  value : Option String
  readingContext : Option String
  format : Option String
  measurand : Option String
  location : Option String
  unit : Option String
deriving DecidableEq

/-- A sample with the time and the connector it was taken at. It names its transaction only if the
station tagged it. -/
structure MeterValue where
  pk : Int
  connectorPk : Int
  transactionPk : Option Int
  time : Instant
  sample : Sample
deriving DecidableEq

/-- Whether the session is still open. -/
def Transaction.isActive (t : Transaction) : Bool := t.stop.isNone

/-! ## Drafts -/

/-- A charging station to be added. -/
structure ChargeBoxDraft where
  pk : Option Int := none
  chargeBoxId : Option String := none
  description : Option String := none

/-- A connector to be added. -/
structure ConnectorDraft where
  pk : Option Int := none
  chargeBoxId : Option String := none
  number : Option Int := none

/-- A tag to be added. -/
structure TagDraft where
  pk : Option Int := none
  idTag : Option String := none
  note : Option String := none

/-- A session to be added. -/
structure TransactionDraft where
  pk : Option Int := none
  connectorPk : Option Int := none
  idTag : Option String := none
  start : Option Stamp := none
  startValue : Option String := none
  stop : Option Stamp := none
  stopValue : Option String := none

/-- A meter value to be added. -/
structure MeterValueDraft where
  pk : Option Int := none
  connectorPk : Option Int := none
  transactionPk : Option Int := none
  time : Option Stamp := none
  sample : Sample := ⟨none, none, none, none, none, none⟩

/-- A row to be added. -/
inductive Draft where
  | chargeBox (draft : ChargeBoxDraft)
  | connector (draft : ConnectorDraft)
  | tag (draft : TagDraft)
  | transaction (draft : TransactionDraft)
  | meterValue (draft : MeterValueDraft)

/-! ## Tables and cells -/

/-- The tables of the charging database. -/
inductive Table where
  | chargeBox
  | connector
  | tag
  | transaction
  | meterValue
deriving DecidableEq, Repr

/-- The name of a table. -/
def Table.name : Table → String
  | .chargeBox => "charge_box"
  | .connector => "connector"
  | .tag => "ocpp_tag"
  | .transaction => "transaction"
  | .meterValue => "connector_meter_value"

/-- The content of a column of one row. -/
inductive Cell where
  | null
  | integer (n : Int)
  | text (s : String)
  | instant (i : Instant)
deriving DecidableEq

namespace Cell

/-- An integer or null. -/
def ofInt? : Option Int → Cell
  | some n => .integer n
  | none => .null

/-- A text or null. -/
def ofText? : Option String → Cell
  | some s => .text s
  | none => .null

/-- An instant or null. -/
def ofInstant? : Option Instant → Cell
  | some i => .instant i
  | none => .null

/-- An integer that does not fit into 64 bits cannot be stored. -/
def fits : Cell → Bool
  | .integer n => fitsInt64 n
  | _ => true

end Cell

/-- A cell under the name of its column. -/
abbrev NamedCell := String × Cell

/-- The cell of a column. A column that is not there is null. -/
def cellAt (cells : List NamedCell) (column : String) : Cell :=
  (cells.lookup column).getD .null

/-- The cells of a sample. -/
def Sample.cells (s : Sample) : List NamedCell :=
  [("value", .ofText? s.value), ("reading_context", .ofText? s.readingContext),
    ("format", .ofText? s.format), ("measurand", .ofText? s.measurand),
    ("location", .ofText? s.location), ("unit", .ofText? s.unit)]

namespace Draft

/-- The table that the draft is for. -/
def table : Draft → Table
  | .chargeBox _ => .chargeBox
  | .connector _ => .connector
  | .tag _ => .tag
  | .transaction _ => .transaction
  | .meterValue _ => .meterValue

/-- The key that the draft asks for. -/
def key? : Draft → Option Int
  | .chargeBox d => d.pk
  | .connector d => d.pk
  | .tag d => d.pk
  | .transaction d => d.pk
  | .meterValue d => d.pk

/-- The cells of the row that the draft becomes under a key. -/
def cells (draft : Draft) (key : Int) : List NamedCell :=
  match draft with
  | .chargeBox d =>
    [("charge_box_pk", .integer key), ("charge_box_id", .ofText? d.chargeBoxId),
      ("description", .ofText? d.description)]
  | .connector d =>
    [("connector_pk", .integer key), ("charge_box_id", .ofText? d.chargeBoxId),
      ("connector_id", .ofInt? d.number)]
  | .tag d =>
    [("ocpp_tag_pk", .integer key), ("id_tag", .ofText? d.idTag), ("note", .ofText? d.note)]
  | .transaction d =>
    [("transaction_pk", .integer key), ("connector_pk", .ofInt? d.connectorPk),
      ("id_tag", .ofText? d.idTag), ("start_timestamp", .ofInstant? (d.start.map Stamp.stored)),
      ("start_value", .ofText? d.startValue),
      ("stop_timestamp", .ofInstant? (d.stop.map Stamp.stored)),
      ("stop_value", .ofText? d.stopValue)]
  | .meterValue d =>
    [("id", .integer key), ("connector_pk", .ofInt? d.connectorPk),
      ("transaction_pk", .ofInt? d.transactionPk),
      ("value_timestamp", .ofInstant? (d.time.map Stamp.stored))] ++ d.sample.cells

end Draft

/-! ## Cells of rows -/

namespace ChargeBox

/-- The named cells of the row. -/
def cells (r : ChargeBox) : List NamedCell :=
  [("charge_box_pk", .integer r.pk), ("charge_box_id", .text r.chargeBoxId),
    ("description", .ofText? r.description)]

end ChargeBox

namespace Connector

/-- The named cells of the row. -/
def cells (r : Connector) : List NamedCell :=
  [("connector_pk", .integer r.pk), ("charge_box_id", .text r.chargeBoxId),
    ("connector_id", .integer r.number)]

end Connector

namespace Tag

/-- The named cells of the row. -/
def cells (r : Tag) : List NamedCell :=
  [("ocpp_tag_pk", .integer r.pk), ("id_tag", .text r.idTag), ("note", .ofText? r.note)]

end Tag

namespace Transaction

/-- The named cells of the row. -/
def cells (r : Transaction) : List NamedCell :=
  [("transaction_pk", .integer r.pk), ("connector_pk", .integer r.connectorPk),
    ("id_tag", .text r.idTag), ("start_timestamp", .instant r.start),
    ("start_value", .text r.startValue), ("stop_timestamp", .ofInstant? r.stop),
    ("stop_value", .ofText? r.stopValue)]

end Transaction

namespace MeterValue

/-- The named cells of the row. -/
def cells (r : MeterValue) : List NamedCell :=
  [("id", .integer r.pk), ("connector_pk", .integer r.connectorPk),
    ("transaction_pk", .ofInt? r.transactionPk), ("value_timestamp", .instant r.time)] ++
    r.sample.cells

end MeterValue

end ChargingReport
