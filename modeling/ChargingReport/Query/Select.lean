import ChargingReport.Query.Condition

/-!
# Rows that match

The three selections that reports are made of, each of them with the greatest key of a session
first.

* `Store.exported` joins sessions with their connectors.
* `Store.listed` also joins the station and the tag, so a session whose station or tag is missing is
  not in it.
* `Store.openKeys` are the keys of the sessions that are still open at a station.

Each of them joins tables by `joinOn`. The first two keep and order rows by `selected`.
-/

namespace ChargingReport

/-- A session with the connector that it ran on. -/
structure ExportedRow where
  transaction : Transaction
  connector : Connector
deriving DecidableEq

/-- A session with its connector, the station of the connector, and the tag. -/
structure ListedRow where
  transaction : Transaction
  connector : Connector
  chargeBox : ChargeBox
  tag : Tag
deriving DecidableEq

/-- The columns of a listed row that are exported. -/
def ListedRow.exported (r : ListedRow) : ExportedRow := ⟨r.transaction, r.connector⟩

/-! ## Joins, conditions and order -/

/-- Every row with every row of a table that goes with it. -/
def joinOn {α β γ : Type} (rows : List α) (table : List β) (fits : α → β → Bool)
    (pair : α → β → γ) : List γ :=
  rows.flatMap fun a => (table.filter (fits a)).map (pair a)

/-- The rows in the order of the keys of their sessions, the greatest first. -/
def newestFirst {α : Type} (session : α → ExportedRow) (rows : List α) : List α :=
  rows.mergeSort fun a b => (session b).transaction.pk ≤ (session a).transaction.pk

/-- Whether all conditions hold for a session and its connector. -/
def ExportedRow.meets (conditions : List Condition) (r : ExportedRow) : Bool :=
  conditions.all (Condition.holds r.transaction r.connector)

/-- The rows that meet all conditions, the greatest key of a session first. -/
def selected {α : Type} (session : α → ExportedRow) (conditions : List Condition)
    (rows : List α) : List α :=
  newestFirst session (rows.filter fun r => (session r).meets conditions)

namespace Store

/-- Sessions with their connectors. -/
def connected (s : Store) : List ExportedRow :=
  joinOn s.transactions s.connectors (fun t c => t.connectorPk == c.pk) ExportedRow.mk

/-- Sessions with their connectors and the stations of these. -/
def located (s : Store) : List (ExportedRow × ChargeBox) :=
  joinOn s.connected s.chargeBoxes (fun r b => b.chargeBoxId == r.connector.chargeBoxId) Prod.mk

/-- Sessions with connector, station and tag. -/
def completed (s : Store) : List ListedRow :=
  joinOn s.located s.tags (fun r g => g.idTag == r.1.transaction.idTag) fun r g =>
    ⟨r.1.transaction, r.1.connector, r.2, g⟩

/-- Sessions with their connectors that meet all conditions. -/
def exported (s : Store) (conditions : List Condition) : List ExportedRow :=
  selected id conditions s.connected

/-- Sessions with connector, station and tag that meet all conditions. -/
def listed (s : Store) (conditions : List Condition) : List ListedRow :=
  selected ListedRow.exported conditions s.completed

/-- Sessions with their connectors, where these belong to a station. -/
def connectedAt (s : Store) (chargeBoxId : String) : List ExportedRow :=
  joinOn s.transactions s.connectors
    (fun t c => t.connectorPk == c.pk && c.chargeBoxId == chargeBoxId) ExportedRow.mk

/-- The keys of the sessions that are still open at a station. -/
def openKeys (s : Store) (chargeBoxId : String) : List Int :=
  (newestFirst id ((s.connectedAt chargeBoxId).filter fun r => r.transaction.stop.isNone)).map
    fun r => r.transaction.pk

end Store

end ChargingReport
