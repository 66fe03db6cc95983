import ChargingReport.Store.Write

/-!
# What belongs to a station

A station with its connectors, their sessions, and the meter values that name each session. All of
them are in the order of their keys.
-/

namespace ChargingReport

/-- A session with the keys of the meter values that name it. -/
structure SessionRelations where
  transaction : Transaction
  meterValueKeys : List Int

/-- A connector with its station and its sessions. -/
structure ConnectorRelations where
  connector : Connector
  chargeBoxPk : Int
  sessions : List SessionRelations

namespace Store

/-- The station with an identifier. -/
def chargeBox? (s : Store) (chargeBoxId : String) : Option ChargeBox :=
  s.chargeBoxes.find? fun b => b.chargeBoxId == chargeBoxId

/-- The session with the meter values that name it. -/
def sessionRelations (s : Store) (t : Transaction) : SessionRelations :=
  ⟨t, ((s.meterValues.filter fun m => m.transactionPk == some t.pk).map MeterValue.pk).mergeSort
    fun a b => a ≤ b⟩

/-- The connector of a station with its sessions. -/
def connectorRelations (s : Store) (box : ChargeBox) (c : Connector) : ConnectorRelations :=
  let sessions := (s.transactions.filter fun t => t.connectorPk == c.pk).mergeSort
    fun a b => a.pk ≤ b.pk
  ⟨c, box.pk, sessions.map s.sessionRelations⟩

/-- The connectors of a station, if there is such a station. -/
def relations? (s : Store) (chargeBoxId : String) : Option (List ConnectorRelations) :=
  (s.chargeBox? chargeBoxId).map fun box =>
    let connectors := (s.connectors.filter fun c => c.chargeBoxId == box.chargeBoxId).mergeSort
      fun a b => a.pk ≤ b.pk
    connectors.map (s.connectorRelations box)

end Store

end ChargingReport
