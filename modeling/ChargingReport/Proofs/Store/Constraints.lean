import ChargingReport.Store.Write
import Mathlib.Data.List.Nodup

/-!
# Stores that keep their constraints

`Store.Satisfies` says that the rows of a store keep what a schema declares of them: columns that
must be set are set, checks hold, and no two rows of a table agree in the columns of a key or of a
unique rule.  References between tables are not part of it.

For the declared schema this gives the keys of every table as lists without repetition.  All of them
come from `TableSchema.Keeps.nodup_map`, which reads a key off the columns of a rule.  The check of
the sessions gives `Store.Satisfies.stop_paired`.

`Store.small` is a store with one session, for a look at single cases.
-/

namespace ChargingReport

/-- All tables. -/
def Table.all : List Table := [.chargeBox, .connector, .tag, .transaction, .meterValue]

/-- The columns in which no two rows of the table agree, one list for every rule. -/
def TableSchema.distinctColumns (t : TableSchema) : List (List String) :=
  t.primaryKey :: t.uniques.map UniqueRule.columns

/-- The rows of a table keep its constraints. -/
def TableSchema.Keeps (t : TableSchema) (rows : List (List NamedCell)) : Prop :=
  (∀ row ∈ rows, t.missingColumn? row = none) ∧ (∀ row ∈ rows, t.brokenCheck? row = none) ∧
    ∀ columns ∈ t.distinctColumns, rows.Pairwise fun a b => shareColumns columns a b = false

/-- The rows of every table keep the constraints of a schema. -/
def Store.Satisfies (s : Store) (schema : Schema) : Prop :=
  ∀ table ∈ Table.all, ∃ t ∈ schema.table? table.name, t.Keeps (s.rowCells table)

instance (t : TableSchema) (rows : List (List NamedCell)) : Decidable (t.Keeps rows) := by
  unfold TableSchema.Keeps
  infer_instance

instance (s : Store) (schema : Schema) : Decidable (s.Satisfies schema) := by
  unfold Store.Satisfies
  infer_instance

/-! ## A small store -/

/-- Midnight UTC at the beginning of 2026. -/
def newYear2026 : Instant := ⟨⟨739616 * microsPerDay, by decide⟩⟩

/-- The session of the small store.  It takes an hour. -/
def Transaction.small : Transaction :=
  ⟨7, 3, "TAG", newYear2026, "100", some ⟨⟨739616 * microsPerDay + 3600000000, by decide⟩⟩,
    some "200"⟩

/-- A store with one session, and with the same reading twice: without its session, and half an hour
later with it. -/
def Store.small : Store where
  chargeBoxes := [⟨1, "CB", none⟩]
  connectors := [⟨3, "CB", 1⟩]
  tags := [⟨2, "TAG", none⟩]
  transactions := [.small]
  meterValues :=
    let energy : Sample := ⟨some "150", none, none, none, none, some "Wh"⟩
    [⟨1, 3, some 7, ⟨⟨739616 * microsPerDay + 2400000000, by decide⟩⟩, energy⟩,
      ⟨2, 3, none, ⟨⟨739616 * microsPerDay + 600000000, by decide⟩⟩, energy⟩]

theorem Store.small_satisfies : Store.small.Satisfies Schema.declared := by
  decide

/-! ## Keys without repetition -/

/-- Rows have different keys, if rows with the same key agree in the columns of a rule. -/
theorem TableSchema.Keeps.nodup_map {t : TableSchema} {ρ κ : Type} {rows : List ρ}
    {cells : ρ → List NamedCell} (h : t.Keeps (rows.map cells)) {columns : List String}
    (hrule : columns ∈ t.distinctColumns) {key : ρ → κ}
    (hkey : ∀ a b, key a = key b → shareColumns columns (cells a) (cells b) = true) :
    (rows.map key).Nodup := by
  have hdistinct := List.pairwise_map.1 (h.2.2 columns hrule)
  refine List.pairwise_map.2 (hdistinct.imp fun {a b} hab heq => ?_)
  rw [hkey a b heq] at hab
  exact Bool.noConfusion hab

namespace Store

variable {s : Store}

/-- The rows of a table keep the constraints that are declared for it. -/
theorem Satisfies.keeps (h : s.Satisfies Schema.declared) (table : Table) {t : TableSchema}
    (ht : Schema.declared.table? table.name = some t) : t.Keeps (s.rowCells table) := by
  obtain ⟨t', ht', hkeeps⟩ := h table (by cases table <;> decide)
  rw [ht, Option.mem_some] at ht'
  exact ht' ▸ hkeeps

theorem Satisfies.chargeBoxIds_nodup (h : s.Satisfies Schema.declared) :
    (s.chargeBoxes.map ChargeBox.chargeBoxId).Nodup := by
  have hkeeps : chargeBoxTable.Keeps (s.chargeBoxes.map ChargeBox.cells) :=
    h.keeps .chargeBox (by decide)
  have hrule : ["charge_box_id"] ∈ chargeBoxTable.distinctColumns := by decide
  refine hkeeps.nodup_map hrule fun a b hab => ?_
  simp [shareColumns, cellAt, ChargeBox.cells, List.lookup_cons, hab]

theorem Satisfies.connectorKeys_nodup (h : s.Satisfies Schema.declared) :
    (s.connectors.map Connector.pk).Nodup := by
  have hkeeps : connectorTable.Keeps (s.connectors.map Connector.cells) :=
    h.keeps .connector (by decide)
  have hrule : ["connector_pk"] ∈ connectorTable.distinctColumns := by decide
  refine hkeeps.nodup_map hrule fun a b hab => ?_
  simp [shareColumns, cellAt, Connector.cells, List.lookup_cons, hab]

/-- No two connectors have the same number at the same station. -/
theorem Satisfies.connectorPlaces_nodup (h : s.Satisfies Schema.declared) :
    (s.connectors.map fun c => (c.chargeBoxId, c.number)).Nodup := by
  have hkeeps : connectorTable.Keeps (s.connectors.map Connector.cells) :=
    h.keeps .connector (by decide)
  have hrule : ["charge_box_id", "connector_id"] ∈ connectorTable.distinctColumns := by decide
  refine hkeeps.nodup_map hrule fun a b hab => ?_
  simp only [Prod.mk.injEq] at hab
  simp [shareColumns, cellAt, Connector.cells, List.lookup_cons, hab]

theorem Satisfies.idTags_nodup (h : s.Satisfies Schema.declared) :
    (s.tags.map Tag.idTag).Nodup := by
  have hkeeps : tagTable.Keeps (s.tags.map Tag.cells) := h.keeps .tag (by decide)
  have hrule : ["id_tag"] ∈ tagTable.distinctColumns := by decide
  refine hkeeps.nodup_map hrule fun a b hab => ?_
  simp [shareColumns, cellAt, Tag.cells, List.lookup_cons, hab]

theorem Satisfies.transactionKeys_nodup (h : s.Satisfies Schema.declared) :
    (s.transactions.map Transaction.pk).Nodup := by
  have hkeeps : transactionTable.Keeps (s.transactions.map Transaction.cells) :=
    h.keeps .transaction (by decide)
  have hrule : ["transaction_pk"] ∈ transactionTable.distinctColumns := by decide
  refine hkeeps.nodup_map hrule fun a b hab => ?_
  simp [shareColumns, cellAt, Transaction.cells, List.lookup_cons, hab]

/-- No two rows of a table have the same key. -/
theorem Satisfies.keys_nodup (h : s.Satisfies Schema.declared) (table : Table) :
    (s.keys table).Nodup := by
  cases table with
  | chargeBox =>
    have hkeeps : chargeBoxTable.Keeps (s.chargeBoxes.map ChargeBox.cells) :=
      h.keeps .chargeBox (by decide)
    have hrule : ["charge_box_pk"] ∈ chargeBoxTable.distinctColumns := by decide
    refine hkeeps.nodup_map hrule fun a b hab => ?_
    simp [shareColumns, cellAt, ChargeBox.cells, List.lookup_cons, hab]
  | connector => exact h.connectorKeys_nodup
  | tag =>
    have hkeeps : tagTable.Keeps (s.tags.map Tag.cells) := h.keeps .tag (by decide)
    have hrule : ["ocpp_tag_pk"] ∈ tagTable.distinctColumns := by decide
    refine hkeeps.nodup_map hrule fun a b hab => ?_
    simp [shareColumns, cellAt, Tag.cells, List.lookup_cons, hab]
  | transaction => exact h.transactionKeys_nodup
  | meterValue =>
    have hkeeps : meterValueTable.Keeps (s.meterValues.map MeterValue.cells) :=
      h.keeps .meterValue (by decide)
    have hrule : ["id"] ∈ meterValueTable.distinctColumns := by decide
    refine hkeeps.nodup_map hrule fun a b hab => ?_
    simp [shareColumns, cellAt, MeterValue.cells, List.lookup_cons, hab]

/-! ## Columns that are set -/

/-- The content of a column that must be set is not null. -/
theorem Satisfies.cellAt_ne_null (h : s.Satisfies Schema.declared) (table : Table)
    {t : TableSchema} (ht : Schema.declared.table? table.name = some t) {row : List NamedCell}
    (hrow : row ∈ s.rowCells table) {column : Column} (hcolumn : column ∈ t.columns)
    (hrequired : column.nullable = false) : cellAt row column.name ≠ .null := by
  intro hnull
  have hset := (h.keeps table ht).1 row hrow
  rw [TableSchema.missingColumn?, List.find?_eq_none] at hset
  apply hset column hcolumn
  rw [hrequired, hnull]
  rfl

/-- A session has a stop value just when it has a stop time. -/
theorem Satisfies.stop_paired (h : s.Satisfies Schema.declared) {t : Transaction}
    (ht : t ∈ s.transactions) : t.stop = none ↔ t.stopValue = none := by
  have hkeeps : transactionTable.Keeps (s.transactions.map Transaction.cells) :=
    h.keeps .transaction (by decide)
  have hchecks := hkeeps.2.1 t.cells (List.mem_map_of_mem ht)
  rw [TableSchema.brokenCheck?, List.find?_eq_none] at hchecks
  have hpaired := hchecks _ (List.mem_singleton_self _)
  have hstop : cellAt t.cells "stop_timestamp" = Cell.ofInstant? t.stop := by
    simp [cellAt, Transaction.cells, List.lookup_cons]
  have hvalue : cellAt t.cells "stop_value" = Cell.ofText? t.stopValue := by
    simp [cellAt, Transaction.cells, List.lookup_cons]
  simp only [stopPaired, RowRule.holds, hstop, hvalue] at hpaired
  cases htime : t.stop <;> cases htext : t.stopValue <;>
    simp [htime, htext, Cell.ofInstant?, Cell.ofText?] at hpaired ⊢

end Store

end ChargingReport
