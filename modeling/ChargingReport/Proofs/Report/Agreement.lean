import ChargingReport.Proofs.Report.Export
import ChargingReport.Proofs.Report.Listing

/-!
# A listing beside an export

Both are made of the rows that meet the same conditions.  A listing joins the station and the tag as
well, and so it leaves out the rows whose station or tag is missing.
`ReportContext.listing_agrees_export` says that this is the only difference, for a clock in an
ordinary year.  An export can fail where a listing does not, if it asks for larger batches than every
library can fetch.
-/

namespace ChargingReport

/-- The columns of a session that an export shows. -/
structure ExportedColumns where
  pk : Int
  chargeBoxId : String
  connectorNumber : Int
  idTag : String
  start : Instant
  startValue : String
  stop : Option Instant
  stopValue : Option String

/-- The columns of an exported row. -/
def ExportedRow.columns (r : ExportedRow) : ExportedColumns :=
  ⟨r.transaction.pk, r.connector.chargeBoxId, r.connector.number, r.transaction.idTag,
    r.transaction.start, r.transaction.startValue, r.transaction.stop, r.transaction.stopValue⟩

/-- The columns of a record that an export shows. -/
def TransactionRecord.columns (r : TransactionRecord) : ExportedColumns :=
  ⟨r.pk, r.chargeBoxId, r.connectorNumber, r.idTag, r.start, r.startValue, r.stop, r.stopValue⟩

/-- The fields of a line of an export. -/
def ExportedColumns.fields (c : ExportedColumns) : List String :=
  [intText c.pk, c.chargeBoxId, intText c.connectorNumber, c.idTag, c.start.text, c.startValue,
    (c.stop.map Instant.text).getD "", c.stopValue.getD ""]

/-- The text of an export is the header, and a line with the fields of every row. -/
theorem exportText_eq_encode (rows : List ExportedRow) :
    exportText rows =
      Csv.encode (exportColumns :: (rows.map ExportedRow.columns).map ExportedColumns.fields) := by
  rw [exportText, Csv.encode, List.flatMap_cons, List.map_map, List.flatMap_map]
  rfl

/-- The station of every connector and the tag of every session are in the store. -/
def Store.StationsAndTagsResolve (s : Store) : Prop :=
  (∀ c ∈ s.connectors, ∃ b ∈ s.chargeBoxes, b.chargeBoxId = c.chargeBoxId) ∧
    ∀ t ∈ s.transactions, ∃ g ∈ s.tags, g.idTag = t.idTag

instance (s : Store) : Decidable s.StationsAndTagsResolve := by
  unfold Store.StationsAndTagsResolve
  infer_instance

theorem ExportedRow.In.complete {s : Store} {r : ExportedRow} (h : r.In s)
    (hresolve : s.StationsAndTagsResolve) : r.Complete s :=
  ⟨hresolve.1 r.connector h.2.1, hresolve.2 r.transaction h.1⟩

namespace ReportContext

variable {ctx : ReportContext} {s : Store} {form : QueryForm} {now : Instant}
  {conditions : List Condition}

theorem exportPlan_ok (hform : form.Checked) (hconditions : ctx.conditions form = .ok conditions) :
    ∃ attributes, ctx.exportPlan form = .ok ⟨conditions, attributes⟩ := by
  obtain ⟨type, period, htype, hperiod⟩ := hform.choices
  rw [exportPlan, hconditions, hperiod]
  exact ⟨_, rfl⟩

/-- In an ordinary year every look-back stays within the calendar. -/
theorem lookBackFits_of_ordinary (h : now.InOrdinaryYear) : form.LookBackFits now.day := by
  intro period days hperiod hdays
  have hfirst := h.day_bounds.1
  cases period <;> simp only [QueryPeriod.intervalDays, Option.some.injEq, reduceCtorEq] at hdays
  all_goals omega

/-- Records show the columns of their rows. -/
theorem map_columns_records {rows : List ListedRow} {records : List TransactionRecord}
    (h : List.Forall₂ (TransactionRecord.Of ctx) rows records) :
    records.map TransactionRecord.columns =
      (rows.map ListedRow.exported).map ExportedRow.columns := by
  induction h with
  | nil => rfl
  | @cons row r rows records hrow _ ih =>
    have hcolumns : r.columns = row.exported.columns := by
      simp only [TransactionRecord.columns, ExportedRow.columns, ListedRow.exported, hrow.pk,
        hrow.chargeBoxId, hrow.connectorNumber, hrow.idTag, hrow.start, hrow.startValue, hrow.stop,
        hrow.stopValue]
    rw [List.map_cons, List.map_cons, List.map_cons, hcolumns, ih]

/-- A row is exported when it is in the store and the form selects it. -/
theorem mem_exported_iff
    (hholds : ∀ t c, conditions.all (Condition.holds t c) = true ↔ form.Selects ctx.days now.day t c)
    {r : ExportedRow} :
    r ∈ s.exported conditions ↔
      r.In s ∧ form.Selects ctx.days now.day r.transaction r.connector := by
  rw [Store.exported, mem_selected, Store.mem_connected, ExportedRow.meets, hholds]
  rfl

/-- The records of a listing show, in order, the rows of the export whose station and tag are in the
store.  Where all stations and tags are there, both show the same.  The export comes about for every
size of a batch that the rows can be fetched in, and so up to the limit. -/
theorem listing_agrees_export (hstore : ctx.store = some s) (hs : s.Satisfies Schema.declared)
    (hform : form.Checked) (hkey : form.KeyFits) (hnow : ctx.clock.instant = .ok now)
    (hyear : now.InOrdinaryYear) (htimes : ctx.StoredTimesConvertible s)
    (hbatch : 0 < ctx.batchSize) (j j' : Journal) :
    ∃ records, ∃ rows : List ExportedRow, (ctx.transactions form j).answer = .ok records ∧
      (∀ r, r ∈ rows ↔ r.In s ∧ form.Selects ctx.days now.day r.transaction r.connector) ∧
      records.map TransactionRecord.columns =
        (rows.filter fun r => decide (r.Complete s)).map ExportedRow.columns ∧
      (s.StationsAndTagsResolve →
        records.map TransactionRecord.columns = rows.map ExportedRow.columns ∧
          rows.length = records.length) ∧
      ((ctx.csvExport form j').text = Csv.encode
            (exportColumns :: (rows.map ExportedRow.columns).map ExportedColumns.fields) ∧
          (ctx.csvExport form j').answer = .ok rows.length ∨
        batchLimit < ctx.batchSize ∧ ∃ f, (ctx.csvExport form j').answer = .error f) := by
  obtain ⟨conditions, hconditions, hfits, hholds⟩ :=
    conditions_ok hform hkey hnow (lookBackFits_of_ordinary hyear)
  obtain ⟨records, hanswer, hall⟩ := transactions_answer hstore hform hconditions hfits hnow
    (zoneReads_of_ordinary hyear) htimes j
  obtain ⟨attributes, hplan⟩ := exportPlan_ok hform hconditions
  have hexport := csvExport_cases hbatch hplan (read_eq_ok.2 ⟨hstore, hfits⟩) j'
  have hrows : ∀ r, r ∈ s.exported conditions ↔
      r.In s ∧ form.Selects ctx.days now.day r.transaction r.connector :=
    fun _ => mem_exported_iff hholds
  have hagree : records.map TransactionRecord.columns =
      ((s.exported conditions).filter fun r => decide (r.Complete s)).map ExportedRow.columns := by
    rw [map_columns_records hall, Store.map_exported_listed hs]
  rw [exportText_eq_encode] at hexport
  refine ⟨records, s.exported conditions, hanswer, hrows, hagree, fun hresolve => ?_, hexport⟩
  have hcomplete : (s.exported conditions).filter (fun r => decide (r.Complete s)) =
      s.exported conditions := by
    refine List.filter_eq_self.2 fun r hr => ?_
    exact decide_eq_true (((hrows r).1 hr).1.complete hresolve)
  rw [hcomplete] at hagree
  have hlength := congrArg List.length hagree
  rw [List.length_map, List.length_map] at hlength
  exact ⟨hagree, hlength.symm⟩

/-- At the beginning of 2026 the small store is listed and exported with the same rows. -/
theorem listing_agrees_export_tokyo :
    ∃ records, ∃ rows : List ExportedRow,
      ((tokyo newYear2026).transactions {} {}).answer = .ok records ∧
      ((tokyo newYear2026).csvExport {} {}).answer = .ok records.length ∧
      records.map TransactionRecord.columns = rows.map ExportedRow.columns := by
  obtain ⟨records, rows, hanswer, -, -, hresolved, hexport⟩ := listing_agrees_export rfl
    Store.small_satisfies ⟨.object [], rfl⟩ keyFits_default (tokyo_instant newYear2026 1)
    (by decide) (tokyo_storedTimes newYear2026 1) (by decide) {} {}
  obtain ⟨hcolumns, hlength⟩ := hresolved (by decide)
  rcases hexport with ⟨-, hcount⟩ | ⟨hlimit, -⟩
  · exact ⟨records, rows, hanswer, hlength ▸ hcount, hcolumns⟩
  · exact absurd hlimit (by decide)

/-- More rows per batch than can be counted. -/
def uncountedBatch : Nat := 10000000000000000000

/-- Nothing is fetched in batches that cannot be counted. -/
theorem exportBatches_uncounted {conditions : List Condition}
    (hfetcher : ctx.fetcher = .buffered) (hbatch : ctx.batchSize = uncountedBatch)
    (hread : ctx.read conditions = .ok s) :
    ctx.exportBatches conditions = ⟨[], some .batchUnbounded⟩ := by
  have hbound : batchBound < uncountedBatch := by decide
  rw [exportBatches_of_read hread, hfetcher, hbatch]
  simp only [Fetcher.buffered, if_pos hbound]

/-- A batch of rows that cannot be counted leaves an export that has only its header, although the
listing has a record. -/
theorem export_batchUnbounded : ∃ (ctx : ReportContext) (s : Store) (form : QueryForm)
    (now : Instant), ctx.store = some s ∧ s.Satisfies Schema.declared ∧ s.StationsAndTagsResolve ∧
      form.Checked ∧ form.KeyFits ∧ ctx.clock.instant = .ok now ∧ now.InOrdinaryYear ∧
      ctx.StoredTimesConvertible s ∧ 0 < ctx.batchSize ∧
      (∃ record, (ctx.transactions form {}).answer = .ok [record]) ∧
      (ctx.csvExport form {}).text = Csv.encode [exportColumns] ∧
      (ctx.csvExport form {}).answer = .error .batchUnbounded := by
  have hplan : ∃ attributes, (tokyo newYear2026 uncountedBatch).exportPlan {} =
      .ok ⟨[], attributes⟩ := ⟨_, rfl⟩
  obtain ⟨attributes, hplan⟩ := hplan
  have hread : (tokyo newYear2026 uncountedBatch).read [] = .ok Store.small := rfl
  exact ⟨tokyo newYear2026 uncountedBatch, Store.small, {}, newYear2026, rfl,
    Store.small_satisfies, by decide, ⟨.object [], rfl⟩, keyFits_default, tokyo_instant _ _,
    by decide, tokyo_storedTimes _ _, by decide, transactions_tokyo _,
    csvExport_error hplan (exportBatches_uncounted rfl rfl hread) {}⟩

end ReportContext

end ChargingReport
