import ChargingReport.Csv.Reader
import ChargingReport.Proofs.Calendar.Iso
import ChargingReport.Proofs.Csv.Roundtrip
import ChargingReport.Proofs.Report.Agreement

/-!
# Exports lose nothing

The text of an export is read in two steps.  `Csv.read` gives its records back
(`Csv.read_exportText`), and `ExportedColumns.ofFields?` makes the columns of a row from the fields of
a record.  A null stop value and an empty one have the same field.  They are told apart by the stop
time, which is null just when the stop value is (`ExportedColumns.ofFields_fields`).

`ReportContext.export_lossless` puts both steps together, and says that texts of different rows are
different.
-/

namespace ChargingReport

/-! ## Fields of a row -/

/-- The stop value is null just when the stop time is. -/
def ExportedColumns.StopPaired (c : ExportedColumns) : Prop := c.stop = none ↔ c.stopValue = none

/-- The instant that a text stands for. -/
def Instant.ofText? (s : String) : Option Instant := (Stamp.ofText? s).bind Stamp.instant?

/-- The columns of a row from its fields.  A session without a stop time has no stop value. -/
def ExportedColumns.ofFields? : List String → Option ExportedColumns
  | [pk, chargeBoxId, number, idTag, start, startValue, stop, stopValue] => do
    let pk ← intOfText? pk
    let number ← intOfText? number
    let start ← Instant.ofText? start
    if stop = "" then return ⟨pk, chargeBoxId, number, idTag, start, startValue, none, none⟩
    let stop ← Instant.ofText? stop
    return ⟨pk, chargeBoxId, number, idTag, start, startValue, some stop, some stopValue⟩
  | _ => none

/-- The rows of an exported text. -/
def readExport (text : String) : Option (List ExportedColumns) :=
  match Csv.read text with
  | .ok (header :: records) =>
    if header = exportColumns then records.mapM ExportedColumns.ofFields? else none
  | _ => none

theorem Instant.ofText_text (i : Instant) : Instant.ofText? i.text = some i := by
  rw [Instant.ofText?, Stamp.ofText_text]
  exact ReportContext.instant_stamp i

theorem Instant.text_ne_empty (i : Instant) : i.text ≠ "" := by
  intro h
  rw [Instant.text, String.ofList_eq_empty_iff, List.append_eq_nil_iff] at h
  exact absurd h.2 (List.cons_ne_nil _ _)

namespace ExportedColumns

theorem length_fields (c : ExportedColumns) : c.fields.length = 8 := rfl

/-- A row is made again from its fields. -/
theorem ofFields_fields {c : ExportedColumns} (h : c.StopPaired) : ofFields? c.fields = some c := by
  obtain ⟨pk, chargeBoxId, number, idTag, start, startValue, stop, stopValue⟩ := c
  -- the field of the stop value is empty for a null too, so the stop time decides
  cases stop with
  | none =>
    have hvalue : stopValue = none := h.1 rfl
    subst hvalue
    simp [fields, ofFields?, intOfText_intText, Instant.ofText_text]
  | some stop =>
    cases stopValue with
    | none => exact absurd (h.2 rfl) (Option.some_ne_none _)
    | some value =>
      simp [fields, ofFields?, intOfText_intText, Instant.ofText_text, Instant.text_ne_empty]

end ExportedColumns

/-! ## Texts of rows -/

/-- The text of an export is read as its header and the fields of its rows. -/
theorem Csv.read_exportText (rows : List ExportedRow) :
    Csv.read (exportText rows) =
      .ok (exportColumns :: (rows.map ExportedRow.columns).map ExportedColumns.fields) := by
  rw [exportText_eq_encode]
  refine Csv.read_encode fun fields hfields => ?_
  rcases List.mem_cons.1 hfields with rfl | hrow
  · decide
  · obtain ⟨c, -, rfl⟩ := List.mem_map.1 hrow
    rw [c.length_fields]
    decide

/-- The rows of an export are read back from its text, if stop values go with stop times. -/
theorem readExport_exportText {rows : List ExportedRow}
    (h : ∀ r ∈ rows, r.columns.StopPaired) :
    readExport (exportText rows) = some (rows.map ExportedRow.columns) := by
  have hrows : ∀ columns : List ExportedColumns, (∀ c ∈ columns, c.StopPaired) →
      (columns.map ExportedColumns.fields).mapM ExportedColumns.ofFields? = some columns := by
    intro columns hpaired
    induction columns with
    | nil => rfl
    | cons c columns ih =>
      obtain ⟨hc, hcolumns⟩ := List.forall_mem_cons.1 hpaired
      rw [List.map_cons, List.mapM_cons, ExportedColumns.ofFields_fields hc, ih hcolumns]
      rfl
  rw [readExport, Csv.read_exportText]
  simp only [if_pos]
  refine hrows _ fun c hc => ?_
  obtain ⟨r, hr, rfl⟩ := List.mem_map.1 hc
  exact h r hr

namespace ReportContext

variable {ctx : ReportContext} {s : Store} {form : QueryForm}

/-- An export that is completed has the text and the number of the rows that its form selects. -/
theorem csvExport_completed (hstore : ctx.store = some s) (hbatch : 0 < ctx.batchSize) {j : Journal}
    {n : Nat} (h : (ctx.csvExport form j).answer = .ok n) :
    ∃ conditions, ctx.conditions form = .ok conditions ∧
      (ctx.csvExport form j).text = exportText (s.exported conditions) ∧
      (s.exported conditions).length = n := by
  obtain ⟨plan, rows, hplan, hrows⟩ := csvExport_inv h
  obtain ⟨s', hread, rfl⟩ := hrows.read
  cases hstore.symm.trans (read_eq_ok.1 hread).1
  obtain ⟨htext, hanswer, -⟩ := csvExport_ok hbatch hplan hrows j
  rw [hanswer] at h
  exact ⟨plan.conditions, exportPlan_conditions hplan, htext, Except.ok.inj h⟩

/-- In a store that keeps its constraints, exported rows have a stop value just when they have a stop
time. -/
theorem exported_stopPaired (hs : s.Satisfies Schema.declared) (conditions : List Condition) :
    ∀ r ∈ s.exported conditions, r.columns.StopPaired := by
  intro r hr
  have hin : r.In s := Store.mem_connected.1 (mem_selected.1 hr).1
  exact hs.stop_paired hin.1

/-- The text of an export is read as its header and the fields of the selected rows, eight for each,
and these are read as the rows.  So exports with the same text have the same rows. -/
theorem export_lossless (hstore : ctx.store = some s) (hs : s.Satisfies Schema.declared)
    (hbatch : 0 < ctx.batchSize) {j : Journal} {n : Nat}
    (h : (ctx.csvExport form j).answer = .ok n) :
    ∃ rows : List ExportedRow,
      (∃ conditions, ctx.conditions form = .ok conditions ∧ rows = s.exported conditions) ∧
      rows.length = n ∧
      Csv.read (ctx.csvExport form j).text =
        .ok (exportColumns :: (rows.map ExportedRow.columns).map ExportedColumns.fields) ∧
      (∀ r ∈ rows, r.columns.fields.length = 8) ∧
      readExport (ctx.csvExport form j).text = some (rows.map ExportedRow.columns) ∧
      ∀ (ctx' : ReportContext) (s' : Store) (form' : QueryForm) (j' : Journal) (n' : Nat)
        (conditions' : List Condition), ctx'.store = some s' → s'.Satisfies Schema.declared →
        0 < ctx'.batchSize → (ctx'.csvExport form' j').answer = .ok n' →
        ctx'.conditions form' = .ok conditions' →
        (ctx'.csvExport form' j').text = (ctx.csvExport form j).text →
          (s'.exported conditions').map ExportedRow.columns = rows.map ExportedRow.columns := by
  obtain ⟨conditions, hconditions, htext, hcount⟩ := csvExport_completed hstore hbatch h
  have hread := readExport_exportText (exported_stopPaired hs conditions)
  refine ⟨s.exported conditions, ⟨conditions, hconditions, rfl⟩, hcount, ?_,
    fun r _ => r.columns.length_fields, ?_, ?_⟩
  · rw [htext]
    exact Csv.read_exportText _
  · rw [htext]
    exact hread
  · intro ctx' s' form' j' n' conditions' hstore' hs' hbatch' h' hconditions' hsame
    obtain ⟨found, hfound, htext', -⟩ := csvExport_completed hstore' hbatch' h'
    cases hconditions'.symm.trans hfound
    -- both texts are read by the same reader
    have hread' := readExport_exportText (exported_stopPaired hs' conditions')
    rw [← htext', hsame, htext, hread] at hread'
    exact (Option.some.inj hread').symm

/-- The one row of the small store is read back. -/
theorem export_lossless_tokyo :
    readExport ((tokyo newYear2026).csvExport {} {}).text =
      some [(smallRow.exported).columns] := by
  obtain ⟨rows, ⟨conditions, hconditions, hrows⟩, -, -, -, hread, -⟩ :=
    export_lossless rfl Store.small_satisfies (by decide) csvExport_tokyo
  have hnone : (tokyo newYear2026).conditions {} = .ok [] := rfl
  cases hnone.symm.trans hconditions
  rw [hread, hrows, small_exported]
  rfl

end ReportContext

end ChargingReport
