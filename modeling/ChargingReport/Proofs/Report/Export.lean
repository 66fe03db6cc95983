import ChargingReport.Report.Export
import ChargingReport.Proofs.Query.Join
import ChargingReport.Proofs.Report.Record

/-!
# Exports as texts

* A buffer whose cursor is behind its text grows by what is written into it.
* `batches_getElem?` and `length_batches` say what the batches of some rows are, and
  `flatten_batches` puts them together again.
* `exportHeader` and `exportLines` are the text of an export.  One batch adds its lines to a writer
  (`RowWriter.writeBatch_has`), so all batches add the lines of all rows.
* `ReportContext.csvExport_ok` is what an export leaves whose rows are fetched
  (`ReportContext.Fetches`), and `ReportContext.csvExport_cases` says that they are, if a batch is not
  too large.
-/

namespace ChargingReport

/-! ## Buffers -/

namespace TextBuffer

/-- The buffer holds a text, and its cursor stands behind it. -/
def Holds (b : TextBuffer) (content : List Char) : Prop :=
  b.content = content ∧ b.cursor = content.length

theorem empty_holds : empty.Holds [] := ⟨rfl, rfl⟩

/-- What is written behind a text is appended to it. -/
theorem write_holds {b : TextBuffer} {content : List Char} (h : b.Holds content)
    (written : List Char) : (b.write written).Holds (content ++ written) := by
  obtain ⟨hcontent, hcursor⟩ := h
  refine ⟨?_, ?_⟩
  · show b.content.take b.cursor ++ written ++ b.content.drop (b.cursor + written.length) = _
    rw [hcontent, hcursor, List.take_length, List.drop_eq_nil_of_le (Nat.le_add_right _ _),
      List.append_nil]
  · show b.cursor + written.length = _
    rw [hcursor, List.length_append]

end TextBuffer

/-! ## Batches -/

section Batches

variable {α : Type} {size : Nat}

theorem flatten_batches (h : 0 < size) (xs : List α) : (batches size xs).flatten = xs := by
  induction size, xs using batches.induct with
  | case1 xs => exact absurd h (Nat.lt_irrefl 0)
  | case2 size => rw [batches_nil, List.flatten_nil]
  | case3 size x rest ih =>
    rw [batches_cons, List.flatten_cons, ih h, List.cons_append, List.take_append_drop]

/-- The batch with index `k` begins behind `k` full batches. -/
theorem batches_getElem? (h : 0 < size) (xs : List α) {k : Nat} (hk : k * size < xs.length) :
    (batches size xs)[k]? = some ((xs.drop (k * size)).take size) := by
  induction size, xs using batches.induct generalizing k with
  | case1 xs => exact absurd h (Nat.lt_irrefl 0)
  | case2 size => exact absurd hk (Nat.not_lt_zero _)
  | case3 size x rest ih =>
    rw [batches_cons]
    cases k with
    | zero =>
      rw [List.getElem?_cons_zero, Nat.zero_mul, List.drop_zero, List.take_succ_cons]
    | succ k =>
      have hstart : (k + 1) * (size + 1) = size + k * (size + 1) + 1 := by
        rw [Nat.succ_mul]
        omega
      have hk : k * (size + 1) < (rest.drop size).length := by
        rw [hstart, List.length_cons] at hk
        rw [List.length_drop]
        omega
      rw [List.getElem?_cons_succ, ih h hk, List.drop_drop, hstart, List.drop_succ_cons]

/-- A batch for every `size` rows, and one for what is left over. -/
theorem length_batches (h : 0 < size) (xs : List α) :
    (batches size xs).length = (xs.length + size - 1) / size := by
  induction size, xs using batches.induct with
  | case1 xs => exact absurd h (Nat.lt_irrefl 0)
  | case2 size =>
    rw [batches_nil, List.length_nil, List.length_nil, Nat.div_eq_of_lt (by omega)]
  | case3 size x rest ih =>
    rw [batches_cons, List.length_cons, List.length_cons, ih h, List.length_drop]
    have hall : rest.length + 1 + (size + 1) - 1 = rest.length + (size + 1) := by omega
    rw [hall, Nat.add_div_right _ h]
    by_cases hle : size ≤ rest.length
    · have hleft : rest.length - size + (size + 1) - 1 = rest.length := by omega
      rw [hleft]
    · have hleft : rest.length - size + (size + 1) - 1 = size := by omega
      rw [hleft, Nat.div_eq_of_lt (by omega), Nat.div_eq_of_lt (by omega)]

/-- No batch is empty or larger than `size`. -/
theorem mem_batches_length {xs batch : List α} (hbatch : batch ∈ batches size xs) :
    1 ≤ batch.length ∧ batch.length ≤ size := by
  induction size, xs using batches.induct with
  | case1 xs =>
    rw [batches_zero] at hbatch
    cases hbatch
  | case2 size hsize =>
    rw [batches_nil] at hbatch
    cases hbatch
  | case3 size x rest ih =>
    rw [batches_cons] at hbatch
    rcases List.mem_cons.1 hbatch with rfl | hrest
    · rw [List.length_cons, List.length_take]
      omega
    · exact ih hrest

end Batches

/-! ## The text of an export -/

/-- The first line of an export. -/
def exportHeader : List Char := Csv.encodeRecord exportColumns

/-- The lines of some rows. -/
def exportLines (rows : List ExportedRow) : List Char :=
  rows.flatMap fun r => Csv.encodeRecord r.fields

/-- The text of an export of some rows. -/
def exportText (rows : List ExportedRow) : String := String.ofList (exportHeader ++ exportLines rows)

/-- Rows are written one after the other. -/
theorem foldl_writeRecord_holds {b : TextBuffer} {content : List Char} (h : b.Holds content)
    (rows : List ExportedRow) :
    (rows.foldl (fun b r => Csv.writeRecord b r.fields) b).Holds (content ++ exportLines rows) := by
  induction rows generalizing b content with
  | nil =>
    rw [exportLines, List.flatMap_nil, List.append_nil]
    exact h
  | cons r rows ih =>
    have hnext := ih (TextBuffer.write_holds h (Csv.encodeRecord r.fields))
    rw [List.append_assoc] at hnext
    exact hnext

namespace RowWriter

/-- The writer has written a text and counted some rows, and goes on behind the text. -/
structure Has (w : RowWriter) (content : List Char) (written : Nat) : Prop where
  buffer : w.buffer.Holds content
  written : w.written = written

theorem start_has : (start .empty).Has exportHeader 0 :=
  ⟨TextBuffer.write_holds TextBuffer.empty_holds exportHeader, rfl⟩

/-- One batch adds its lines and its number of rows. -/
theorem writeBatch_has {w : RowWriter} {content : List Char} {written : Nat}
    (h : w.Has content written) (batch : List ExportedRow) :
    (w.writeBatch batch).Has (content ++ exportLines batch) (written + batch.length) := by
  refine ⟨foldl_writeRecord_holds h.buffer batch, ?_⟩
  rw [← h.written]
  rfl

/-- All batches add the lines of all their rows. -/
theorem foldl_writeBatch_has {w : RowWriter} {content : List Char} {written : Nat}
    (h : w.Has content written) (groups : List (List ExportedRow)) :
    (groups.foldl writeBatch w).Has (content ++ exportLines groups.flatten)
      (written + groups.flatten.length) := by
  induction groups generalizing w content written with
  | nil =>
    rw [List.flatten_nil, exportLines, List.flatMap_nil, List.append_nil]
    exact h
  | cons batch groups ih =>
    have hnext := ih (writeBatch_has h batch)
    rw [List.append_assoc, Nat.add_assoc] at hnext
    rw [List.flatten_cons, exportLines, List.flatMap_append, List.length_append]
    exact hnext

end RowWriter

/-! ## Exports -/

namespace ReportContext

variable {ctx : ReportContext} {form : QueryForm} {plan : QueryPlan} {rows : List ExportedRow}

/-- The plan of an export has the conditions of its form. -/
theorem exportPlan_conditions (h : ctx.exportPlan form = .ok plan) :
    ctx.conditions form = .ok plan.conditions := by
  obtain ⟨conditions, hconditions, h⟩ := bind_eq_ok.1 h
  obtain ⟨period, -, h⟩ := bind_eq_ok.1 h
  cases h
  exact hconditions

theorem exportBatches_of_read {conditions : List Condition} {s : Store}
    (hread : ctx.read conditions = .ok s) :
    ctx.exportBatches conditions = ctx.fetcher.fetch ctx.batchSize (s.exported conditions) := by
  rw [exportBatches, hread]

/-- All rows that meet the conditions are fetched. -/
structure Fetches (ctx : ReportContext) (conditions : List Condition) (rows : List ExportedRow) :
    Prop where
  read : ∃ s, ctx.read conditions = .ok s ∧ rows = s.exported conditions
  batches : ctx.exportBatches conditions = ⟨batches ctx.batchSize rows, none⟩

/-- Rows are fetched if a batch is not too large. -/
theorem fetches_of_le {conditions : List Condition} {s : Store}
    (hread : ctx.read conditions = .ok s) (hlimit : ctx.batchSize ≤ batchLimit) :
    ctx.Fetches conditions (s.exported conditions) :=
  ⟨⟨s, hread, rfl⟩, by rw [exportBatches_of_read hread, ctx.fetcher.fetch_of_le hlimit]⟩

/-- Where nothing fails, rows were fetched. -/
theorem fetches_of_failure {conditions : List Condition}
    (h : (ctx.exportBatches conditions).failure = none) :
    ∃ rows, ctx.Fetches conditions rows := by
  cases hread : ctx.read conditions with
  | error f =>
    rw [exportBatches, hread] at h
    cases h
  | ok s =>
    rw [exportBatches_of_read hread] at h
    have hbatches := ctx.fetcher.fetch_complete h
    refine ⟨s.exported conditions, ⟨s, hread, rfl⟩, ?_⟩
    rw [exportBatches_of_read hread, ← hbatches, ← h]

/-- An export whose rows are fetched leaves their text and their number. -/
theorem csvExport_ok (hbatch : 0 < ctx.batchSize) (hplan : ctx.exportPlan form = .ok plan)
    (hrows : ctx.Fetches plan.conditions rows) (j : Journal) :
    (ctx.csvExport form j).text = exportText rows ∧
      (ctx.csvExport form j).answer = .ok rows.length ∧
      (ctx.csvExport form j).journal =
        endExport plan.attributes "exported transactions csv" (.ok rows.length) j := by
  have hdone := RowWriter.foldl_writeBatch_has RowWriter.start_has (batches ctx.batchSize rows)
  rw [flatten_batches hbatch, Nat.zero_add] at hdone
  unfold csvExport writeCsv
  rw [hplan]
  simp only [hrows.batches, hdone.written, exportResult]
  refine ⟨?_, True.intro, True.intro⟩
  rw [Export.text, TextBuffer.text, hdone.buffer.1, exportText]

/-- An export of which nothing is fetched leaves only the header. -/
theorem csvExport_error {f : Failure} (hplan : ctx.exportPlan form = .ok plan)
    (hrows : ctx.exportBatches plan.conditions = ⟨[], some f⟩) (j : Journal) :
    (ctx.csvExport form j).text = Csv.encode [exportColumns] ∧
      (ctx.csvExport form j).answer = .error f := by
  unfold csvExport writeCsv
  rw [hplan]
  simp only [hrows, List.foldl_nil, exportResult, and_true]
  rw [Export.text, TextBuffer.text, RowWriter.start_has.buffer.1, Csv.encode, List.flatMap_cons,
    List.flatMap_nil, List.append_nil, exportHeader]

/-- The answer of an export is that of what ended it. -/
theorem csvExport_answer (hplan : ctx.exportPlan form = .ok plan) (j : Journal) :
    ∃ written, (ctx.csvExport form j).answer =
      exportResult (ctx.exportBatches plan.conditions).failure written := by
  unfold csvExport writeCsv
  rw [hplan]
  exact ⟨_, rfl⟩

/-- An export that does not fail had a plan and rows. -/
theorem csvExport_inv {j : Journal} {n : Nat} (h : (ctx.csvExport form j).answer = .ok n) :
    ∃ plan rows, ctx.exportPlan form = .ok plan ∧ ctx.Fetches plan.conditions rows := by
  cases hplan : ctx.exportPlan form with
  | error f =>
    unfold csvExport writeCsv at h
    rw [hplan] at h
    cases h
  | ok plan =>
    obtain ⟨written, hanswer⟩ := csvExport_answer hplan j
    rw [hanswer] at h
    cases hfailure : (ctx.exportBatches plan.conditions).failure with
    | some f =>
      rw [hfailure] at h
      cases h
    | none =>
      obtain ⟨rows, hrows⟩ := fetches_of_failure hfailure
      exact ⟨plan, rows, rfl, hrows⟩

/-- The rows of an export are fetched and written, unless there are more of them to a batch than every
library can fetch. -/
theorem csvExport_cases {s : Store} (hbatch : 0 < ctx.batchSize)
    (hplan : ctx.exportPlan form = .ok plan) (hread : ctx.read plan.conditions = .ok s)
    (j : Journal) :
    ((ctx.csvExport form j).text = exportText (s.exported plan.conditions) ∧
        (ctx.csvExport form j).answer = .ok (s.exported plan.conditions).length) ∨
      (batchLimit < ctx.batchSize ∧ ∃ f, (ctx.csvExport form j).answer = .error f) := by
  cases hfailure : (ctx.exportBatches plan.conditions).failure with
  | none =>
    obtain ⟨rows, hrows⟩ := fetches_of_failure hfailure
    obtain ⟨s', hread', rfl⟩ := hrows.read
    cases hread.symm.trans hread'
    obtain ⟨htext, hanswer, -⟩ := csvExport_ok hbatch hplan hrows j
    exact .inl ⟨htext, hanswer⟩
  | some f =>
    obtain ⟨written, hanswer⟩ := csvExport_answer hplan j
    rw [hfailure] at hanswer
    refine .inr ⟨Nat.lt_of_not_le fun hlimit => ?_, f, hanswer⟩
    rw [(fetches_of_le hread hlimit).batches] at hfailure
    cases hfailure

/-! ## An export in Tokyo -/

theorem small_exported : Store.small.exported [] = [⟨.small, ⟨3, "CB", 1⟩⟩] := by
  have hrows : Store.small.connected.filter (fun r => r.meets []) =
      [⟨.small, ⟨3, "CB", 1⟩⟩] := by
    decide
  rw [Store.exported, selected]
  exact (congrArg (newestFirst id) hrows).trans (newestFirst_singleton id _)

theorem csvExport_tokyo : ((tokyo newYear2026).csvExport {} {}).answer = .ok 1 := by
  have hplan : ∃ attributes, (tokyo newYear2026).exportPlan {} = .ok ⟨[], attributes⟩ := ⟨_, rfl⟩
  obtain ⟨attributes, hplan⟩ := hplan
  have hread : (tokyo newYear2026).read [] = .ok Store.small := rfl
  have hrows := fetches_of_le hread (by decide)
  rw [small_exported] at hrows
  exact (csvExport_ok (by decide) hplan hrows {}).2.1

end ReportContext

end ChargingReport
