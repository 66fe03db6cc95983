import ChargingReport.Proofs.Report.Export
import ChargingReport.Proofs.Web.Routing

/-!
# Streams beside exports

A stream writes every batch into the same buffer and drains it.  One batch gives one chunk with its
lines and leaves the buffer empty (`ChunkWriter.giveBatch_has`), so the chunks are the header and the
lines of each batch (`ReportContext.stream_ok`).

`ReportContext.stream_eq_export` compares this with the text that is written at once, which does not
depend on the number of rows per batch, and with the body of the answer to a request.
-/

namespace ChargingReport

/-! ## Chunks of a writer -/

namespace ChunkWriter

/-- The writer has given some chunks and counted some rows, and its buffer is empty. -/
structure Has (w : ChunkWriter) (chunks : List (List Char)) (written : Nat) : Prop where
  chunks : w.chunks = chunks.map String.ofList
  buffer : w.writer.buffer.Holds []
  written : w.writer.written = written

/-- What the buffer holds becomes a chunk. -/
theorem give_has {w : ChunkWriter} {chunks : List (List Char)} {content : List Char} {written : Nat}
    (hchunks : w.chunks = chunks.map String.ofList) (hwriter : w.writer.Has content written) :
    w.give.Has (chunks ++ [content]) written := by
  refine ⟨?_, ⟨rfl, rfl⟩, hwriter.written⟩
  show w.chunks ++ [String.ofList w.writer.buffer.content] = _
  rw [hchunks, hwriter.buffer.1, List.map_append]
  rfl

theorem start_has : start.Has [exportHeader] 0 := by
  have hchunks : (⟨RowWriter.start .empty, []⟩ : ChunkWriter).chunks =
      ([] : List (List Char)).map String.ofList := rfl
  exact give_has hchunks RowWriter.start_has

/-- One batch gives one chunk with its lines. -/
theorem giveBatch_has {w : ChunkWriter} {chunks : List (List Char)} {written : Nat}
    (h : w.Has chunks written) (batch : List ExportedRow) :
    (w.giveBatch batch).Has (chunks ++ [exportLines batch]) (written + batch.length) := by
  have hwriter : w.writer.Has [] written := ⟨h.buffer, h.written⟩
  have hnext := RowWriter.writeBatch_has hwriter batch
  rw [List.nil_append] at hnext
  exact give_has h.chunks hnext

/-- All batches give one chunk each. -/
theorem foldl_giveBatch_has {w : ChunkWriter} {chunks : List (List Char)} {written : Nat}
    (h : w.Has chunks written) (groups : List (List ExportedRow)) :
    (groups.foldl giveBatch w).Has (chunks ++ groups.map exportLines)
      (written + groups.flatten.length) := by
  induction groups generalizing w chunks written with
  | nil =>
    rw [List.map_nil, List.append_nil]
    exact h
  | cons batch groups ih =>
    have hnext := ih (giveBatch_has h batch)
    rw [List.append_assoc, Nat.add_assoc] at hnext
    rw [List.flatten_cons, List.length_append]
    exact hnext

end ChunkWriter

/-! ## Chunks of rows -/

/-- The header, and the lines of every batch. -/
def exportChunks (size : Nat) (rows : List ExportedRow) : List (List Char) :=
  exportHeader :: (batches size rows).map exportLines

/-- The chunks are the header, and the lines of the rows in groups of `size`. -/
structure ChunkedBy (size : Nat) (rows : List ExportedRow) (chunks : List String) : Prop where
  header : chunks[0]? = some (String.ofList exportHeader)
  group : ∀ k, k * size < rows.length →
    chunks[k + 1]? = some (String.ofList (exportLines ((rows.drop (k * size)).take size)))
  groupSize : ∀ k, k * size < rows.length →
    1 ≤ ((rows.drop (k * size)).take size).length ∧
      ((rows.drop (k * size)).take size).length ≤ size ∧
      (((rows.drop (k * size)).take size).length < size → rows.length < (k + 1) * size)
  count : chunks.length = 1 + (rows.length + size - 1) / size
  notEmpty : ∀ chunk ∈ chunks, chunk ≠ ""

theorem encodeRecord_ne_nil (fields : List String) : Csv.encodeRecord fields ≠ [] := by
  rw [Csv.encodeRecord]
  exact List.append_ne_nil_of_right_ne_nil _ (by decide)

theorem exportLines_ne_nil {rows : List ExportedRow} (h : 1 ≤ rows.length) :
    exportLines rows ≠ [] := by
  match rows with
  | r :: rest =>
    rw [exportLines, List.flatMap_cons]
    exact List.append_ne_nil_of_left_ne_nil (encodeRecord_ne_nil r.fields) _

theorem exportChunks_chunkedBy {size : Nat} (h : 0 < size) (rows : List ExportedRow) :
    ChunkedBy size rows ((exportChunks size rows).map String.ofList) where
  header := rfl
  group k hk := by
    rw [exportChunks, List.getElem?_map, List.getElem?_cons_succ, List.getElem?_map,
      batches_getElem? h rows hk]
    rfl
  groupSize k hk := by
    have hsucc : (k + 1) * size = k * size + size := Nat.succ_mul k size
    rw [List.length_take, List.length_drop]
    omega
  count := by
    rw [List.length_map, exportChunks, List.length_cons, List.length_map, length_batches h,
      Nat.add_comm]
  notEmpty := by
    intro chunk hchunk
    obtain ⟨cs, hcs, rfl⟩ := List.mem_map.1 hchunk
    refine mt String.ofList_eq_empty_iff.1 ?_
    rcases List.mem_cons.1 hcs with rfl | hlines
    · exact encodeRecord_ne_nil exportColumns
    · obtain ⟨batch, hbatch, rfl⟩ := List.mem_map.1 hlines
      exact exportLines_ne_nil (mem_batches_length hbatch).1

theorem join_map_ofList (texts : List (List Char)) :
    String.join (texts.map String.ofList) = String.ofList texts.flatten := by
  induction texts with
  | nil => rfl
  | cons cs texts ih =>
    rw [List.map_cons, String.join_cons, ih, List.flatten_cons, String.ofList_append]

/-- The header and the lines of some groups of rows are the text of an export of all of them. -/
theorem join_groups (groups : List (List ExportedRow)) :
    String.join (([exportHeader] ++ groups.map exportLines).map String.ofList) =
      exportText groups.flatten := by
  have hlines : (groups.map exportLines).flatten = exportLines groups.flatten := by
    induction groups with
    | nil => rfl
    | cons group groups ih =>
      rw [List.map_cons, List.flatten_cons, ih, List.flatten_cons, exportLines, exportLines,
        exportLines, List.flatMap_append]
  rw [join_map_ofList, List.flatten_append, hlines]
  rfl

/-- The batches of some rows make the text of these rows. -/
theorem join_exportChunks {size : Nat} (h : 0 < size) (rows : List ExportedRow) :
    String.join ((exportChunks size rows).map String.ofList) = exportText rows := by
  have hjoin := join_groups (batches size rows)
  rw [flatten_batches h] at hjoin
  exact hjoin

/-! ## Streams -/

namespace ReportContext

variable {ctx : ReportContext} {form : QueryForm} {plan : QueryPlan} {rows : List ExportedRow}

/-- A stream whose rows are fetched gives the chunks of the rows. -/
theorem stream_ok (hbatch : 0 < ctx.batchSize) (hplan : ctx.exportPlan form = .ok plan)
    (hrows : ctx.Fetches plan.conditions rows) (j : Journal) :
    (ctx.stream form j).chunks = (exportChunks ctx.batchSize rows).map String.ofList ∧
      (ctx.stream form j).failure = none ∧
      (ctx.stream form j).journal = endStream plan (.ok rows.length) j := by
  have hdone := ChunkWriter.foldl_giveBatch_has ChunkWriter.start_has (batches ctx.batchSize rows)
  rw [flatten_batches hbatch, Nat.zero_add] at hdone
  have hchunks : ctx.chunks plan.conditions =
      ((exportChunks ctx.batchSize rows).map String.ofList, .ok rows.length) := by
    rw [chunks, hrows.batches]
    simp only [hdone.chunks, hdone.written]
    rfl
  unfold stream
  rw [hplan]
  simp only [hchunks, failureOf, and_self]

/-- A completed export counts its rows. -/
theorem exportedRows_endExport (attributes : List (String × Json)) (message : String) (n : Nat)
    (j : Journal) :
    (endExport attributes message (.ok n) j).metrics.exportedRows = j.metrics.exportedRows + n :=
  rfl

end ReportContext

/-! ## Requests -/

/-- The path of an export. -/
def exportPath : List Char := "/api/transactions/export".toList

namespace Service

/-- A request for an export leads to it, unless a page of the documentation was put in its place. -/
theorem routing_export {settings : Settings}
    (h : ∀ route ∈ documentRoutes settings, route.fits exportPath = false) :
    Routing.ofRequest (routeTable settings) "GET" exportPath =
      .answered (getRoute "/api/transactions/export" .export) [] :=
  Routing.ofRequest_report h (by decide) (by decide)

/-- A request for an export is answered by it. -/
theorem answer_of_export {v : Service} {r : Request} (hmethod : r.method = "GET")
    (hpath : r.target.path = exportPath)
    (h : ∀ route ∈ documentRoutes v.settings, route.fits exportPath = false) (j : Journal) :
    (v.answer r j).answer = (v.exportAnswer r j).answer := by
  have hroute := routing_export h
  rw [← hpath] at hroute
  exact answer_of_route hmethod hroute j

theorem answer_export {v : Service} {r : Request} {form : QueryForm} (hmethod : r.method = "GET")
    (hpath : r.target.path = exportPath) (hform : r.queryForm = .ok form)
    (h : ∀ route ∈ documentRoutes v.settings, route.fits exportPath = false) (j : Journal) :
    (v.answer r j).answer.body = .text (String.join (v.context.stream form j).chunks) := by
  rw [answer_of_export hmethod hpath h, exportAnswer, hform]

end Service

/-! ## A stream beside an export -/

namespace ReportContext

variable {ctx : ReportContext} {form : QueryForm}

/-- An export that does not fail has a text that does not depend on the number of rows per batch.  A
stream then gives the same text, as the header and the lines of the rows in batches, and so does the
answer to a request.  Both count the rows. -/
theorem stream_eq_export {n : Nat} {j : Journal} (hbatch : 0 < ctx.batchSize)
    (hrun : (ctx.csvExport form j).answer = .ok n) (j' : Journal) :
    ∃ s conditions, ∃ rows : List ExportedRow, ctx.store = some s ∧
      ctx.conditions form = .ok conditions ∧ rows = s.exported conditions ∧ rows.length = n ∧
      (ctx.stream form j').failure = none ∧
      String.join (ctx.stream form j').chunks = (ctx.csvExport form j).text ∧
      ChunkedBy ctx.batchSize rows (ctx.stream form j').chunks ∧
      (ctx.csvExport form j).journal.metrics.exportedRows = j.metrics.exportedRows + n ∧
      (ctx.stream form j').journal.metrics.exportedRows = j'.metrics.exportedRows + n ∧
      (∀ size, 0 < size → size ≤ batchLimit →
        ({ ctx with batchSize := size }.csvExport form j).text = (ctx.csvExport form j).text ∧
          String.join ({ ctx with batchSize := size }.stream form j').chunks =
            (ctx.csvExport form j).text) ∧
      ∀ (v : Service) (r : Request), v.context = ctx → r.method = "GET" →
        r.target.path = exportPath → r.queryForm = .ok form →
        (∀ route ∈ documentRoutes v.settings, route.fits exportPath = false) →
        (v.answer r j').answer.body = .text (ctx.csvExport form j).text := by
  obtain ⟨plan, rows, hplan, hrows⟩ := csvExport_inv hrun
  obtain ⟨htext, hanswer, hjournal⟩ := csvExport_ok hbatch hplan hrows j
  obtain ⟨hchunks, hfailure, hjournal'⟩ := stream_ok hbatch hplan hrows j'
  obtain ⟨s, hread, hexported⟩ := hrows.read
  have hn : rows.length = n := by
    rw [hanswer, Except.ok.injEq] at hrun
    exact hrun
  have hjoin : String.join (ctx.stream form j').chunks = (ctx.csvExport form j).text := by
    rw [hchunks, join_exportChunks hbatch, htext]
  refine ⟨s, plan.conditions, rows, (read_eq_ok.1 hread).1, exportPlan_conditions hplan, hexported,
    hn, hfailure, hjoin, ?_, ?_, ?_, fun size hsize hlimit => ?_, ?_⟩
  · rw [hchunks]
    exact exportChunks_chunkedBy hbatch rows
  · rw [hjournal, hn, exportedRows_endExport]
  · rw [hjournal', hn, endStream, exportedRows_endExport]
  · have hread' : { ctx with batchSize := size }.read plan.conditions = .ok s := hread
    have hrows' := fetches_of_le hread' hlimit
    rw [← hexported] at hrows'
    have hplan' : { ctx with batchSize := size }.exportPlan form = .ok plan := hplan
    obtain ⟨htext', -, -⟩ := csvExport_ok hsize hplan' hrows' j
    obtain ⟨hchunks', -, -⟩ := stream_ok hsize hplan' hrows' j'
    rw [htext', hchunks', join_exportChunks hsize, htext]
    exact ⟨rfl, rfl⟩
  · rintro v r rfl hmethod hpath hform hroutes
    rw [Service.answer_export hmethod hpath hform hroutes, hjoin]

theorem stream_eq_export_tokyo :
    String.join ((tokyo newYear2026).stream {} {}).chunks =
        ((tokyo newYear2026).csvExport {} {}).text ∧
      ((tokyo newYear2026).stream {} {}).chunks.length = 2 := by
  obtain ⟨s, conditions, rows, -, -, -, hn, -, hjoin, hchunked, -⟩ :=
    stream_eq_export (by decide) csvExport_tokyo {}
  refine ⟨hjoin, ?_⟩
  rw [hchunked.count, hn]
  rfl

end ReportContext

end ChargingReport
