import ChargingReport.Calendar.Iso
import ChargingReport.Csv
import ChargingReport.Report.Listing

/-!
# Exports

The sessions that a form selects, as comma-separated text with a header.

* `ReportContext.writeCsv` writes the text into a sink, and `ReportContext.csvExport` into an empty
  one.
* `ReportContext.stream` gives it in chunks: the header, and then one chunk per batch of rows.

Both take the rows in batches, as they are fetched. The first writes them one after the other into
the sink; the second writes a batch into a buffer and drains the buffer for the chunk. Both record a
span, and a completed export counts its rows and leaves a log entry. An export that fails or is
abandoned does neither, and the batches that were given until then stand.
-/

namespace ChargingReport

/-- The columns of an export. -/
def exportColumns : List String :=
  ["transaction_pk", "charge_box_id", "connector_id", "id_tag", "start_timestamp", "start_value",
    "stop_timestamp", "stop_value"]

/-- The fields of an exported row. A null is the empty text. -/
def ExportedRow.fields (r : ExportedRow) : List String :=
  [intText r.transaction.pk, r.connector.chargeBoxId, intText r.connector.number,
    r.transaction.idTag, r.transaction.start.text, r.transaction.startValue,
    (r.transaction.stop.map Instant.text).getD "", r.transaction.stopValue.getD ""]

/-! ## Writing rows -/

/-- A buffer that rows are written into, and the number of rows so far. -/
structure RowWriter where
  buffer : TextBuffer
  written : Nat

namespace RowWriter

/-- A writer that has written the header. -/
def start (sink : TextBuffer) : RowWriter := ⟨Csv.writeRecord sink exportColumns, 0⟩

/-- Writes a batch of rows, and counts them. -/
def writeBatch (w : RowWriter) (batch : List ExportedRow) : RowWriter where
  buffer := batch.foldl (fun b r => Csv.writeRecord b r.fields) w.buffer
  written := w.written + batch.length

end RowWriter

/-- A writer, and the chunks that it has given. -/
structure ChunkWriter where
  writer : RowWriter
  chunks : List String

namespace ChunkWriter

/-- Gives what the buffer holds as a chunk, and empties the buffer. -/
def give (w : ChunkWriter) : ChunkWriter :=
  let (chunk, buffer) := w.writer.buffer.drain
  ⟨{ w.writer with buffer := buffer }, w.chunks ++ [chunk]⟩

/-- A writer that has given the header. -/
def start : ChunkWriter := give ⟨RowWriter.start .empty, []⟩

/-- Writes a batch of rows, and gives it as a chunk. -/
def giveBatch (w : ChunkWriter) (batch : List ExportedRow) : ChunkWriter :=
  give { w with writer := w.writer.writeBatch batch }

end ChunkWriter

/-! ## Exports -/

/-- The sink of an export, how many rows it has unless it failed, and the journal after it. -/
structure Export where
  sink : TextBuffer
  answer : Except Failure Nat
  journal : Journal

/-- The text in the sink of an export. -/
def Export.text (e : Export) : String := e.sink.text

/-- What a stream gave, the failure that ended it, if any, and the journal after it. -/
structure Stream where
  chunks : List String
  failure : Option Failure
  journal : Journal

namespace ReportContext

/-- The plan of an export. -/
def exportPlan (ctx : ReportContext) (form : QueryForm) : Except Failure QueryPlan := do
  let conditions ← ctx.conditions form
  let period ← form.period.label QueryPeriod.name
  return ⟨conditions, [("period_type", .text period)]⟩

/-- The rows of an export in batches, and the failure that ends them, if any. -/
def exportBatches (ctx : ReportContext) (conditions : List Condition) : Fetched :=
  match ctx.read conditions with
  | .error f => ⟨[], some f⟩
  | .ok store => ctx.fetcher.fetch ctx.batchSize (store.exported conditions)

/-- What an export ends with: the number of its rows, or a failure. -/
def exportResult (failure : Option Failure) (written : Nat) : Except Failure Nat :=
  match failure with
  | some f => .error f
  | none => .ok written

/-- The log entry of a completed export. -/
def exportEntry (message : String) (rows : Nat) : LogEntry :=
  ⟨.info, "chargeview.services.transactions", message, [("rows", .int rows)]⟩

/-- The name of the span of an export. -/
def exportSpan : String := "transactions.export_csv"

/-- Records the end of an export: its span, and a message with the number of its rows if it was
completed. -/
def endExport (attributes : List (String × Json)) (message : String) (result : Except Failure Nat)
    (j : Journal) : Journal :=
  let j := j.endSpan exportSpan attributes (failureOf result)
  match result with
  | .error _ => j
  | .ok rows => (j.measure fun m => m.recordExport rows).addLog (exportEntry message rows)

/-- Writes the sessions that a form selects into a sink. -/
def writeCsv (ctx : ReportContext) (form : QueryForm) (sink : TextBuffer) (j : Journal) : Export :=
  match ctx.exportPlan form with
  | .error f => ⟨sink, .error f, j⟩
  | .ok plan =>
    let fetched := ctx.exportBatches plan.conditions
    let done := fetched.batches.foldl RowWriter.writeBatch (RowWriter.start sink)
    let result := exportResult fetched.failure done.written
    ⟨done.buffer, result, endExport plan.attributes "exported transactions csv" result j⟩

/-- The export of the sessions that a form selects, into an empty sink. -/
def csvExport (ctx : ReportContext) (form : QueryForm) (j : Journal) : Export :=
  ctx.writeCsv form .empty j

/-- The chunks of a stream, and the failure that ends it, if any. -/
def chunks (ctx : ReportContext) (conditions : List Condition) :
    List String × Except Failure Nat :=
  let fetched := ctx.exportBatches conditions
  let done := fetched.batches.foldl ChunkWriter.giveBatch ChunkWriter.start
  (done.chunks, exportResult fetched.failure done.writer.written)

/-- Records the end of a stream. -/
def endStream (plan : QueryPlan) (result : Except Failure Nat) (j : Journal) : Journal :=
  endExport (plan.attributes ++ [("streamed", .bool true)]) "streamed transactions csv" result j

/-- The stream of the sessions that a form selects, read to its end. -/
def stream (ctx : ReportContext) (form : QueryForm) (j : Journal) : Stream :=
  match ctx.exportPlan form with
  | .error f => ⟨[], some f, j⟩
  | .ok plan =>
    let (chunks, result) := ctx.chunks plan.conditions
    ⟨chunks, failureOf result, endStream plan result j⟩

/-- The stream of the sessions that a form selects, of which only so many chunks are read. A stream
of which no chunk is read does not begin, and one that is left before its end is abandoned. -/
def streamUpTo (ctx : ReportContext) (form : QueryForm) (count : Nat) (j : Journal) : Stream :=
  if count = 0 then ⟨[], none, j⟩
  else match ctx.exportPlan form with
    | .error f => ⟨[], some f, j⟩
    | .ok plan =>
      let (chunks, _) := ctx.chunks plan.conditions
      if count ≤ chunks.length then
        ⟨chunks.take count, none, endStream plan (.error .abandoned) j⟩
      else ctx.stream form j

end ReportContext

end ChargingReport
