import ChargingReport.Report.Listing

/-!
# Details of a transaction

A transaction with the readings of its meter. Stations do not always tag a sample with its
transaction, so there are two sources: the samples that name the transaction, at any time, and those
of its connector within the time of the session. Equal readings are reported once, with the time at
which they were first seen.

* `Store.tagged` and `Store.windowed` are the two sources, and `Store.candidates` is their union,
  in which equal rows collapse.
* `grouped` has one reading for every sample among candidates, and `firstSeen` puts these in order
  of time.
* `ReportContext.details` is the whole report.
-/

namespace ChargingReport

/-- A distinct reading and the time at which it was first seen. -/
structure Reading where
  time : Instant
  sample : Sample
deriving DecidableEq

/-- A transaction and the readings that belong to it. -/
structure TransactionDetails where
  transaction : TransactionRecord
  values : List Reading
deriving DecidableEq

/-! ## Order of samples -/

/-- The order of optional texts: null first, and then by code point. -/
def optionalTextLt (a b : Option String) : Bool :=
  match a, b with
  | none, some _ => true
  | some x, some y => decide (x < y)
  | _, none => false

/-- The order of lists of optional texts: by the first that differs. -/
def optionalTextsLe : List (Option String) → List (Option String) → Bool
  | a :: as, b :: bs =>
    if optionalTextLt a b then true
    else if optionalTextLt b a then false
    else optionalTextsLe as bs
  | [], _ => true
  | _ :: _, [] => false

namespace Sample

/-- The parts of a sample, in the order in which they are compared. -/
def parts (s : Sample) : List (Option String) :=
  [s.value, s.readingContext, s.format, s.measurand, s.location, s.unit]

/-- The order of samples: by the first part that differs. -/
def le (a b : Sample) : Bool := optionalTextsLe a.parts b.parts

end Sample

/-! ## Candidates -/

/-- The columns of a meter value that a report looks at: all but its own key. -/
structure Candidate where
  connectorPk : Int
  transactionPk : Option Int
  time : Instant
  sample : Sample
deriving DecidableEq

/-- The columns of a meter value without its own key. -/
def MeterValue.candidate (m : MeterValue) : Candidate :=
  ⟨m.connectorPk, m.transactionPk, m.time, m.sample⟩

/-- Whether a time lies within a session, the ends included. An open session has no end. -/
def TransactionRecord.covers (r : TransactionRecord) (time : Instant) : Bool :=
  match r.stop with
  | none => r.start.columnLe time
  | some stop => r.start.columnLe time && time.columnLe stop

namespace Store

/-- The key of the connector with a number at a station. Of several, the first counts. -/
def connectorKey? (s : Store) (chargeBoxId : String) (number : Int) : Option Int :=
  (s.connectors.find? fun c => c.chargeBoxId == chargeBoxId && c.number == number).map
    Connector.pk

/-- The samples that name a transaction, whatever their time. -/
def tagged (s : Store) (r : TransactionRecord) : List Candidate :=
  (s.meterValues.filter fun m => m.transactionPk == some r.pk).map MeterValue.candidate

/-- The samples of the connector of a transaction within the time of the session. -/
def windowed (s : Store) (r : TransactionRecord) : List Candidate :=
  let connector := s.connectorKey? r.chargeBoxId r.connectorNumber
  (s.meterValues.filter fun m => some m.connectorPk == connector && r.covers m.time).map
    MeterValue.candidate

/-- The samples that may belong to a transaction. Rows that are equal in all columns count once. -/
def candidates (s : Store) (r : TransactionRecord) : List Candidate :=
  (s.tagged r ++ s.windowed r).eraseDups

end Store

/-! ## Groups -/

/-- The times of the candidates with a sample. -/
def timesOf (candidates : List Candidate) (sample : Sample) : List Instant :=
  (candidates.filter fun c => c.sample = sample).map Candidate.time

/-- The samples among candidates, each once and in order. -/
def samplesOf (candidates : List Candidate) : List Sample :=
  ((candidates.map Candidate.sample).eraseDups).mergeSort Sample.le

/-- One reading for every sample among candidates, with the earliest of its times. -/
def grouped (candidates : List Candidate) : List Reading :=
  (samplesOf candidates).filterMap fun sample =>
    (Instant.earliest? (timesOf candidates sample)).map fun time => ⟨time, sample⟩

/-- The distinct readings among candidates, in order of time. -/
def firstSeen (candidates : List Candidate) : List Reading :=
  (grouped candidates).mergeSort fun a b => a.time.columnLe b.time

/-- The readings that belong to a transaction. -/
def Store.readings (s : Store) (r : TransactionRecord) : List Reading := firstSeen (s.candidates r)

/-! ## The report -/

namespace ReportContext

/-- The details of the one transaction that a form selects, where `key` is what was asked for. -/
def detailsOf (ctx : ReportContext) (form : QueryForm) (key : Json) :
    Except Failure TransactionDetails := do
  match ← ctx.transaction? form with
  | none => throw (.notFound key.shown)
  | some record =>
    let store ← ctx.read []
    return ⟨record, store.readings record⟩

/-- Records the end of a lookup. -/
def endLookup (key : Json) (answer : Except Failure TransactionDetails) (j : Journal) : Journal :=
  let j := j.endSpan "transactions.details" [("transaction_pk", key)] (failureOf answer)
  match answer with
  | .ok details =>
    (j.measure fun m => m.recordHit details.values.length).addLog
      ⟨.debug, "chargeview.services.transaction_details", "reconciled transaction meter values",
        [("transaction_pk", key), ("values", .int details.values.length)]⟩
  | .error (.notFound _) => j.measure Metrics.recordMiss
  | .error _ => j

/-- The transaction with a key, and the readings that belong to it. The key is checked like the key
of a form, so no key asks for the only transaction there is. -/
def details (ctx : ReportContext) (key : Json) (j : Journal) : Outcome TransactionDetails :=
  match QueryForm.check (.object [("transaction_pk", key)]) with
  | .error e => ⟨.error (.ofForm e), j⟩
  | .ok form =>
    let answer := ctx.detailsOf form key
    ⟨answer, endLookup key answer j⟩

end ReportContext

end ChargingReport
