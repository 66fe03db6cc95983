import ChargingReport.Json
import ChargingReport.Journal.Tally

/-!
# Metrics

The counters and histograms of the service.

* Every finished request is counted by method, path and status, and observed by method and path.
  A status that starts with 5 is counted as an error as well.
* Every lookup of a transaction is counted by its outcome, and a successful one is observed with the
  number of meter values that it returned.
* The rows of completed exports are counted.

`Metrics.samples` lists what a scrape shows, without the samples that are zero.
-/

namespace ChargingReport

/-- The method and the path of a request. -/
structure RequestLabel where
  method : String
  path : String
deriving DecidableEq, Repr

/-- The method, the path and the status of a finished request. -/
structure StatusLabel where
  request : RequestLabel
  status : String
deriving DecidableEq, Repr

/-- How the lookup of a transaction ended. -/
inductive LookupOutcome where
  | found
  | notFound
deriving DecidableEq, Repr

/-- The name of an outcome. -/
def LookupOutcome.name : LookupOutcome → String
  | .found => "found"
  | .notFound => "not_found"

/-- A histogram of numbers of meter values: how many observations are at most each bound, how many
there are, and their sum. -/
structure ValueHistogram where
  observations : List Nat := []
deriving DecidableEq, Repr

/-- The counters and histograms. -/
structure Metrics where
  latencies : Tally RequestLabel := []
  requests : Tally StatusLabel := []
  requestErrors : Tally StatusLabel := []
  lookups : Tally LookupOutcome := []
  valuesReturned : ValueHistogram := {}
  exportedRows : Nat := 0
deriving DecidableEq, Repr

namespace ValueHistogram

/-- The bounds of the histogram, and the text of each. -/
def bounds : List (Nat × String) :=
  [(0, "0.0"), (1, "1.0"), (5, "5.0"), (10, "10.0"), (25, "25.0"), (50, "50.0"),
    (100, "100.0"), (250, "250.0"), (1000, "1000.0")]

/-- Adds an observation. -/
def observe (h : ValueHistogram) (n : Nat) : ValueHistogram := ⟨n :: h.observations⟩

/-- The number of observations. -/
def count (h : ValueHistogram) : Nat := h.observations.length

/-- The sum of the observations. -/
def sum (h : ValueHistogram) : Nat := sumOf h.observations

/-- The number of observations of at most a bound. -/
def atMost (h : ValueHistogram) (bound : Nat) : Nat :=
  (h.observations.filter fun n => n ≤ bound).length

end ValueHistogram

namespace Metrics

/-- Whether a status counts as an error of the server. -/
def isServerError (status : String) : Bool := status.toList.head? = some '5'

/-- Counts a finished request. -/
def recordRequest (m : Metrics) (label : StatusLabel) : Metrics :=
  { m with
    latencies := m.latencies.add label.request 1
    requests := m.requests.add label 1
    requestErrors :=
      if isServerError label.status then m.requestErrors.add label 1 else m.requestErrors }

/-- Counts a lookup that found no transaction. -/
def recordMiss (m : Metrics) : Metrics := { m with lookups := m.lookups.add .notFound 1 }

/-- Counts a lookup that found a transaction, with the number of meter values it returned. -/
def recordHit (m : Metrics) (values : Nat) : Metrics :=
  { m with
    lookups := m.lookups.add .found 1
    valuesReturned := m.valuesReturned.observe values }

/-- Counts the rows of a completed export. -/
def recordExport (m : Metrics) (rows : Nat) : Metrics :=
  { m with exportedRows := m.exportedRows + rows }

end Metrics

/-! ## Samples -/

/-- One number of a scrape, with its name and its labels. -/
structure MetricSample where
  name : String
  labels : List (String × String)
  value : Nat
deriving DecidableEq, Repr

/-- The order of labels: by the first label that differs. -/
def labelsLe : List (String × String) → List (String × String) → Bool
  | [], _ => true
  | _ :: _, [] => false
  | a :: as, b :: bs =>
    if a.1 < b.1 then true
    else if b.1 < a.1 then false
    else if a.2 < b.2 then true
    else if b.2 < a.2 then false
    else labelsLe as bs

/-- The order of samples: by name, and then by labels. -/
def MetricSample.le (a b : MetricSample) : Bool :=
  if a.name < b.name then true
  else if b.name < a.name then false
  else labelsLe a.labels b.labels

/-- The labels of a request. -/
def RequestLabel.labels (r : RequestLabel) : List (String × String) :=
  [("method", r.method), ("path", r.path)]

/-- The labels of a finished request. -/
def StatusLabel.labels (s : StatusLabel) : List (String × String) :=
  s.request.labels ++ [("status", s.status)]

/-- The samples of a histogram. -/
def ValueHistogram.samples (h : ValueHistogram) (name : String) : List MetricSample :=
  (ValueHistogram.bounds.map fun bound =>
    ⟨name ++ "_bucket", [("le", bound.2)], h.atMost bound.1⟩) ++
  [⟨name ++ "_bucket", [("le", "+Inf")], h.count⟩, ⟨name ++ "_count", [], h.count⟩,
    ⟨name ++ "_sum", [], h.sum⟩]

namespace Metrics

/-- All samples, sorted by name and labels. A sample that is zero is left out. -/
def samples (m : Metrics) : List MetricSample :=
  let all :=
    m.latencies.map (fun (k, n) => ⟨"http_request_latency_seconds_count", k.labels, n⟩) ++
    m.requests.map (fun (k, n) => ⟨"http_requests_total", k.labels, n⟩) ++
    m.requestErrors.map (fun (k, n) => ⟨"http_request_errors_total", k.labels, n⟩) ++
    m.lookups.map (fun (k, n) => ⟨"transaction_detail_lookups_total", [("outcome", k.name)], n⟩) ++
    [⟨"transaction_csv_export_rows_total", [], m.exportedRows⟩] ++
    m.valuesReturned.samples "transaction_meter_values_returned"
  (all.filter fun s => s.value != 0).mergeSort MetricSample.le

/-- The names of the metric families of the service. -/
def families : List String :=
  ["http_request_errors_total", "http_request_latency_seconds", "http_requests_total",
    "transaction_csv_export_rows_total", "transaction_detail_lookups_total",
    "transaction_meter_values_returned"]

end Metrics

end ChargingReport
