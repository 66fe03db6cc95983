import ChargingReport.Failure
import ChargingReport.Journal.Metrics

/-!
# The journal

What the service leaves behind while it answers: spans around queries, log entries and metrics. A
span is recorded when it ends, so spans stand in the order in which they ended.
-/

namespace ChargingReport

/-- A span that has ended. A span that a failure left has its description. -/
structure Span where
  name : String
  attributes : List (String × Json)
  parent : Option String
  failure : Option String

/-- The status of a span. -/
def Span.status (s : Span) : String := if s.failure.isSome then "ERROR" else "UNSET"

/-- The level of a log entry. -/
inductive LogLevel where
  | debug
  | info
  | warning
  | error
deriving DecidableEq, Repr

/-- The name of a level. -/
def LogLevel.name : LogLevel → String
  | .debug => "DEBUG"
  | .info => "INFO"
  | .warning => "WARNING"
  | .error => "ERROR"

/-- A log entry with the values that go with it. -/
structure LogEntry where
  level : LogLevel
  logger : String
  message : String
  extras : List (String × Json)

/-- What the service left behind. -/
structure Journal where
  spans : List Span := []
  logs : List LogEntry := []
  metrics : Metrics := {}

namespace Journal

/-- Records a span. -/
def addSpan (j : Journal) (span : Span) : Journal := { j with spans := j.spans ++ [span] }

/-- Records a log entry. -/
def addLog (j : Journal) (entry : LogEntry) : Journal := { j with logs := j.logs ++ [entry] }

/-- Changes the metrics. -/
def measure (j : Journal) (change : Metrics → Metrics) : Journal :=
  { j with metrics := change j.metrics }

/-- Records the span around a query. Attributes that are null are left out. -/
def endSpan (j : Journal) (name : String) (attributes : List (String × Json))
    (failure : Option Failure) : Journal :=
  let kept := attributes.filter fun a => match a.2 with
    | .null => false
    | _ => true
  j.addSpan ⟨name, kept, none, failure.map Failure.description⟩

end Journal

/-- The failure of an answer, if it is one. -/
def failureOf {α : Type} : Except Failure α → Option Failure
  | .ok _ => none
  | .error f => some f

/-- An answer, and the journal after it. -/
structure Outcome (α : Type) where
  answer : Except Failure α
  journal : Journal

end ChargingReport
