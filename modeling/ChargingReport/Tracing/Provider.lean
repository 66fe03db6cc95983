import ChargingReport.Json

/-!
# Tracing

A `TracerProvider` says which service the spans belong to, where they go, and which of them are
kept. A share of the traces is kept by their identifiers, so that all parts of a trace agree.

A provider becomes the global one only if there is none yet. `TracingState.initialise` installs a
provider for a service, unless the global provider is one for the same service.
-/

namespace ChargingReport

/-- Why there is no provider. -/
inductive TracingError where
  /-- The share of traces is below 0 or above 1. -/
  | ratio
deriving DecidableEq, Repr

/-- The message of the error. -/
def TracingError.message : TracingError → String
  | .ratio => "Probability must be in range [0.0, 1.0]."

/-- The share of the traces that are kept, as it was given. -/
inductive SampleRatio where
  | integer (n : Int)
  | number (x : Binary64)

namespace SampleRatio

/-- The share as a number. -/
def value : SampleRatio → Binary64
  | .integer n => Binary64.ofInt n
  | .number x => x

/-- The text of the share. -/
def text : SampleRatio → String
  | .integer n => intText n
  | .number x => x.text

/-- Whether the share lies between 0 and 1. -/
def isValid (r : SampleRatio) : Bool := r.value.isNonnegative && r.value.isAtMostOne

/-- The bound below which the low 64 bits of an identifier lie in a kept trace. -/
def bound (r : SampleRatio) : Nat :=
  match r.value with
  | .finite false m e =>
    let size := Binary64.magnitude m e
    Binary64.roundHalfEven (size.1 * powerOfTwo 64) size.2
  | _ => 0

/-- The share that is kept when none is given. -/
def whole : SampleRatio := .number (Binary64.ofInt 1)

end SampleRatio

/-- What becomes of a trace. -/
inductive SamplingDecision where
  | record
  | drop
deriving DecidableEq, Repr

/-- The name of a decision. -/
def SamplingDecision.name : SamplingDecision → String
  | .record => "RECORD_AND_SAMPLE"
  | .drop => "DROP"

/-- A provider of tracers. -/
structure TracerProvider where
  serviceName : String
  version : Option String
  endpoint : Option String
  ratio : SampleRatio

namespace TracerProvider

/-- A provider for a service. -/
def create (serviceName : String) (version endpoint : Option String) (ratio : SampleRatio) :
    Except TracingError TracerProvider :=
  if ratio.isValid then .ok ⟨serviceName, version, endpoint, ratio⟩ else .error .ratio

/-- An optional text that is not empty. -/
def given (s : Option String) : Option String := s.filter fun s => !s.isEmpty

/-- What the spans say about the service. An empty version is left out. -/
def resource (p : TracerProvider) : Json :=
  let version := match given p.version with
    | some v => [("service.version", Json.text v)]
    | none => []
  .object (("service.name", .text p.serviceName) :: version)

/-- The name of the processor: spans go to a collector in batches where there is one, and one by one
to the console otherwise. -/
def processor (p : TracerProvider) : String :=
  if (given p.endpoint).isSome then "BatchSpanProcessor" else "SimpleSpanProcessor"

/-- The sampler in words. The share decides only for traces that have no parent. -/
def sampler (p : TracerProvider) : String :=
  "ParentBased\x7broot:TraceIdRatioBased\x7b" ++ p.ratio.text ++
    "\x7d,remoteParentSampled:AlwaysOnSampler,remoteParentNotSampled:AlwaysOffSampler," ++
    "localParentSampled:AlwaysOnSampler,localParentNotSampled:AlwaysOffSampler\x7d"

/-- The decision for the trace with an identifier. -/
def decide (p : TracerProvider) (traceId : Nat) : SamplingDecision :=
  if traceId % powerOfTwo 64 < p.ratio.bound then .record else .drop

end TracerProvider

/-! ## The global provider -/

/-- What to trace. -/
structure TracingRequest where
  serviceName : String
  version : Option String := none
  endpoint : Option String := none
  ratio : SampleRatio := SampleRatio.whole
  instrumentLogging : Bool := true

/-- The global provider, whether log records carry the trace, and whether the last request replaced
the provider. -/
structure TracingState where
  provider : Option TracerProvider := none
  logRecordsTraced : Bool := false
  replaced : Bool := false

namespace TracingState

/-- Whether the global provider is one for the service. -/
def serves (s : TracingState) (serviceName : String) : Bool :=
  match s.provider with
  | some p => p.serviceName == serviceName
  | none => false

/-- Installs a provider, unless the global one is for the same service. The first provider stays the
global one. -/
def initialise (s : TracingState) (r : TracingRequest) : Except TracingError TracingState := do
  if s.serves r.serviceName then return { s with replaced := false }
  let provider ← TracerProvider.create r.serviceName r.version r.endpoint r.ratio
  return {
    provider := s.provider.or (some provider)
    logRecordsTraced := s.logRecordsTraced || r.instrumentLogging
    replaced := s.provider.isNone }

/-- The states after each of a list of requests. -/
def initialiseAll (s : TracingState) : List TracingRequest →
    Except TracingError (List TracingState)
  | [] => .ok []
  | r :: rest => do
    let s ← s.initialise r
    return s :: (← s.initialiseAll rest)

end TracingState

end ChargingReport
