import ChargingReport.Logging.Configuration
import ChargingReport.Tracing.Provider
import ChargingReport.Web.Service

/-!
# The application

`Application.create` puts the service together from its settings: it configures the loggers, installs
a tracer provider if tracing is enabled, and sets up the routes.
-/

namespace ChargingReport

/-- Why an application cannot be put together. -/
inductive ApplicationError where
  | logging (cause : LoggingError)
  | tracing (cause : TracingError)
  | titleMissing
  | versionMissing
  /-- The path of a documentation page does not begin with a slash. -/
  | pagePath
deriving DecidableEq, Repr

namespace ApplicationError

/-- The kind of the error. -/
def kind : ApplicationError → String
  | .logging cause => cause.kind
  | .tracing _ => "ValueError"
  | _ => "AssertionError"

/-- The message of the error. -/
def message : ApplicationError → String
  | .logging cause => cause.message
  | .tracing cause => cause.message
  | .titleMissing => "A title must be provided for OpenAPI, e.g.: 'My API'"
  | .versionMissing => "A version must be provided for OpenAPI, e.g.: '2.1.0'"
  | .pagePath => "Routed paths must start with '/'"

end ApplicationError

/-- An application: its settings, the provider of its tracers, and its loggers. -/
structure Application where
  settings : Settings
  provider : Option TracerProvider
  logging : LoggingState

namespace Application

/-- What is wrong with the documentation of a service with these settings, if anything. -/
def documentError? (s : Settings) : Option ApplicationError :=
  if s.openapiUrl.isEmpty then none
  else if s.appName.isEmpty then some .titleMissing
  else if s.version.isEmpty then some .versionMissing
  else if (documentRoutes s).all fun r => r.template.toList.head? = some '/' then none
  else some .pagePath

/-- The configuration of the loggers of a service with these settings. A path leads to a file that
does not exist. -/
def configurationSource (s : Settings) : ConfigurationSource :=
  match s.logConfigPath with
  | none => .bundled
  | some _ => .missing

/-- Puts an application together, starting from the state of the loggers. -/
def create (s : Settings) (logging : LoggingState) : Except ApplicationError Application :=
  let configured := logging.configure loggerFactory (configurationSource s) s.logLevel
  match configured.error with
  | some cause => .error (.logging cause)
  | none =>
    let request : TracingRequest :=
      { serviceName := s.appName, version := some s.version, endpoint := s.exporterEndpoint
        ratio := .number s.sampleRatio }
    let traced : Except TracingError TracingState :=
      if s.enableTracing then ({} : TracingState).initialise request else .ok {}
    match traced with
    | .error cause => .error (.tracing cause)
    | .ok tracing =>
      match documentError? s with
      | some e => .error e
      | none => .ok ⟨s, tracing.provider, configured.state⟩

/-- The middleware of the application. -/
def middleware (a : Application) : List String :=
  if a.settings.enableMetrics then ["PrometheusMiddleware"] else []

/-- The level of the logger of the service. -/
def logLevel (a : Application) : String := (a.logging.logger serviceLogger).level.name

/-- The application as a service over a database without rows. -/
def emptyService (a : Application) (clock : Stamp) : Service :=
  { context :=
      { store := some Store.empty, clock := clock, displayZone := a.settings.displayZone
        batchSize := a.settings.batchSize }
    settings := a.settings }

/-- The status of the answer to a `GET` of a path. -/
def status (a : Application) (clock : Stamp) (path : String) : Nat :=
  ((a.emptyService clock).answer { method := "GET", target := Target.parse path } {}).answer.status

end Application

end ChargingReport
