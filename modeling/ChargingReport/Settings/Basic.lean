import ChargingReport.Form.Check
import ChargingReport.Settings.Dotenv
import ChargingReport.Validation.Scalar

/-!
# Settings

The settings of the service come from arguments, from the environment and from a settings file, in
this order of precedence, and have defaults.

`Settings.check` turns named values into settings, or says what is wrong with each of them, in the
order of the settings; names that are no setting come last. `SettingsSources.merged` brings the three
sources together.
-/

namespace ChargingReport

/-- The settings of the service. -/
structure Settings where
  appName : String
  version : String
  docsUrl : Option String
  redocUrl : Option String
  openapiUrl : String
  databaseUrl : String
  enableMetrics : Bool
  enableTracing : Bool
  exporterEndpoint : Option String
  sampleRatio : Binary64
  displayZone : String
  batchSize : Nat
  logLevel : String
  logConfigPath : Option String

namespace Settings

/-- The settings when nothing is given. -/
def default : Settings where
  appName := "chargeview"
  version := "0.1.0"
  docsUrl := some "/docs"
  redocUrl := some "/redoc"
  openapiUrl := "/openapi.json"
  databaseUrl := "postgresql+psycopg://steve:steve@db:5432/stevedb"
  enableMetrics := true
  enableTracing := true
  exporterEndpoint := none
  sampleRatio := Binary64.ofInt 1
  displayZone := "UTC"
  batchSize := 500
  logLevel := "INFO"
  logConfigPath := none

/-- The names of the settings, in order. -/
def names : List String :=
  ["app_name", "version", "docs_url", "redoc_url", "openapi_url", "database_url",
    "enable_metrics", "enable_tracing", "otel_exporter_endpoint", "otel_sample_ratio",
    "display_timezone", "csv_export_batch_size", "log_level", "log_config_path"]

/-- The settings by name. -/
def describe (s : Settings) : Json :=
  .object [("app_name", .text s.appName), ("version", .text s.version),
    ("docs_url", .ofText? s.docsUrl), ("redoc_url", .ofText? s.redocUrl),
    ("openapi_url", .text s.openapiUrl), ("database_url", .text s.databaseUrl),
    ("enable_metrics", .bool s.enableMetrics), ("enable_tracing", .bool s.enableTracing),
    ("otel_exporter_endpoint", .ofText? s.exporterEndpoint),
    ("otel_sample_ratio", .float s.sampleRatio), ("display_timezone", .text s.displayZone),
    ("csv_export_batch_size", .int s.batchSize), ("log_level", .text s.logLevel),
    ("log_config_path", .ofText? s.logConfigPath)]

end Settings

/-! ## Single settings -/

/-- The share of traces that are kept, from 0 to 1. The upper end is looked at first. -/
def readRatio (v : Json) : Except Issue Binary64 := do
  let x ← readNumber v
  if !x.isAtMostOne then throw (.aboveMaximum 1)
  if !x.isNonnegative then throw (.belowMinimum 0)
  return x

/-- The number of rows per batch, above 0. -/
def readBatchSize (v : Json) : Except Issue Nat := do
  let n ← readInteger v
  if n ≤ 0 then throw (.notAbove 0)
  return n.toNat

/-! ## All settings -/

/-- The settings, each read on its own. -/
structure SettingReadings where
  appName : Except Issue String
  version : Except Issue String
  docsUrl : Except Issue (Option String)
  redocUrl : Except Issue (Option String)
  openapiUrl : Except Issue String
  databaseUrl : Except Issue String
  enableMetrics : Except Issue Bool
  enableTracing : Except Issue Bool
  exporterEndpoint : Except Issue (Option String)
  sampleRatio : Except Issue Binary64
  displayZone : Except Issue String
  batchSize : Except Issue Nat
  logLevel : Except Issue String
  logConfigPath : Except Issue (Option String)

namespace SettingReadings

/-- Reads named values. -/
def ofValues (values : List (String × Json)) : SettingReadings :=
  let v name := values.lookup name
  let d := Settings.default
  { appName := readField readText d.appName (v "app_name")
    version := readField readText d.version (v "version")
    docsUrl := readField readOptionalText d.docsUrl (v "docs_url")
    redocUrl := readField readOptionalText d.redocUrl (v "redoc_url")
    openapiUrl := readField readText d.openapiUrl (v "openapi_url")
    databaseUrl := readField readText d.databaseUrl (v "database_url")
    enableMetrics := readField readBoolean d.enableMetrics (v "enable_metrics")
    enableTracing := readField readBoolean d.enableTracing (v "enable_tracing")
    exporterEndpoint :=
      readField readOptionalText d.exporterEndpoint (v "otel_exporter_endpoint")
    sampleRatio := readField readRatio d.sampleRatio (v "otel_sample_ratio")
    displayZone := readField readText d.displayZone (v "display_timezone")
    batchSize := readField readBatchSize d.batchSize (v "csv_export_batch_size")
    logLevel := readField readText d.logLevel (v "log_level")
    logConfigPath := readField readOptionalPath d.logConfigPath (v "log_config_path") }

/-- What is wrong with the settings, in their order. -/
def issues (r : SettingReadings) : List FieldIssue :=
  issueAt "app_name" r.appName ++ issueAt "version" r.version ++
    issueAt "docs_url" r.docsUrl ++ issueAt "redoc_url" r.redocUrl ++
    issueAt "openapi_url" r.openapiUrl ++ issueAt "database_url" r.databaseUrl ++
    issueAt "enable_metrics" r.enableMetrics ++ issueAt "enable_tracing" r.enableTracing ++
    issueAt "otel_exporter_endpoint" r.exporterEndpoint ++
    issueAt "otel_sample_ratio" r.sampleRatio ++ issueAt "display_timezone" r.displayZone ++
    issueAt "csv_export_batch_size" r.batchSize ++ issueAt "log_level" r.logLevel ++
    issueAt "log_config_path" r.logConfigPath

/-- The settings, if all of them are valid. -/
def settings? (r : SettingReadings) : Except Issue Settings := do
  return {
    appName := ← r.appName
    version := ← r.version
    docsUrl := ← r.docsUrl
    redocUrl := ← r.redocUrl
    openapiUrl := ← r.openapiUrl
    databaseUrl := ← r.databaseUrl
    enableMetrics := ← r.enableMetrics
    enableTracing := ← r.enableTracing
    exporterEndpoint := ← r.exporterEndpoint
    sampleRatio := ← r.sampleRatio
    displayZone := ← r.displayZone
    batchSize := ← r.batchSize
    logLevel := ← r.logLevel
    logConfigPath := ← r.logConfigPath }

end SettingReadings

namespace Settings

/-- The issues of names that are no setting. -/
def unexpected (values : List (String × Json)) : List FieldIssue :=
  (values.filter fun v => !names.contains v.1).map fun v => ⟨some v.1, .unexpected⟩

/-- Checks named values. -/
def check (values : List (String × Json)) : Except (List FieldIssue) Settings :=
  let readings := SettingReadings.ofValues values
  let extra := unexpected values
  match readings.settings?, extra with
  | .ok settings, [] => .ok settings
  | _, _ => .error (readings.issues ++ extra)

end Settings

/-! ## Sources -/

/-- Where settings come from. -/
structure SettingsSources where
  arguments : List (String × Json) := []
  environment : List (String × String) := []
  file : Option String := none

namespace SettingsSources

/-- A name in lower case. -/
def lowered (name : String) : String := name.map Char.toLower

/-- The name of the setting that a name stands for, in upper or lower case. Other names are kept. -/
def settingName (name : String) : String :=
  if Settings.names.contains (lowered name) then lowered name else name

/-- Puts a list of values, one after the other. -/
def putAll (values more : List (String × Json)) : List (String × Json) :=
  more.foldl (fun values (name, value) => Json.put values name value) values

/-- The values of the settings file. A name that is no setting counts only with a value. -/
def fileValues (s : SettingsSources) : List (String × Json) :=
  match s.file with
  | none => []
  | some text =>
    (Dotenv.read s.environment text).filterMap fun (name, value) =>
      match value with
      | none => none
      | some v =>
        if v.isEmpty && !Settings.names.contains (lowered name) then none
        else some (lowered name, .text v)

/-- The values of the environment. Names that are no setting are left out. -/
def environmentValues (s : SettingsSources) : List (String × Json) :=
  (s.environment.filter fun v => Settings.names.contains (lowered v.1)).map
    fun (name, value) => (lowered name, .text value)

/-- The values of all sources. Arguments come before the environment, and the environment before
the file. -/
def merged (s : SettingsSources) : List (String × Json) :=
  let fromFile := putAll [] s.fileValues
  let fromEnvironment := putAll fromFile s.environmentValues
  putAll fromEnvironment (s.arguments.map fun (name, value) => (settingName name, value))

/-- The settings that the sources give. -/
def settings (s : SettingsSources) : Except (List FieldIssue) Settings := Settings.check s.merged

end SettingsSources

end ChargingReport
