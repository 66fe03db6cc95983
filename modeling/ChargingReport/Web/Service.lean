import ChargingReport.Form.Arguments
import ChargingReport.Report.Export
import ChargingReport.Validation.Scalar
import ChargingReport.Web.Document
import ChargingReport.Web.Route
import ChargingReport.Web.Target

/-!
# Answering requests

`Service.answer` routes a request, answers it, and counts it. Redirects are followed, and each of them
is counted as a request of its own.

A rejected parameter is answered with what is wrong with it, a missing transaction with 404, a form
whose period is no period with 500. Any other failure is a plain internal error. An export has sent
its status before it reads anything, so a failure cuts its text off.
-/

namespace ChargingReport

/-- The content of an answer. -/
inductive Body where
  | json (value : Json)
  | text (text : String)
  /-- The metrics of the service, of which only the families are told. -/
  | metrics (families : List String)

/-- An answer to a request. -/
structure Answer where
  status : Nat
  contentType : String
  body : Body
  disposition : Option String := none

/-- A request. It may have parameters beside those of its target. A form may be given instead of
parameters, and the database may be out of reach. -/
structure Request where
  method : String
  target : Target
  further : List (String × String) := []
  form : Option QueryForm := none
  databaseDown : Bool := false

/-- The service: what its reports are made from, and its settings. -/
structure Service where
  context : ReportContext
  settings : Settings

/-- An answer, and the journal after it. -/
structure Exchange where
  answer : Answer
  journal : Journal

namespace Answer

/-- An answer with a structured body. -/
def ofJson (status : Nat) (body : Json) : Answer := ⟨status, "application/json", .json body, none⟩

/-- The answer to a failure that nobody expected. -/
def internalError : Answer :=
  ⟨500, "text/plain; charset=utf-8", .text "Internal Server Error", none⟩

/-- The answer to a path that no route fits. -/
def notFound : Answer := ofJson 404 (detailBody "Not Found")

/-- The answer to a method that a route does not take. -/
def methodNotAllowed : Answer := ofJson 405 (detailBody "Method Not Allowed")

/-- The answer without its body. -/
def withoutBody (a : Answer) : Answer := { a with body := .text "" }

end Answer

/-! ## Parameters -/

/-- The parameters of a form that have a type of their own. The others take any text. -/
def typedParameters (r : FieldReadings) : List (String × Option Issue) :=
  let issue {α : Type} (field : Except Issue α) : Option Issue := match field with
    | .ok _ => none
    | .error e => some e
  [("transaction_pk", issue r.transactionPk), ("type", issue r.type),
    ("period_type", issue r.period), ("from", issue r.earliest), ("to", issue r.latest)]

/-- The parameters of a form by name. -/
def formParameters (parameters : List (String × String)) : Json :=
  .object (["transaction_pk", "charge_box_id", "ocpp_id_tag", "type", "period_type", "from",
    "to"].filterMap fun name => (parameters.lookup name).map fun v => (name, .text v))

/-- The parameters of a form, each read on its own. Those without a type of their own take any
text. -/
def parameterReadings (parameters : List (String × String)) : FieldReadings :=
  let v := formParameters parameters
  { FieldReadings.ofJson v with
    chargeBoxId := readField readOptionalText none (v.field? "charge_box_id")
    idTag := readField readOptionalText none (v.field? "ocpp_id_tag") }

/-- The issues of the parameters, as an answer tells them. -/
def parameterIssues (parameters : List (String × String)) : List Json :=
  (typedParameters (parameterReadings parameters)).filterMap
    fun (name, issue) => issue.map (Issue.body "query" name ((parameters.lookup name).getD ""))

/-- The answer to parameters of which no form can be made. Nobody expects that a form leaves the
calendar. -/
def FormError.answer : FormError → Answer
  | .invalid issues =>
    .ofJson 422 (.object [("detail", .list (issues.map fun i => .text i.cause.message))])
  | .calendar _ => .internalError

/-- The form of a request, or the answer that rejects it. Parameters are read one by one, and then a
form is made from their values. -/
def formOfParameters (parameters : List (String × String)) : Except Answer QueryForm :=
  match (parameterReadings parameters).values? with
  | .error _ => .error (.ofJson 422 (.object [("detail", .list (parameterIssues parameters))]))
  | .ok values => (FormArguments.ofValues values).form.mapError FormError.answer

namespace Request

/-- The form of a request, or the answer that rejects it. -/
def queryForm (r : Request) : Except Answer QueryForm :=
  match r.form with
  | some form => .ok form
  | none => formOfParameters (mergeParameters r.target.parameters r.further)

end Request

/-! ## Endpoints -/

namespace Service

/-- What reports are made from for a request. -/
def contextFor (s : Service) (r : Request) : ReportContext :=
  if r.databaseDown then { s.context with store := none } else s.context

/-- The answer to a listing. -/
def listingAnswer (s : Service) (r : Request) (j : Journal) : Exchange :=
  match r.queryForm with
  | .error a => ⟨a, j⟩
  | .ok form =>
    let outcome := (s.contextFor r).transactions form j
    match outcome.answer with
    | .ok records =>
      ⟨.ofJson 200 (.list (records.map TransactionRecord.body)), outcome.journal⟩
    | .error (.unknownPeriod shown) =>
      let message := (Failure.unknownPeriod shown).message
      ⟨.ofJson 500 (detailBody "Invalid query configuration"), outcome.journal.addLog
        ⟨.error, "chargeview.api.routes.transactions", "transaction query rejected",
          [("error", .text message)]⟩⟩
    | .error _ => ⟨.internalError, outcome.journal⟩

/-- The answer to an export. The database of an export is not the one of the request. -/
def exportAnswer (s : Service) (r : Request) (j : Journal) : Exchange :=
  match r.queryForm with
  | .error a => ⟨a, j⟩
  | .ok form =>
    let stream := s.context.stream form j
    ⟨⟨200, "text/csv; charset=utf-8", .text (String.join stream.chunks),
      some "attachment; filename=\"transactions.csv\""⟩, stream.journal⟩

/-- The answer to a request for details. -/
def detailsAnswer (s : Service) (r : Request) (key : String) (j : Journal) : Exchange :=
  match readIntegerText key with
  | .error issue =>
    ⟨.ofJson 422 (.object [("detail",
      .list [issue.body "path" "transaction_pk" key])]), j⟩
  | .ok pk =>
    let outcome := (s.contextFor r).details (.int pk) j
    match outcome.answer with
    | .ok details => ⟨.ofJson 200 details.body, outcome.journal⟩
    | .error (.notFound shown) =>
      ⟨.ofJson 404 (detailBody (Failure.notFound shown).message), outcome.journal⟩
    | .error _ => ⟨.internalError, outcome.journal⟩

/-- The answer to a request for active keys. -/
def activeKeysAnswer (s : Service) (r : Request) (chargeBoxId : String) (j : Journal) :
    Exchange :=
  let outcome := (s.contextFor r).activeKeys chargeBoxId j
  match outcome.answer with
  | .ok keys => ⟨.ofJson 200 (.list (keys.map .int)), outcome.journal⟩
  | .error _ => ⟨.internalError, outcome.journal⟩

/-- What a probe answers. -/
def probeBody (s : Service) (status : String) : Json :=
  .object [("status", .text status), ("service", .text s.settings.appName)]

/-- The answer to the question whether the database answers. -/
def readinessAnswer (s : Service) (r : Request) (j : Journal) : Exchange :=
  match (s.contextFor r).store with
  | some _ => ⟨.ofJson 200 (s.probeBody "ready"), j⟩
  | none =>
    ⟨.ofJson 503 (detailBody "Database unavailable"),
      j.addLog ⟨.warning, "chargeview.api.routes.health", "database not ready", []⟩⟩

/-- The answer of a route. -/
def routeAnswer (s : Service) (r : Request) (route : Route) (values : List String)
    (j : Journal) : Exchange :=
  match route.endpoint, values with
  | .health, _ => ⟨.ofJson 200 (s.probeBody "ok"), j⟩
  | .readiness, _ => s.readinessAnswer r j
  | .listing, _ => s.listingAnswer r j
  | .export, _ => s.exportAnswer r j
  | .details, key :: _ => s.detailsAnswer r key j
  | .activeKeys, chargeBoxId :: _ => s.activeKeysAnswer r chargeBoxId j
  | .metrics, _ =>
    ⟨⟨200, "text/plain; version=1.0.0; charset=utf-8", .metrics Metrics.families, none⟩, j⟩
  | .document, _ =>
    ⟨.ofJson 200 (Document.describe s.settings.appName s.settings.version), j⟩
  | .documentPage, _ => ⟨⟨200, "text/html; charset=utf-8", .text "", none⟩, j⟩
  | _, [] => ⟨.notFound, j⟩

/-! ## Requests -/

/-- Counts a finished request, if metrics are enabled. -/
def count (s : Service) (r : Request) (template : Option String) (status : Nat) (j : Journal) :
    Journal :=
  if s.settings.enableMetrics then
    let path := routeLabel (String.ofList r.target.path) template
    j.measure fun m => m.recordRequest ⟨⟨r.method, path⟩, String.ofList (natText status)⟩
  else j

/-- The answer without its body, if the method asks for that. -/
def bodyFor (r : Request) (a : Answer) : Answer :=
  if r.method = "HEAD" then a.withoutBody else a

/-- Answers a request and counts it, and follows redirects. The number bounds how many are
followed. -/
def follow (s : Service) : Nat → Request → Journal → Exchange
  | fuel, r, j =>
    match Routing.ofRequest (routeTable s.settings) r.method r.target.path with
    | .answered route values =>
      let e := s.routeAnswer r route values j
      ⟨bodyFor r e.answer, s.count r (some route.template) e.answer.status e.journal⟩
    | .refused route =>
      ⟨bodyFor r .methodNotAllowed, s.count r (some route.template) 405 j⟩
    | .unknown => ⟨bodyFor r .notFound, s.count r none 404 j⟩
    | .redirected path =>
      let j := s.count r none 307 j
      match fuel with
      | 0 => ⟨.internalError, j⟩
      | fuel + 1 => s.follow fuel { r with target := r.target.redirected path } j

/-- The most redirects that a client follows. -/
def redirectLimit : Nat := 20

/-- Answers a request. -/
def answer (s : Service) (r : Request) (j : Journal) : Exchange := s.follow redirectLimit r j

end Service

end ChargingReport
