import ChargingReport.Proofs.Journal.Balance
import ChargingReport.Proofs.Report.Lossless
import ChargingReport.Proofs.Report.Streaming
import ChargingReport.Proofs.Web.Parameters

/-!
# The books of a service

What a request leaves in the metrics, and what a run of requests adds up to.

* Reports.  A listing and active keys count nothing, details count their lookup, and a stream counts
  its rows when it comes to its end (`ReportContext.metrics_details`,
  `ReportContext.metrics_stream`).
* One request.  `Service.finished` says how a request ends, and `Service.metrics_after` is the step:
  what is counted is just this.
* A client that follows redirects makes several requests.  `Service.journal_follow` takes them apart.

`Service.ledger_balances` is the run, for requests in any order to a database that may change between
them.
-/

namespace ChargingReport

/-! ## What reports count -/

namespace ReportContext

variable {ctx : ReportContext}

theorem answer_transactions (form : QueryForm) (j : Journal) :
    (ctx.transactions form j).answer = (ctx.transactions form {}).answer := by
  unfold transactions
  cases ctx.listingPlan form <;> rfl

theorem metrics_transactions (form : QueryForm) (j : Journal) :
    (ctx.transactions form j).journal.metrics = j.metrics := by
  unfold transactions
  cases ctx.listingPlan form <;> rfl

theorem answer_details (key : Json) (j : Journal) :
    (ctx.details key j).answer = (ctx.details key {}).answer := by
  unfold details
  cases QueryForm.check (.object [("transaction_pk", key)]) <;> rfl

theorem metrics_endLookup (key : Json) (answer : Except Failure TransactionDetails) (j : Journal) :
    (endLookup key answer j).metrics = j.metrics.recordLookup (some answer) := by
  cases answer with
  | ok details => rfl
  | error f => cases f <;> rfl

/-- Details count how their lookup ended. -/
theorem metrics_details (key : Json) (j : Journal) :
    (ctx.details key j).journal.metrics =
      j.metrics.recordLookup (some (ctx.details key {}).answer) := by
  unfold details
  cases QueryForm.check (.object [("transaction_pk", key)]) with
  | error e => cases e <;> rfl
  | ok form =>
    exact metrics_endLookup key (ctx.detailsOf form key) j

end ReportContext

/-- The text of an export has a data row for every row. -/
theorem dataRows_exportText (rows : List ExportedRow) :
    dataRows (exportText rows) = rows.length := by
  unfold dataRows
  rw [Csv.read_exportText]
  simp

/-- A stream counts its data rows, if it comes to its end. -/
theorem ReportContext.metrics_stream {ctx : ReportContext} (form : QueryForm) (j : Journal) :
    (ctx.stream form j).journal.metrics = j.metrics.recordExport (countedRows
      (some (String.join (ctx.stream form {}).chunks, (ctx.stream form {}).failure))) := by
  unfold stream
  cases ctx.exportPlan form with
  | error f => rfl
  | ok plan =>
    simp only [chunks]
    cases (ctx.exportBatches plan.conditions).failure with
    | some f => rfl
    | none =>
      have hdone := ChunkWriter.foldl_giveBatch_has ChunkWriter.start_has
        (ctx.exportBatches plan.conditions).batches
      have hcounted : dataRows (String.join
          ((ctx.exportBatches plan.conditions).batches.foldl ChunkWriter.giveBatch
            ChunkWriter.start).chunks) =
          ((ctx.exportBatches plan.conditions).batches.foldl ChunkWriter.giveBatch
            ChunkWriter.start).writer.written := by
        rw [hdone.chunks, hdone.written, join_groups, dataRows_exportText, Nat.zero_add]
      exact congrArg j.metrics.recordExport hcounted.symm

/-! ## How a request ends -/

/-- The failure that a form of a request meets, if it is no answer that rejects it. -/
def Request.formFailure (r : Request) : Option Failure :=
  match r.form with
  | some _ => none
  | none =>
    let parameters := mergeParameters r.target.parameters r.further
    match parameterIssues parameters, QueryForm.check (formParameters parameters) with
    | [], .error (.calendar cause) => some (.calendar cause)
    | _, _ => none

namespace Service

/-- The failure that leaves a listing before there is an answer. -/
def escapedListing (s : Service) (r : Request) : Option Failure :=
  match r.queryForm with
  | .error _ => r.formFailure
  | .ok form =>
    match ((s.contextFor r).transactions form {}).answer with
    | .error (.unknownPeriod _) => none
    | answer => failureOf answer

/-- The failure that leaves details before there is an answer. -/
def escapedDetails (s : Service) (r : Request) (key : String) : Option Failure :=
  match readIntegerText key with
  | .error _ => none
  | .ok pk =>
    match ((s.contextFor r).details (.int pk) {}).answer with
    | .error (.notFound _) => none
    | answer => failureOf answer

/-- The failure that leaves the handler of a route before there is an answer. -/
def escaped (s : Service) (r : Request) (route : Route) (values : List String) : Option Failure :=
  match route.endpoint, values with
  | .listing, _ => s.escapedListing r
  | .export, _ => r.formFailure
  | .details, key :: _ => s.escapedDetails r key
  | .activeKeys, chargeBoxId :: _ => failureOf ((s.contextFor r).activeKeys chargeBoxId {}).answer
  | _, _ => none

/-- What the lookup of a session ended with, if details make one. -/
def lookupOf (s : Service) (r : Request) (key : String) :
    Option (Except Failure TransactionDetails) :=
  match readIntegerText key with
  | .error _ => none
  | .ok pk => some ((s.contextFor r).details (.int pk) {}).answer

/-- What the lookup of a session ended with, if a route makes one. -/
def lookup? (s : Service) (r : Request) (route : Route) (values : List String) :
    Option (Except Failure TransactionDetails) :=
  match route.endpoint, values with
  | .details, key :: _ => s.lookupOf r key
  | _, _ => none

/-- The text of an export, and the failure that broke it off, if one is made. -/
def exportOf (s : Service) (r : Request) : Option (String × Option Failure) :=
  match r.queryForm with
  | .error _ => none
  | .ok form =>
    let stream := s.context.stream form {}
    some (String.join stream.chunks, stream.failure)

/-- The text of an export, and the failure that broke it off, if a route makes one. -/
def exported? (s : Service) (r : Request) (route : Route) : Option (String × Option Failure) :=
  match route.endpoint with
  | .export => s.exportOf r
  | _ => none

/-- The labels that a request is counted under. -/
def labelOf (r : Request) (template : Option String) (status : Nat) : StatusLabel :=
  ⟨⟨r.method, routeLabel (String.ofList r.target.path) template⟩, String.ofList (natText status)⟩

/-- How a request ends.  A redirect is an answer like others, and the request that follows it is
another one. -/
def finished (s : Service) (r : Request) : Finished :=
  match Routing.ofRequest (routeTable s.settings) r.method r.target.path with
  | .answered route values =>
    { label := labelOf r (some route.template) (s.routeAnswer r route values {}).answer.status
      escaped := s.escaped r route values
      lookup := s.lookup? r route values
      exported := s.exported? r route }
  | .refused route => { label := labelOf r (some route.template) 405 }
  | .redirected _ => { label := labelOf r none 307 }
  | .unknown => { label := labelOf r none 404 }

/-- The journal after a request, without the ones that follow a redirect. -/
def journalAfter (s : Service) (r : Request) (j : Journal) : Journal :=
  match Routing.ofRequest (routeTable s.settings) r.method r.target.path with
  | .answered route values =>
    let e := s.routeAnswer r route values j
    s.count r (some route.template) e.answer.status e.journal
  | .refused route => s.count r (some route.template) 405 j
  | .redirected _ => s.count r none 307 j
  | .unknown => s.count r none 404 j

/-- A request and those that follow its redirects. -/
def hops (s : Service) : Nat → Request → List Request
  | fuel, r =>
    match Routing.ofRequest (routeTable s.settings) r.method r.target.path with
    | .redirected path =>
      match fuel with
      | 0 => [r]
      | fuel + 1 => r :: s.hops fuel { r with target := r.target.redirected path }
    | _ => [r]

variable {s : Service} {r : Request} {route : Route} {values : List String}

theorem journal_follow (fuel : Nat) (r : Request) (j : Journal) :
    (s.follow fuel r j).journal = (s.hops fuel r).foldl (fun j r => s.journalAfter r j) j := by
  induction fuel generalizing r j with
  | zero =>
    unfold follow hops
    cases hroute : Routing.ofRequest (routeTable s.settings) r.method r.target.path <;>
      simp [journalAfter, hroute]
  | succ fuel ih =>
    unfold follow hops
    cases hroute : Routing.ofRequest (routeTable s.settings) r.method r.target.path <;>
      simp [journalAfter, hroute, ih]

/-! ## What a handler leaves -/

/-- The exchange has a status, and counted a lookup and an export in the metrics that there were.  A
failure that escaped is answered with 500, and one that broke off an export with 200. -/
structure Ends (e : Exchange) (m : Metrics) (status : Nat) (escaped : Option Failure)
    (lookup : Option (Except Failure TransactionDetails))
    (exported : Option (String × Option Failure)) : Prop where
  answered : e.answer.status = status
  counted : e.journal.metrics = (m.recordLookup lookup).recordExport (countedRows exported)
  escapes : ∀ f, escaped = some f → status = 500
  breaksOff : ∀ text f, exported = some (text, some f) → status = 200

/-- An exchange without lookup and export, that no failure left. -/
theorem ends_quiet {e : Exchange} {m : Metrics} {status : Nat} (hstatus : e.answer.status = status)
    (hmetrics : e.journal.metrics = m) : Ends e m status none none none :=
  ⟨hstatus, hmetrics, nofun, nofun⟩

/-- A form that fails leaves an internal error. -/
theorem queryForm_of_formFailure {f : Failure} (h : r.formFailure = some f) :
    r.queryForm = .error .internalError := by
  unfold Request.formFailure at h
  unfold Request.queryForm
  cases hform : r.form with
  | some form => simp [hform] at h
  | none =>
    simp only [hform] at h ⊢
    split at h
    · rename_i cause hissues hcheck
      rw [formOfParameters_of_nil hissues, hcheck]
      rfl
    · cases h

theorem listingAnswer_ends (s : Service) (r : Request) (j : Journal) :
    Ends (s.listingAnswer r j) j.metrics (s.listingAnswer r {}).answer.status (s.escapedListing r)
      none none := by
  unfold listingAnswer escapedListing
  cases hform : r.queryForm with
  | error a =>
    refine ⟨rfl, rfl, fun f hf => ?_, nofun⟩
    rw [queryForm_of_formFailure hf] at hform
    cases hform
    rfl
  | ok form =>
    simp only [ReportContext.answer_transactions form j]
    have hmetrics : ((s.contextFor r).transactions form j).journal.metrics = j.metrics :=
      ReportContext.metrics_transactions form j
    cases ((s.contextFor r).transactions form {}).answer with
    | ok records => exact ends_quiet rfl hmetrics
    | error f =>
      cases f with
      | unknownPeriod shown => exact ends_quiet rfl hmetrics
      | _ => exact ⟨rfl, hmetrics, fun _ _ => rfl, nofun⟩

theorem exportAnswer_ends (s : Service) (r : Request) (j : Journal) :
    Ends (s.exportAnswer r j) j.metrics (s.exportAnswer r {}).answer.status r.formFailure none
      (s.exportOf r) := by
  unfold exportAnswer exportOf
  cases hform : r.queryForm with
  | error a =>
    refine ⟨rfl, rfl, fun f hf => ?_, nofun⟩
    rw [queryForm_of_formFailure hf] at hform
    cases hform
    rfl
  | ok form =>
    refine ⟨rfl, ReportContext.metrics_stream form j, fun f hf => ?_, fun _ _ _ => rfl⟩
    rw [queryForm_of_formFailure hf] at hform
    cases hform

theorem detailsAnswer_ends (s : Service) (r : Request) (key : String) (j : Journal) :
    Ends (s.detailsAnswer r key j) j.metrics (s.detailsAnswer r key {}).answer.status
      (s.escapedDetails r key) (s.lookupOf r key) none := by
  unfold detailsAnswer escapedDetails lookupOf
  cases readIntegerText key with
  | error issue => exact ends_quiet rfl rfl
  | ok pk =>
    simp only [ReportContext.answer_details (.int pk) j]
    have hmetrics : ((s.contextFor r).details (.int pk) j).journal.metrics =
        j.metrics.recordLookup (some ((s.contextFor r).details (.int pk) {}).answer) :=
      ReportContext.metrics_details (.int pk) j
    cases hanswer : ((s.contextFor r).details (.int pk) {}).answer with
    | ok details =>
      rw [hanswer] at hmetrics
      exact ⟨rfl, hmetrics, nofun, nofun⟩
    | error f =>
      rw [hanswer] at hmetrics
      cases f with
      | notFound shown => exact ⟨rfl, hmetrics, nofun, nofun⟩
      | _ => exact ⟨rfl, hmetrics, fun _ _ => rfl, nofun⟩

theorem activeKeysAnswer_ends (s : Service) (r : Request) (chargeBoxId : String) (j : Journal) :
    Ends (s.activeKeysAnswer r chargeBoxId j) j.metrics
      (s.activeKeysAnswer r chargeBoxId {}).answer.status
      (failureOf ((s.contextFor r).activeKeys chargeBoxId {}).answer) none none := by
  unfold activeKeysAnswer ReportContext.activeKeys
  cases (s.contextFor r).read [] with
  | ok store => exact ends_quiet rfl rfl
  | error f => exact ⟨rfl, rfl, fun _ _ => rfl, nofun⟩

theorem readinessAnswer_ends (s : Service) (r : Request) (j : Journal) :
    Ends (s.readinessAnswer r j) j.metrics (s.readinessAnswer r {}).answer.status none none
      none := by
  unfold readinessAnswer
  cases (s.contextFor r).store with
  | none => exact ends_quiet rfl rfl
  | some store => exact ends_quiet rfl rfl

/-- What is counted of a route is what it was asked for. -/
theorem routeAnswer_ends (s : Service) (r : Request) (route : Route) (values : List String)
    (j : Journal) :
    Ends (s.routeAnswer r route values j) j.metrics (s.routeAnswer r route values {}).answer.status
      (s.escaped r route values) (s.lookup? r route values) (s.exported? r route) := by
  obtain ⟨template, methods, endpoint⟩ := route
  cases endpoint with
  | document => exact ends_quiet rfl rfl
  | documentPage => exact ends_quiet rfl rfl
  | metrics => exact ends_quiet rfl rfl
  | health => exact ends_quiet rfl rfl
  | readiness => exact readinessAnswer_ends s r j
  | listing => exact listingAnswer_ends s r j
  | «export» => exact exportAnswer_ends s r j
  | details =>
    cases values with
    | nil => exact ends_quiet rfl rfl
    | cons key rest => exact detailsAnswer_ends s r key j
  | activeKeys =>
    cases values with
    | nil => exact ends_quiet rfl rfl
    | cons chargeBoxId rest => exact activeKeysAnswer_ends s r chargeBoxId j

/-! ## Runs of requests -/

/-- The text of a status has three digits. -/
theorem natText_status {n : Nat} (hlow : 100 ≤ n) (hhigh : n < 1000) :
    natText n = [digitChar (n / 10 / 10), digitChar (n / 10 % 10), digitChar (n % 10)] := by
  rw [natText_of_ge (by omega), natText_of_ge (by omega), natText_of_lt (by omega)]
  rfl

/-- A count of a request is the record of how it ended, where metrics are enabled. -/
theorem metrics_count (henabled : s.settings.enableMetrics = true) (template : Option String)
    (status : Nat) (j : Journal) :
    (s.count r template status j).metrics = j.metrics.recordRequest (labelOf r template status) := by
  unfold count
  rw [henabled]
  rfl

/-- The step: after a request the metrics have counted how it ended. -/
theorem metrics_after (henabled : s.settings.enableMetrics = true) (r : Request) (j : Journal) :
    (s.journalAfter r j).metrics = j.metrics.record (s.finished r) := by
  unfold journalAfter finished
  cases Routing.ofRequest (routeTable s.settings) r.method r.target.path with
  | answered route values =>
    have hends := routeAnswer_ends s r route values j
    show (s.count r (some route.template) _ _).metrics = _
    rw [metrics_count henabled, hends.answered, hends.counted]
    rfl
  | refused route => exact metrics_count henabled _ _ j
  | redirected path => exact metrics_count henabled _ _ j
  | unknown => exact metrics_count henabled _ _ j

theorem exported_answered
    (hroute : Routing.ofRequest (routeTable s.settings) r.method r.target.path =
      .answered route values) : (s.finished r).exported = s.exported? r route := by
  unfold finished
  rw [hroute]

/-- The status under which a request is counted when a failure left it. -/
theorem finished_status (s : Service) (r : Request) :
    (∀ f, (s.finished r).escaped = some f → (s.finished r).label.status = "500") ∧
      ∀ text f, (s.finished r).exported = some (text, some f) →
        (s.finished r).label.status = "200" := by
  unfold finished
  cases Routing.ofRequest (routeTable s.settings) r.method r.target.path with
  | answered route values =>
    have hends := routeAnswer_ends s r route values {}
    constructor
    · intro f hf
      show String.ofList (natText _) = "500"
      rw [hends.escapes f hf, natText_status (by decide) (by decide)]
      rfl
    · intro text f hf
      show String.ofList (natText _) = "200"
      rw [hends.breaksOff text f hf, natText_status (by decide) (by decide)]
      rfl
  | refused route => exact ⟨nofun, nofun⟩
  | redirected path => exact ⟨nofun, nofun⟩
  | unknown => exact ⟨nofun, nofun⟩

end Service

/-- A request, and what reports are made from when it comes.  The database may change between
requests. -/
structure Visit where
  context : ReportContext
  request : Request

/-- How a visit to a service with some settings ends. -/
def Visit.finished (settings : Settings) (v : Visit) : Finished :=
  Service.finished ⟨v.context, settings⟩ v.request

/-- The journal after some visits, one after the other. -/
def journalOf (settings : Settings) (visits : List Visit) (j : Journal) : Journal :=
  visits.foldl (fun j v => Service.journalAfter ⟨v.context, settings⟩ v.request j) j

theorem metrics_journalOf {settings : Settings} (henabled : settings.enableMetrics = true)
    (visits : List Visit) (j : Journal) :
    (journalOf settings visits j).metrics =
      (visits.map (Visit.finished settings)).foldl Metrics.record j.metrics := by
  induction visits generalizing j with
  | nil => rfl
  | cons v visits ih =>
    have hstep : (Service.journalAfter ⟨v.context, settings⟩ v.request j).metrics =
        j.metrics.record (v.finished settings) := Service.metrics_after henabled v.request j
    rw [journalOf, List.foldl_cons, ← journalOf, ih, hstep]
    rfl

/-- Whatever is asked of a service that counts, and in whatever order, its books balance.  A failure
that escapes is counted as 500.  An export has sent its 200 before it reads a row, and is counted
with it also when it breaks off.  A request whose redirects are followed is a run of requests. -/
theorem Service.ledger_balances {settings : Settings} (henabled : settings.enableMetrics = true)
    (visits : List Visit) :
    (journalOf settings visits {}).metrics.Balances (visits.map (Visit.finished settings)) ∧
      (∀ v ∈ visits,
        (∀ f, (v.finished settings).escaped = some f →
          (v.finished settings).label.status = "500") ∧
        ∀ text f, (v.finished settings).exported = some (text, some f) →
          (v.finished settings).label.status = "200") ∧
      ∀ (v : Visit) (j : Journal),
        (Service.answer ⟨v.context, settings⟩ v.request j).journal =
          journalOf settings
            ((Service.hops ⟨v.context, settings⟩ redirectLimit v.request).map (Visit.mk v.context))
            j := by
  refine ⟨?_, ?_, ?_⟩
  · rw [metrics_journalOf henabled]
    exact Metrics.balances_empty.foldl_record _
  · intro v hv
    exact Service.finished_status ⟨v.context, settings⟩ v.request
  · intro v j
    rw [journalOf, List.foldl_map]
    exact Service.journal_follow redirectLimit v.request j

/-! ## An export that breaks off -/

/-- A visit that exports the session with the first integer above 64 bits. -/
def breakingVisit : Visit where
  context := ReportContext.tokyo newYear2026
  request :=
    { method := "GET", target := ⟨exportPath, []⟩,
      further := [("transaction_pk", "9223372036854775808")] }

/-- Two such visits are two requests of the books. -/
theorem Service.ledger_balances_breaking :
    (journalOf Settings.default [breakingVisit, breakingVisit] {}).metrics.requests.total = 2 := by
  have henabled : Settings.default.enableMetrics = true := rfl
  exact (ledger_balances henabled [breakingVisit, breakingVisit]).1.total

theorem exported_breakingVisit : ∃ text,
    (breakingVisit.finished Settings.default).exported =
      some (text, some (.write .integerRange)) := by
  have hroute : Routing.ofRequest (routeTable Settings.default) breakingVisit.request.method
      breakingVisit.request.target.path =
        .answered (getRoute "/api/transactions/export" .export) [] :=
    Service.routing_export (by decide)
  have hexported := Service.exported_answered (s := ⟨breakingVisit.context, Settings.default⟩) hroute
  exact ⟨_, hexported⟩

/-- A failure leaves the service and breaks off an export, and is not counted as an error. -/
theorem Service.export_breaksOff :
    (∃ text, (breakingVisit.finished Settings.default).exported =
        some (text, some (.write .integerRange))) ∧
      ∃ request, (breakingVisit.finished Settings.default).label.request = request ∧
        (journalOf Settings.default [breakingVisit] {}).metrics.requestErrors.lookup
          ⟨request, "500"⟩ = none ∧
        (journalOf Settings.default [breakingVisit] {}).metrics.requests.count
          ⟨request, "500"⟩ = 0 ∧
        (journalOf Settings.default [breakingVisit] {}).metrics.requests.count
          ⟨request, "200"⟩ = 1 := by
  obtain ⟨text, hexported⟩ := exported_breakingVisit
  have hstatus := (finished_status ⟨breakingVisit.context, Settings.default⟩
    breakingVisit.request).2 _ _ hexported
  have hmetrics : (journalOf Settings.default [breakingVisit] {}).metrics =
      ({} : Metrics).record (breakingVisit.finished Settings.default) :=
    metrics_journalOf rfl [breakingVisit] {}
  have hlabel : (breakingVisit.finished Settings.default).label =
      ⟨(breakingVisit.finished Settings.default).label.request, "200"⟩ := by
    rw [← hstatus]
    rfl
  have hcount : ∀ status, ({} : Metrics).requests.count
      ⟨(breakingVisit.finished Settings.default).label.request, status⟩ = 0 := fun _ => rfl
  refine ⟨⟨text, hexported⟩, _, rfl, ?_, ?_, ?_⟩
  · rw [hmetrics, Metrics.record_errors, hlabel]
    rfl
  · rw [hmetrics, Metrics.record_requests, Tally.count_add, hcount, hlabel]
    simp
  · rw [hmetrics, Metrics.record_requests, Tally.count_add, hcount, if_pos hlabel]

end ChargingReport
