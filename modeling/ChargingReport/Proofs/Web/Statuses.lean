import ChargingReport.Proofs.Report.Resolution
import ChargingReport.Proofs.Web.Parameters
import ChargingReport.Proofs.Web.Routing

/-!
# Statuses of answers

What a listing and a request for details are answered with, for every query string and for every
segment of a path, over a store whose references resolve and with times shown in UTC.

* In UTC every time can be shown (`ReportContext.storedTimes_utc`), so nothing fails while records are
  made.
* `Service.listing_status` follows a query string through the checks of its parameters and of the
  form to the database.
* `Service.details_status` does the same for a segment of a path.

There are two ways to fail.  A key that is an integer but does not fit into 64 bits passes all checks
and stops at the database, and a time that leaves the calendar on its way to UTC stops in the form.
`Service.report_statuses` says that nothing else is answered with 500, and `Service.report_overflows`
has a request of each kind.
-/

namespace ChargingReport

namespace Service

variable {v : Service} {r : Request} {s : Store} {now : Instant}

/-- A request whose database is in reach is answered from it. -/
theorem contextFor_up (hup : r.databaseDown = false) : v.contextFor r = v.context := by
  rw [contextFor, hup]
  rfl

/-! ## Listings -/

/-- The parameters of a request. -/
def parametersOf (r : Request) : List (String × String) :=
  mergeParameters r.target.parameters r.further

/-- The parameters are valid one by one, and the form that is made of them leaves the calendar or has
a key that does not fit into 64 bits. -/
def FormFails (parameters : List (String × String)) : Prop :=
  parameterIssues parameters = [] ∧
    ((∃ cause, QueryForm.check (formParameters parameters) = .error (.calendar cause)) ∨
      ∃ form, QueryForm.check (formParameters parameters) = .ok form ∧ ¬ form.KeyFits)

/-- A form that fails has a number or a time that goes too far. -/
theorem FormFails.overflows {parameters : List (String × String)} (h : FormFails parameters) :
    Overflows parameters := by
  obtain ⟨-, ⟨cause, hcause⟩ | ⟨form, hform, hkey⟩⟩ := h
  · exact overflows_of_calendar hcause
  · exact overflows_of_key hform hkey

/-- A form that can be made fails just when its key does not fit. -/
theorem formFails_of_form {parameters : List (String × String)} {form : QueryForm}
    (hissues : parameterIssues parameters = [])
    (hcheck : QueryForm.check (formParameters parameters) = .ok form) :
    FormFails parameters ↔ ¬ form.KeyFits := by
  constructor
  · rintro ⟨-, ⟨cause, hcause⟩ | ⟨other, hother, hkey⟩⟩
    · rw [hcheck] at hcause
      cases hcause
    · rw [hcheck] at hother
      cases hother
      exact hkey
  · exact fun hkey => ⟨hissues, Or.inr ⟨form, hcheck, hkey⟩⟩

/-- Parameters that are rejected do not fail. -/
theorem not_formFails_of_rejected {parameters : List (String × String)}
    (h : parameterIssues parameters ≠ [] ∨
      ∃ issues, QueryForm.check (formParameters parameters) = .error (.invalid issues)) :
    ¬ FormFails parameters := by
  rintro ⟨hissues, hfails⟩
  rcases h with hfound | ⟨issues, hinvalid⟩
  · exact hfound hissues
  · rw [hinvalid] at hfails
    obtain ⟨cause, hcause⟩ | ⟨form, hcheck, -⟩ := hfails
    · cases hcause
    · cases hcheck

/-- A listing whose form is checked is answered with 200 if its key fits, and with 500 if not. -/
theorem listing_of_form {form : QueryForm} (hquery : r.queryForm = .ok form)
    (hchecked : form.Checked) (hup : r.databaseDown = false) (hstore : v.context.store = some s)
    (hnow : v.context.clock.instant = .ok now) (hyear : now.InOrdinaryYear)
    (htimes : v.context.StoredTimesConvertible s) (j : Journal) :
    (form.KeyFits → (v.listingAnswer r j).answer.status = 200) ∧
      (¬ form.KeyFits → (v.listingAnswer r j).answer.status = 500) := by
  obtain ⟨conditions, hconditions, hfits, -⟩ := ReportContext.conditions_of_checked hchecked hnow
    (ReportContext.lookBackFits_of_ordinary hyear)
  constructor
  · intro hkey
    obtain ⟨records, hrecords, -⟩ := ReportContext.transactions_answer hstore hchecked hconditions
      (hfits.2 hkey) hnow (ReportContext.zoneReads_of_ordinary hyear) htimes j
    simp only [listingAnswer, hquery, contextFor_up hup, hrecords]
    rfl
  · intro hkey
    have hunfit : conditions.all Condition.fits = false :=
      Bool.eq_false_iff.2 fun hall => hkey (hfits.1 hall)
    have hrange := ReportContext.transactions_keyRange hstore hchecked hconditions hunfit j
    simp only [listingAnswer, hquery, contextFor_up hup, hrange]
    rfl

/-- A listing is answered with 500 when its form fails, and with 200 or 422 otherwise. -/
theorem listing_status (hform : r.form = none) (hup : r.databaseDown = false)
    (hstore : v.context.store = some s) (hnow : v.context.clock.instant = .ok now)
    (hyear : now.InOrdinaryYear) (htimes : v.context.StoredTimesConvertible s) (j : Journal) :
    (FormFails (parametersOf r) → (v.listingAnswer r j).answer.status = 500) ∧
      (¬ FormFails (parametersOf r) → (v.listingAnswer r j).answer.status = 200 ∨
        (v.listingAnswer r j).answer.status = 422) := by
  have hquery : r.queryForm = formOfParameters (parametersOf r) := by
    rw [Request.queryForm, hform]
    rfl
  rcases formOfParameters_cases (parametersOf r) with
    ⟨form, hok, hissues, hcheck⟩ | ⟨a, herror, hstatus, hrejected⟩ | ⟨cause, herror, hissues, hcheck⟩
  · obtain ⟨hlisted, hfailed⟩ := listing_of_form (hquery.trans hok) ⟨_, hcheck⟩ hup hstore hnow
      hyear htimes j
    rw [formFails_of_form hissues hcheck, not_not]
    exact ⟨hfailed, fun hkey => Or.inl (hlisted hkey)⟩
  · have hanswer : (v.listingAnswer r j).answer.status = 422 := by
      simp only [listingAnswer, hquery, herror, hstatus]
    exact ⟨fun hfails => absurd hfails (not_formFails_of_rejected hrejected),
      fun _ => Or.inr hanswer⟩
  · have hfailed : (v.listingAnswer r j).answer.status = 500 := by
      simp only [listingAnswer, hquery, herror]
      rfl
    exact ⟨fun _ => hfailed, fun hnot => absurd ⟨hissues, Or.inl ⟨cause, hcheck⟩⟩ hnot⟩

/-! ## Details -/

/-- The status of details by what is asked for.  A text that is no integer is rejected, and an integer
is looked up if it fits into 64 bits. -/
def detailsStatus (s : Store) (key : String) : Nat :=
  match readIntegerText key with
  | .error _ => 422
  | .ok pk =>
    if fitsInt64 pk then if s.transactions.any (fun t => t.pk == pk) then 200 else 404
    else 500

/-- Nothing but an integer that does not fit is answered with 500. -/
theorem detailsStatus_eq_500 {key : String} :
    detailsStatus s key = 500 ↔ ∃ pk, readIntegerText key = .ok pk ∧ fitsInt64 pk = false := by
  unfold detailsStatus
  split
  · rename_i hread
    simp [hread]
  · rename_i pk hread
    simp only [hread, Except.ok.injEq, exists_eq_left']
    split
    · rename_i hfits
      split <;> simp [hfits]
    · rename_i hfits
      simp [hfits]

/-- Details are answered with the status of what is asked for. -/
theorem details_status (hup : r.databaseDown = false) (hstore : v.context.store = some s)
    (hs : s.Satisfies Schema.declared) (hresolve : s.ReferencesResolve Schema.declared)
    (hnow : v.context.clock.instant = .ok now) (hyear : now.InOrdinaryYear)
    (htimes : v.context.StoredTimesConvertible s) (key : String) (j : Journal) :
    (v.detailsAnswer r key j).answer.status = detailsStatus s key := by
  unfold detailsAnswer detailsStatus
  cases readIntegerText key with
  | error issue => rfl
  | ok pk =>
    simp only [contextFor_up hup]
    cases hfits : fitsInt64 pk with
    | false =>
      rw [ReportContext.details_keyRange hstore hnow hfits]
      rfl
    | true =>
      by_cases hstored : ∃ t ∈ s.transactions, t.pk = pk
      · have hany : s.transactions.any (fun t => t.pk == pk) = true := by
          simpa [List.any_eq_true] using hstored
        obtain ⟨t, ht, rfl⟩ := hstored
        -- a join could lose the session, but its references resolve
        obtain ⟨row, hrow, rfl⟩ := hresolve.exists_row ht
        obtain ⟨d, hd, -⟩ := ReportContext.details_found hstore hs hnow
          (ReportContext.zoneReads_of_ordinary hyear) htimes hrow hfits j
        rw [hd, hany]
        rfl
      · have hany : s.transactions.any (fun t => t.pk == pk) = false := by
          rw [List.any_eq_false]
          intro t ht hpk
          exact hstored ⟨t, ht, beq_iff_eq.1 hpk⟩
        have hmissing := ReportContext.details_missing hstore hnow hfits
          (fun row hrow hpk => hstored ⟨row.transaction, hrow.1.1, hpk⟩) j
        rw [hmissing, hany]
        rfl

/-! ## Requests -/

/-- A request for the listing is answered by it. -/
theorem answer_listing (hmethod : r.method = "GET") (hpath : r.target.path = listingPath)
    (hdocument : ∀ route ∈ documentRoutes v.settings, route.fits r.target.path = false)
    (j : Journal) : (v.answer r j).answer = (v.listingAnswer r j).answer := by
  have hroute : Routing.ofRequest (routeTable v.settings) "GET" r.target.path =
      .answered (getRoute "/api/transactions" .listing) [] := by
    rw [hpath] at hdocument ⊢
    exact Routing.ofRequest_listing hdocument
  exact answer_of_route hmethod hroute j

/-- A request for a segment below the listing is answered by the details of this segment, unless it
leads to the export. -/
theorem answer_segment {segment : List Char} (hmethod : r.method = "GET")
    (hpath : r.target.path = segmentPath segment) (hne : segment ≠ []) (hslash : '/' ∉ segment)
    (hexport : exportRoute.fits (segmentPath segment) = false)
    (hdocument : ∀ route ∈ documentRoutes v.settings, route.fits r.target.path = false)
    (j : Journal) :
    (v.answer r j).answer = (v.detailsAnswer r (String.ofList segment) j).answer := by
  have hroute : Routing.ofRequest (routeTable v.settings) "GET" r.target.path =
      .answered detailsRoute [String.ofList segment] := by
    rw [hpath] at hdocument ⊢
    exact Routing.ofRequest_details hne hslash hexport hdocument
  exact answer_of_route hmethod hroute j

/-- A listing fails just when its form does, which takes a number or a time that goes too far, and a
segment below it is answered with the status of what is asked for.  All other answers are 200, 404 or
422. -/
theorem report_statuses {v : Service} {r : Request} {now : Instant} (writes : List Write)
    (hresolve : (Store.empty.run Schema.declared writes).ReferencesResolve Schema.declared)
    (hstore : v.context.store = some (Store.empty.run Schema.declared writes))
    (hzone : v.context.displayZone = "UTC") (hnow : v.context.clock.instant = .ok now)
    (hyear : now.InOrdinaryYear) (hmethod : r.method = "GET") (hform : r.form = none)
    (hup : r.databaseDown = false)
    (hdocument : ∀ route ∈ documentRoutes v.settings, route.fits r.target.path = false)
    (j : Journal) :
    (r.target.path = listingPath →
      (FormFails (parametersOf r) → Overflows (parametersOf r) ∧
        (v.answer r j).answer.status = 500) ∧
      (¬ FormFails (parametersOf r) → (v.answer r j).answer.status = 200 ∨
        (v.answer r j).answer.status = 422)) ∧
    ∀ segment, segment ≠ [] → '/' ∉ segment → exportRoute.fits (segmentPath segment) = false →
      r.target.path = segmentPath segment →
      (v.answer r j).answer.status =
        detailsStatus (Store.empty.run Schema.declared writes) (String.ofList segment) := by
  have hs : (Store.empty.run Schema.declared writes).Satisfies Schema.declared :=
    Store.run_satisfies Store.empty_satisfies writes
  have htimes := ReportContext.storedTimes_utc hzone (Store.empty.run Schema.declared writes)
  constructor
  · intro hpath
    obtain ⟨hfails, hanswers⟩ := listing_status hform hup hstore hnow hyear htimes j
    rw [answer_listing hmethod hpath hdocument]
    exact ⟨fun h => ⟨h.overflows, hfails h⟩, hanswers⟩
  · intro segment hne hslash hexport hpath
    rw [answer_segment hmethod hpath hne hslash hexport hdocument]
    exact details_status hup hstore hs hresolve hnow hyear htimes _ j

/-- The service on the small store, in UTC. -/
def utc : Service :=
  ⟨{ ReportContext.tokyo newYear2026 with displayZone := "UTC" }, Settings.default⟩

/-- A request for a segment below the listing. -/
def segmentRequest (segment : List Char) : Request :=
  { method := "GET", target := ⟨segmentPath segment, []⟩ }

/-- A request for the listing with some parameters. -/
def listingRequest (parameters : List (String × String)) : Request :=
  { method := "GET", target := ⟨listingPath, []⟩, further := parameters }

theorem run_smallWrites_resolve :
    (Store.empty.run Schema.declared Store.smallWrites).ReferencesResolve Schema.declared := by
  rw [Store.run_smallWrites]
  decide

/-- A key that is stored is answered with 200, one that is not with 404, and a text that is no key
with 422. -/
theorem report_statuses_utc :
    (utc.answer (segmentRequest "7".toList) {}).answer.status = 200 ∧
      (utc.answer (segmentRequest "8".toList) {}).answer.status = 404 ∧
      (utc.answer (segmentRequest "seven".toList) {}).answer.status = 422 := by
  have hstatus : ∀ segment : List Char, segment ≠ [] → '/' ∉ segment →
      exportRoute.fits (segmentPath segment) = false →
      (∀ route ∈ documentRoutes utc.settings, route.fits (segmentPath segment) = false) →
      (utc.answer (segmentRequest segment) {}).answer.status =
        detailsStatus Store.small (String.ofList segment) := by
    intro segment hne hslash hexport hdocument
    obtain ⟨-, hanswer⟩ := @report_statuses utc (segmentRequest segment) newYear2026
      Store.smallWrites run_smallWrites_resolve (congrArg some Store.run_smallWrites.symm) rfl
      (ReportContext.tokyo_instant newYear2026 1) (by decide) rfl rfl rfl hdocument {}
    rw [Store.run_smallWrites] at hanswer
    exact hanswer segment hne hslash hexport rfl
  refine ⟨(hstatus _ ?_ ?_ ?_ ?_).trans ?_, (hstatus _ ?_ ?_ ?_ ?_).trans ?_,
    (hstatus _ ?_ ?_ ?_ ?_).trans ?_⟩ <;> decide

/-- The first integer above 64 bits names no session, and a time of the first year is a time.  Both
fail. -/
theorem report_overflows :
    (Store.empty.run Schema.declared Store.smallWrites).ReferencesResolve Schema.declared ∧
      utc.context.store = some (Store.empty.run Schema.declared Store.smallWrites) ∧
      readIntegerText "9223372036854775808" = .ok 9223372036854775808 ∧
      (∀ t ∈ (Store.empty.run Schema.declared Store.smallWrites).transactions,
        t.pk ≠ 9223372036854775808) ∧
      (utc.answer (segmentRequest "9223372036854775808".toList) {}).answer.status = 500 ∧
      (utc.answer (listingRequest [("from", "0001-01-01T00:00:00+01:00")]) {}).answer.status =
        500 := by
  have hstore : utc.context.store = some Store.small := rfl
  have hnow := ReportContext.tokyo_instant newYear2026 1
  have htimes : utc.context.StoredTimesConvertible Store.small :=
    ReportContext.storedTimes_utc rfl Store.small
  have hs : Store.small.Satisfies Schema.declared := by
    rw [← Store.run_smallWrites]
    exact Store.run_satisfies Store.empty_satisfies _
  have hfails : FormFails (parametersOf (listingRequest [("from", "0001-01-01T00:00:00+01:00")])) :=
    ⟨rfl, Or.inl ⟨.outOfRange, rfl⟩⟩
  refine ⟨run_smallWrites_resolve, congrArg some Store.run_smallWrites.symm, by decide, ?_, ?_, ?_⟩
  · rw [Store.run_smallWrites]
    decide
  · have hresolve := run_smallWrites_resolve
    rw [Store.run_smallWrites] at hresolve
    rw [answer_segment rfl rfl (by decide) (by decide) (by decide) (by decide),
      details_status rfl hstore hs hresolve hnow (by decide) htimes, detailsStatus_eq_500]
    exact ⟨9223372036854775808, by decide, by decide⟩
  · rw [answer_listing rfl rfl (by decide)]
    exact (listing_status rfl rfl hstore hnow (by decide) htimes {}).1 hfails

end Service

end ChargingReport
