import ChargingReport.Proofs.Report.Refusal
import ChargingReport.Proofs.Report.Streaming
import ChargingReport.Proofs.Web.Statuses

/-!
# Answers to refused queries

What the two routes that take a form answer when the form is refused.

* A listing makes its conditions before there is an answer.  An unknown period is answered with 500
  and what is wrong, and is logged; any other failure is a plain internal error
  (`Service.listingAnswer_refused`).
* An export makes them when its text is read, and its status is sent by then.  It is answered with
  200 and no text at all (`Service.exportAnswer_refused`).

`Service.bare_period_answers` has the whole exchange on both routes for a text in the place of a
period.  `Service.bare_period_unreported` has an export and a listing that do not say what is wrong.
-/

namespace ChargingReport

namespace Service

/-- The answer to a query that is not well configured. -/
def invalidConfiguration : Answer := .ofJson 500 (detailBody "Invalid query configuration")

/-- The log entry of a query that is not well configured. -/
def refusalEntry (f : Failure) : LogEntry :=
  ⟨.error, "chargeview.api.routes.transactions", "transaction query rejected",
    [("error", .text f.message)]⟩

/-- The answer of an export that has sent its status, and no text. -/
def emptyExport : Answer :=
  ⟨200, "text/csv; charset=utf-8", .text "", some "attachment; filename=\"transactions.csv\""⟩

variable {v : Service} {r : Request} {form : QueryForm} {f : Failure} {a : FormArguments}
  {shown : String} {now : Instant}

/-! ## Handlers -/

theorem listingAnswer_refused (hform : r.queryForm = .ok form)
    (hrefused : (v.contextFor r).Refuses form f) (j : Journal) :
    ((∃ shown, f = .unknownPeriod shown) →
      v.listingAnswer r j = ⟨invalidConfiguration, j.addLog (refusalEntry f)⟩) ∧
    ((∀ shown, f ≠ .unknownPeriod shown) → v.listingAnswer r j = ⟨.internalError, j⟩) := by
  unfold listingAnswer
  simp only [hform, hrefused.listing]
  cases f with
  | unknownPeriod shown => exact ⟨fun _ => rfl, fun hother => absurd rfl (hother shown)⟩
  | _ =>
    refine ⟨fun hunknown => ?_, fun _ => rfl⟩
    obtain ⟨_, hshown⟩ := hunknown
    cases hshown

theorem exportAnswer_refused (hform : r.queryForm = .ok form)
    (hrefused : v.context.Refuses form f) (j : Journal) : v.exportAnswer r j = ⟨emptyExport, j⟩ := by
  unfold exportAnswer
  simp only [hform, hrefused.streaming]
  rfl

/-! ## Requests -/

/-- A clock that shows an instant does so for every request. -/
theorem contextFor_clock (v : Service) (r : Request) :
    (v.contextFor r).clock = v.context.clock := by
  unfold contextFor
  split <;> rfl

/-- A form with a text in the place of its period is answered with 500 by a listing.  The answer says
what is wrong unless the text is the name of a period that looks back some days.  An export is
answered with 200 and stays empty, whatever the text is. -/
theorem bare_period_answers (hmethod : r.method = "GET") (hform : r.form = some a.unchecked)
    (hperiod : a.period = some (.input (.text shown))) (hclock : v.context.clock.instant = .ok now)
    (hdocument : ∀ route ∈ documentRoutes v.settings, route.fits r.target.path = false)
    (j : Journal) :
    (r.target.path = listingPath → v.answer r j =
      if shown ∈ lookBackNames then
        ⟨.internalError, v.count r (some "/api/transactions") 500 j⟩
      else ⟨invalidConfiguration, v.count r (some "/api/transactions") 500
        (j.addLog (refusalEntry (.unknownPeriod shown)))⟩) ∧
    (r.target.path = exportPath → v.answer r j =
      ⟨emptyExport, v.count r (some "/api/transactions/export") 200 j⟩) := by
  have hquery : r.queryForm = .ok a.unchecked := by
    rw [Request.queryForm, hform]
  constructor
  · intro hpath
    have hroute : Routing.ofRequest (routeTable v.settings) "GET" r.target.path =
        .answered (getRoute "/api/transactions" .listing) [] := by
      rw [hpath] at hdocument ⊢
      exact Routing.ofRequest_listing hdocument
    have hrefused : (v.contextFor r).Refuses a.unchecked (QueryForm.uncheckedPeriod (.text shown)) :=
      ReportContext.refuses_of_conditions
        (ReportContext.conditions_bare hperiod ((contextFor_clock v r).symm ▸ hclock))
    obtain ⟨hunknown, hother⟩ := listingAnswer_refused hquery hrefused j
    have hanswer : v.routeAnswer r (getRoute "/api/transactions" .listing) [] j =
        v.listingAnswer r j := rfl
    rw [answer_eq_of_route hmethod hroute, hanswer]
    rw [QueryForm.uncheckedPeriod_text] at hunknown hother
    by_cases hname : shown ∈ lookBackNames
    · rw [if_pos hname] at hother ⊢
      rw [hother (Failure.noInterval_ne_unknownPeriod _)]
      rfl
    · rw [if_neg hname] at hunknown ⊢
      rw [hunknown ⟨shown, rfl⟩]
      rfl
  · intro hpath
    have hroute : Routing.ofRequest (routeTable v.settings) "GET" r.target.path =
        .answered (getRoute "/api/transactions/export" .export) [] := by
      rw [hpath] at hdocument ⊢
      exact routing_export hdocument
    have hrefused := ReportContext.refuses_of_conditions
      (ReportContext.conditions_bare hperiod hclock)
    have hanswer : v.routeAnswer r (getRoute "/api/transactions/export" .export) [] j =
        v.exportAnswer r j := rfl
    rw [answer_eq_of_route hmethod hroute, hanswer, exportAnswer_refused hquery hrefused]
    rfl

/-- A request with a text in the place of the period. -/
def bareRequest (path : List Char) (shown : String) : Request :=
  { method := "GET", target := ⟨path, []⟩,
    form := some (ReportContext.bareArguments shown).unchecked }

/-- A listing that says what is wrong. -/
theorem bare_period_answers_utc :
    (utc.answer (bareRequest listingPath "LAST_WEEK") {}).answer = invalidConfiguration := by
  have hanswers := bare_period_answers (v := utc) (r := bareRequest listingPath "LAST_WEEK")
    (a := ReportContext.bareArguments "LAST_WEEK") rfl rfl rfl
    (ReportContext.tokyo_instant newYear2026 1) (by decide) {}
  rw [hanswers.1 rfl, if_neg (by decide)]

/-- An export with an unknown period is answered with 200, and a listing with the name of a period
that looks back ten days does not say what is wrong. -/
theorem bare_period_unreported :
    (utc.answer (bareRequest exportPath "LAST_WEEK") {}).answer.status ≠ 500 ∧
      (utc.answer (bareRequest listingPath "LAST_10") {}).answer ≠ invalidConfiguration := by
  have hclock := ReportContext.tokyo_instant newYear2026 1
  constructor
  · have hrefused : utc.context.Refuses (ReportContext.bareArguments "LAST_WEEK").unchecked _ :=
      ReportContext.refuses_of_conditions (ReportContext.conditions_bare rfl hclock)
    rw [answer_of_export rfl rfl (by decide), exportAnswer_refused rfl hrefused]
    decide
  · have hrefused : utc.context.Refuses (ReportContext.bareArguments "LAST_10").unchecked _ :=
      ReportContext.refuses_of_conditions (ReportContext.conditions_bare rfl hclock)
    rw [QueryForm.uncheckedPeriod_text, if_pos (by decide)] at hrefused
    obtain ⟨-, hother⟩ := listingAnswer_refused (v := utc) (r := bareRequest listingPath "LAST_10")
      rfl hrefused {}
    rw [answer_listing rfl rfl (by decide), hother (Failure.noInterval_ne_unknownPeriod _)]
    intro hsame
    exact absurd (congrArg Answer.contentType hsame) (by decide)

end Service

end ChargingReport
