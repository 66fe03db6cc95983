import ChargingReport.Proofs.Report.Streaming
import ChargingReport.Proofs.Web.Statuses

/-!
# Forms of requests

The form of a request is read in two steps, first the parameters one by one and then a form made of
their values.  The texts of the parameters are also an object, which is checked in one step.

* `formOfParameters_eq_ok` says that the two ways give the same forms, and
  `formOfParameters_rejected` when the parameters are rejected.
* A report on a form is answered with 200 or 500 (`Service.listingAnswer_status`,
  `Service.exportAnswer_status`), so that only parameters are rejected with 422
  (`Service.listing_rejected`, `Service.export_rejected`).

`Service.forms_agree` puts them together.  An object that is rejected is answered with 422.  One that
leaves the calendar is answered with 422 as well, if there is an issue with another parameter, and
fails if there is none: `Service.rejected_past_calendar` is a request of the first kind.
-/

namespace ChargingReport

/-! ## Two ways to a form -/

section

variable {parameters : List (String × String)}

/-- Parameters give the form that the object of their texts gives, and no other. -/
theorem formOfParameters_eq_ok {form : QueryForm} : formOfParameters parameters = .ok form ↔
    QueryForm.check (formParameters parameters) = .ok form := by
  constructor
  · intro h
    rcases formOfParameters_cases parameters with ⟨other, hok, -, hcheck⟩ | ⟨_, herror, -⟩ |
      ⟨_, herror, -⟩
    · rw [h] at hok
      cases hok
      exact hcheck
    · rw [h] at herror
      cases herror
    · rw [h] at herror
      cases herror
  · exact formOfParameters_of_check

/-- Parameters are rejected if their object is, or if it leaves the calendar and one of them has an
issue. -/
theorem formOfParameters_rejected :
    (∃ a, formOfParameters parameters = .error a ∧ a.status = 422) ↔
      (∃ issues, QueryForm.check (formParameters parameters) = .error (.invalid issues)) ∨
        (∃ cause, QueryForm.check (formParameters parameters) = .error (.calendar cause)) ∧
          parameterIssues parameters ≠ [] := by
  by_cases hissues : parameterIssues parameters = []
  · rw [formOfParameters_of_nil hissues]
    cases QueryForm.check (formParameters parameters) with
    | ok form => simp [Except.mapError]
    | error e =>
      cases e with
      | invalid issues => simp [Except.mapError, FormError.answer, Answer.ofJson]
      | calendar cause => simp [Except.mapError, FormError.answer, Answer.internalError, hissues]
  · have hrejected : ∃ a, formOfParameters parameters = .error a ∧ a.status = 422 :=
      ⟨_, formOfParameters_of_issues hissues, rfl⟩
    refine iff_of_true hrejected ?_
    cases hcheck : QueryForm.check (formParameters parameters) with
    | ok form => exact absurd (parameterIssues_of_check hcheck) hissues
    | error e =>
      cases e with
      | invalid issues => exact Or.inl ⟨issues, rfl⟩
      | calendar cause => exact Or.inr ⟨⟨cause, rfl⟩, hissues⟩

end

/-! ## Answers -/

namespace Service

variable {v : Service} {r : Request}

/-- With a form, a listing is not rejected. -/
theorem listingAnswer_status {form : QueryForm} (hform : r.queryForm = .ok form) (j : Journal) :
    (v.listingAnswer r j).answer.status = 200 ∨ (v.listingAnswer r j).answer.status = 500 := by
  simp only [listingAnswer, hform]
  split
  · exact Or.inl rfl
  · exact Or.inr rfl
  · exact Or.inr rfl

/-- With a form, an export sends its status before it can fail. -/
theorem exportAnswer_status {form : QueryForm} (hform : r.queryForm = .ok form) (j : Journal) :
    (v.exportAnswer r j).answer.status = 200 := by
  simp only [exportAnswer, hform]

theorem listing_rejected (j : Journal) : (v.listingAnswer r j).answer.status = 422 ↔
    ∃ a, r.queryForm = .error a ∧ a.status = 422 := by
  cases hform : r.queryForm with
  | ok form =>
    have hstatus := listingAnswer_status (v := v) hform j
    refine iff_of_false (fun h => ?_) nofun
    omega
  | error a => simp [listingAnswer, hform]

theorem export_rejected (j : Journal) : (v.exportAnswer r j).answer.status = 422 ↔
    ∃ a, r.queryForm = .error a ∧ a.status = 422 := by
  cases hform : r.queryForm with
  | ok form =>
    have hstatus := exportAnswer_status (v := v) hform j
    refine iff_of_false (fun h => ?_) nofun
    omega
  | error a => simp [exportAnswer, hform]

/-- A request for a report is answered by the listing or by the export. -/
theorem answer_of_report (hmethod : r.method = "GET")
    (hreport : r.target.path = listingPath ∨ r.target.path = exportPath)
    (hdocument : ∀ route ∈ documentRoutes v.settings, route.fits r.target.path = false)
    (j : Journal) : (v.answer r j).answer = (v.listingAnswer r j).answer ∨
      (v.answer r j).answer = (v.exportAnswer r j).answer := by
  rcases hreport with hlisting | hexport
  · exact Or.inl (answer_listing hmethod hlisting hdocument j)
  · rw [hexport] at hdocument
    exact Or.inr (answer_of_export hmethod hexport hdocument j)

/-- A request for a listing or an export has the form of the object of its parameters.  It is answered
with 422 just when this object is rejected, or leaves the calendar beside an issue with a parameter.
An object that leaves the calendar without such an issue is an internal error. -/
theorem forms_agree (hmethod : r.method = "GET") (hform : r.form = none)
    (hreport : r.target.path = listingPath ∨ r.target.path = exportPath)
    (hdocument : ∀ route ∈ documentRoutes v.settings, route.fits r.target.path = false)
    (j : Journal) :
    (∀ form, r.queryForm = .ok form ↔
      QueryForm.check (formParameters (parametersOf r)) = .ok form) ∧
    ((v.answer r j).answer.status = 422 ↔
      (∃ issues, QueryForm.check (formParameters (parametersOf r)) = .error (.invalid issues)) ∨
        (∃ cause, QueryForm.check (formParameters (parametersOf r)) = .error (.calendar cause)) ∧
          parameterIssues (parametersOf r) ≠ []) ∧
    ∀ cause, QueryForm.check (formParameters (parametersOf r)) = .error (.calendar cause) →
      parameterIssues (parametersOf r) = [] → (v.answer r j).answer = .internalError := by
  have hquery : r.queryForm = formOfParameters (parametersOf r) := by
    rw [Request.queryForm, hform]
    rfl
  have hanswer := answer_of_report hmethod hreport hdocument j
  refine ⟨fun form => ?_, ?_, fun cause hcause hissues => ?_⟩
  · rw [hquery]
    exact formOfParameters_eq_ok
  · rw [← formOfParameters_rejected, ← hquery]
    rcases hanswer with hlisting | hexport
    · rw [hlisting]
      exact listing_rejected j
    · rw [hexport]
      exact export_rejected j
  · have hfails : r.queryForm = .error .internalError := by
      rw [hquery, formOfParameters_of_nil hissues, hcause]
      rfl
    rcases hanswer with hlisting | hexport
    · rw [hlisting, listingAnswer, hfails]
    · rw [hexport, exportAnswer, hfails]

/-- A blank filter is not set, and the name of a type has capital letters. -/
theorem forms_agree_utc :
    (listingRequest [("charge_box_id", " ")]).queryForm = .ok {} ∧
      (utc.answer (listingRequest [("type", "active")]) {}).answer.status = 422 := by
  obtain ⟨haccepted, -, -⟩ := forms_agree (v := utc) (r := listingRequest [("charge_box_id", " ")])
    rfl rfl (Or.inl rfl) (by decide) {}
  obtain ⟨-, hrejected, -⟩ := forms_agree (v := utc) (r := listingRequest [("type", "active")])
    rfl rfl (Or.inl rfl) (by decide) {}
  exact ⟨(haccepted {}).2 rfl, hrejected.2 (Or.inl ⟨_, rfl⟩)⟩

/-- The first midnight of the calendar, an hour ahead of UTC, is outside the calendar in UTC.  A
request whose key is no integer does not come to that, while it ends the check of the object. -/
theorem rejected_past_calendar :
    (utc.answer (listingRequest [("transaction_pk", "x"), ("from", "0001-01-01T00:00:00+01:00")])
        {}).answer.status = 422 ∧
      ¬ ∃ issues, QueryForm.check (formParameters
        [("transaction_pk", "x"), ("from", "0001-01-01T00:00:00+01:00")]) =
          .error (.invalid issues) := by
  have hcheck : QueryForm.check (formParameters
      [("transaction_pk", "x"), ("from", "0001-01-01T00:00:00+01:00")]) =
        .error (.calendar .outOfRange) := rfl
  have hissues : parameterIssues
      [("transaction_pk", "x"), ("from", "0001-01-01T00:00:00+01:00")] ≠ [] := List.cons_ne_nil _ _
  constructor
  · rw [answer_listing rfl rfl (by decide), listing_rejected]
    exact ⟨_, formOfParameters_of_issues hissues, rfl⟩
  · rintro ⟨issues, hinvalid⟩
    rw [hcheck] at hinvalid
    cases hinvalid

end Service

end ChargingReport
