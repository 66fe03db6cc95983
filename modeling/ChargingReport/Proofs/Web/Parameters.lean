import ChargingReport.Proofs.Except
import ChargingReport.Proofs.Form.Checked
import ChargingReport.Proofs.Query.Criteria
import ChargingReport.Web.Service

/-!
# Forms from parameters

* `formParameters_field` says that a field of a form is the parameter with its name.
* `FieldReadings.form_calendar` says when the period of a form leaves the calendar.
* `Overflows` are the parameters with a number or a time that is read and then goes too far.  It is
  behind every key that does not fit (`overflows_of_key`), and behind every form that leaves the
  calendar (`overflows_of_calendar`).
* Parameters are read one by one, and then a form is made of their values.  `readings_ofValues` says
  that this form reads them as the object of the parameters is read, and `parameterIssues_eq_nil` when
  it comes to that.
* `formOfParameters_cases` are the three things that come of parameters: a form, a rejection, and a
  failure.
-/

namespace ChargingReport

/-! ## Fields -/

/-- A name finds its own value, if it is among the names. -/
theorem lookup_filterMap {α β : Type} (names : List String) (value : String → Option α)
    (wrap : α → β) (name : String) :
    (names.filterMap fun n => (value n).map fun v => (n, wrap v)).lookup name =
      if name ∈ names then (value name).map wrap else none := by
  induction names with
  | nil => rfl
  | cons first names ih =>
    cases hvalue : value first with
    | some v =>
      rw [List.filterMap_cons_some (by rw [hvalue]; rfl), List.lookup_cons]
      by_cases hname : name = first
      · simp [hname, hvalue]
      · rw [beq_eq_false_iff_ne.2 hname, ih]
        simp [hname]
    | none =>
      rw [List.filterMap_cons_none (by rw [hvalue]; rfl), ih]
      by_cases hname : name = first
      · -- the name stands for nothing, wherever it is found
        simp [hname, hvalue]
      · simp [hname]

/-- The names of the parameters of a form. -/
def parameterNames : List String :=
  ["transaction_pk", "charge_box_id", "ocpp_id_tag", "type", "period_type", "from", "to"]

/-- A field of a form is the parameter with its name, which is a text. -/
theorem formParameters_field (parameters : List (String × String)) (name : String) :
    (formParameters parameters).field? name =
      if name ∈ parameterNames then (parameters.lookup name).map Json.text else none := by
  have hfields : (formParameters parameters).fields.reverse =
      parameterNames.reverse.filterMap fun n =>
        (parameters.lookup n).map fun v => (n, Json.text v) := by
    rw [List.filterMap_reverse]
    rfl
  rw [Json.field?, hfields, lookup_filterMap]
  simp only [List.mem_reverse]

/-- A key that was read from a parameter was read as an integer. -/
theorem transactionPk_ofParameters {parameters : List (String × String)} {pk : Int}
    (h : (FieldReadings.ofJson (formParameters parameters)).transactionPk = .ok (some pk)) :
    ∃ text, parameters.lookup "transaction_pk" = some text ∧ readIntegerText text = .ok pk := by
  have hfield := formParameters_field parameters "transaction_pk"
  rw [if_pos (by decide)] at hfield
  simp only [FieldReadings.ofJson, hfield] at h
  cases hvalue : parameters.lookup "transaction_pk" with
  | none =>
    rw [hvalue] at h
    cases h
  | some text =>
    rw [hvalue] at h
    obtain ⟨n, hn, hpk⟩ := map_eq_ok.1 (h : (readIntegerText text).map some = .ok (some pk))
    cases hpk
    exact ⟨text, rfl, hn⟩

/-- An end of the period that was read from a parameter was read as a time. -/
theorem readEnd_ofParameter {parameters : List (String × String)} {name : String} {stamp : Stamp}
    (h : readField readEnd none ((parameters.lookup name).map Json.text) = .ok (some stamp)) :
    ∃ text, parameters.lookup name = some text ∧ readMomentText text = .ok stamp := by
  cases hvalue : parameters.lookup name with
  | none =>
    rw [hvalue] at h
    cases h
  | some text =>
    rw [hvalue] at h
    obtain ⟨s, hs, hstamp⟩ := map_eq_ok.1 (h : (readMomentText text).map some = .ok (some stamp))
    cases hstamp
    exact ⟨text, rfl, hs⟩

/-! ## Forms -/

/-- A form that leaves the calendar has an end of its period that does. -/
theorem FieldReadings.form_calendar {r : FieldReadings} {cause : CalendarError}
    (h : r.form = .error (.calendar cause)) :
    ∃ stamp, (r.earliest = .ok (some stamp) ∨ r.latest = .ok (some stamp)) ∧
      stamp.instant? = none := by
  have hend : ∀ {reading : Except Issue (Option Stamp)} {cause : CalendarError},
      readingInstant reading = .error cause →
      ∃ stamp, reading = .ok (some stamp) ∧ stamp.instant? = none := by
    intro reading cause hreading
    match reading with
    | .error e => cases hreading
    | .ok none => cases hreading
    | .ok (some stamp) =>
      refine ⟨stamp, rfl, ?_⟩
      cases hinstant : stamp.instant? with
      | none => rfl
      | some i =>
        have hok : stamp.instant = .ok i := by rw [Stamp.instant, hinstant]
        change stamp.instant.map some = .error cause at hreading
        rw [hok] at hreading
        cases hreading
  unfold FieldReadings.form at h
  split at h
  · rename_i hearliest
    obtain ⟨stamp, hstamp, hnone⟩ := hend hearliest
    exact ⟨stamp, Or.inl hstamp, hnone⟩
  · rename_i hlatest _
    obtain ⟨stamp, hstamp, hnone⟩ := hend hlatest
    exact ⟨stamp, Or.inr hstamp, hnone⟩
  · split at h
    · cases h
    · unfold FieldValues.form at h
      split at h <;> cases h

/-! ## What comes of parameters -/

/-- The parameters have a number or a time that is read and then goes too far: a key that does not
fit into 64 bits, or an end of the period that leaves the calendar on its way to UTC. -/
def Overflows (parameters : List (String × String)) : Prop :=
  (∃ text pk, parameters.lookup "transaction_pk" = some text ∧ readIntegerText text = .ok pk ∧
      fitsInt64 pk = false) ∨
    ∃ name ∈ ["from", "to"], ∃ text stamp, parameters.lookup name = some text ∧
      readMomentText text = .ok stamp ∧ stamp.instant? = none

/-- A form from parameters whose key does not fit has a parameter with this key. -/
theorem overflows_of_key {parameters : List (String × String)} {form : QueryForm}
    (h : QueryForm.check (formParameters parameters) = .ok form) (hkey : ¬ form.KeyFits) :
    Overflows parameters := by
  simp only [QueryForm.KeyFits, not_forall, Bool.not_eq_true] at hkey
  obtain ⟨pk, hpk, hfits⟩ := hkey
  obtain ⟨values, hgive, hform⟩ := QueryForm.check_eq_ok h
  rw [hform.criteria] at hpk
  have hread := hgive.transactionPk.trans (congrArg Except.ok hpk)
  obtain ⟨text, htext, hinteger⟩ := transactionPk_ofParameters hread
  exact Or.inl ⟨text, pk, htext, hinteger, hfits⟩

/-- A form from parameters that leaves the calendar has a parameter with such a time. -/
theorem overflows_of_calendar {parameters : List (String × String)} {cause : CalendarError}
    (h : QueryForm.check (formParameters parameters) = .error (.calendar cause)) :
    Overflows parameters := by
  obtain ⟨stamp, hread, hnone⟩ := FieldReadings.form_calendar h
  have hfrom := formParameters_field parameters "from"
  have hfrom' := formParameters_field parameters "from_"
  have hto := formParameters_field parameters "to"
  rw [if_pos (by decide)] at hfrom hto
  rw [if_neg (by decide)] at hfrom'
  -- parameters have the alias alone, so the other name of the field is never there
  simp only [FieldReadings.ofJson, hfrom, hfrom', hto, Option.or_none] at hread
  rcases hread with hfirst | hlast
  · obtain ⟨text, htext, hmoment⟩ := readEnd_ofParameter hfirst
    exact Or.inr ⟨"from", by decide, text, stamp, htext, hmoment, hnone⟩
  · obtain ⟨text, htext, hmoment⟩ := readEnd_ofParameter hlast
    exact Or.inr ⟨"to", by decide, text, stamp, htext, hmoment, hnone⟩

/-- A parameter without a type of its own is any text. -/
theorem readOptionalText_ofParameter (parameters : List (String × String)) {name : String}
    (hname : name ∈ parameterNames) :
    readField readOptionalText none ((formParameters parameters).field? name) =
      .ok (parameters.lookup name) := by
  rw [formParameters_field, if_pos hname]
  cases parameters.lookup name <;> rfl

/-- Such a parameter is looked at as a filter when the form is made. -/
theorem readFilter_ofParameter (parameters : List (String × String)) {name : String}
    (hname : name ∈ parameterNames) :
    readFilter (.ofText? (parameters.lookup name)) =
      readField readFilter none ((formParameters parameters).field? name) := by
  rw [formParameters_field, if_pos hname]
  cases parameters.lookup name <;> rfl

/-- A form made from the values of parameters reads them as the parameters are read in an object. -/
theorem readings_ofValues {parameters : List (String × String)} {values : FieldValues}
    (h : (parameterReadings parameters).Give values) :
    (FormArguments.ofValues values).readings = FieldReadings.ofJson (formParameters parameters) := by
  have hkey : readKey (.ofInt? values.transactionPk) = .ok values.transactionPk := by
    cases values.transactionPk <;> rfl
  have hstation : values.chargeBoxId = parameters.lookup "charge_box_id" := Except.ok.inj
    (h.chargeBoxId.symm.trans (readOptionalText_ofParameter parameters (by decide)))
  have htag : values.idTag = parameters.lookup "ocpp_id_tag" := Except.ok.inj
    (h.idTag.symm.trans (readOptionalText_ofParameter parameters (by decide)))
  have hread : (FormArguments.ofValues values).readings =
      ⟨readKey (.ofInt? values.transactionPk), readFilter (.ofText? values.chargeBoxId),
        readFilter (.ofText? values.idTag), .ok values.type, .ok values.period,
        .ok values.earliest, .ok values.latest⟩ := rfl
  rw [hread, hkey, hstation, htag, readFilter_ofParameter parameters (by decide),
    readFilter_ofParameter parameters (by decide), ← h.transactionPk, ← h.type, ← h.period,
    ← h.earliest, ← h.latest]
  rfl

/-- Parameters have no issues just when all of them have values. -/
theorem parameterIssues_eq_nil {parameters : List (String × String)} :
    parameterIssues parameters = [] ↔ ∃ values, (parameterReadings parameters).Give values := by
  constructor
  · intro h
    have hnone : ∀ p ∈ typedParameters (parameterReadings parameters), p.2 = none :=
      fun p hp => Option.map_eq_none_iff.1 (List.filterMap_eq_nil_iff.1 h p hp)
    have hvalue : ∀ {α : Type} (field : Except Issue α) (name : String),
        (∀ e, field = .error e → (name, some e) ∈ typedParameters (parameterReadings parameters)) →
        ∃ a, field = .ok a := by
      intro α field name hmem
      cases field with
      | ok a => exact ⟨a, rfl⟩
      | error e => cases hnone _ (hmem e rfl)
    obtain ⟨key, hkey⟩ := hvalue (parameterReadings parameters).transactionPk "transaction_pk"
      fun e he => by simp [typedParameters, he]
    obtain ⟨type, htype⟩ := hvalue (parameterReadings parameters).type "type"
      fun e he => by simp [typedParameters, he]
    obtain ⟨period, hperiod⟩ := hvalue (parameterReadings parameters).period "period_type"
      fun e he => by simp [typedParameters, he]
    obtain ⟨earliest, hearliest⟩ := hvalue (parameterReadings parameters).earliest "from"
      fun e he => by simp [typedParameters, he]
    obtain ⟨latest, hlatest⟩ := hvalue (parameterReadings parameters).latest "to"
      fun e he => by simp [typedParameters, he]
    exact ⟨⟨key, _, _, type, period, earliest, latest⟩, hkey,
      readOptionalText_ofParameter parameters (by decide),
      readOptionalText_ofParameter parameters (by decide), htype, hperiod, hearliest, hlatest⟩
  · rintro ⟨values, hgive⟩
    simp [parameterIssues, typedParameters, hgive.transactionPk, hgive.type, hgive.period,
      hgive.earliest, hgive.latest]

/-- Parameters without issues are checked like the fields of an object. -/
theorem formOfParameters_of_nil {parameters : List (String × String)}
    (h : parameterIssues parameters = []) :
    formOfParameters parameters =
      (QueryForm.check (formParameters parameters)).mapError FormError.answer := by
  obtain ⟨values, hgive⟩ := parameterIssues_eq_nil.1 h
  rw [formOfParameters, hgive.values]
  show (FormArguments.ofValues values).readings.form.mapError FormError.answer = _
  rw [readings_ofValues hgive]
  rfl

/-- Parameters with issues are rejected with these. -/
theorem formOfParameters_of_issues {parameters : List (String × String)}
    (h : parameterIssues parameters ≠ []) :
    formOfParameters parameters =
      .error (.ofJson 422 (.object [("detail", .list (parameterIssues parameters))])) := by
  unfold formOfParameters
  split
  · rfl
  · rename_i values hvalues
    exact absurd (parameterIssues_eq_nil.2 ⟨values, FieldReadings.values_eq_ok hvalues⟩) h

/-- Parameters give a form, or are rejected with 422, or fail because a time leaves the calendar. -/
theorem formOfParameters_cases (parameters : List (String × String)) :
    (∃ form, formOfParameters parameters = .ok form ∧ parameterIssues parameters = [] ∧
        QueryForm.check (formParameters parameters) = .ok form) ∨
      (∃ a, formOfParameters parameters = .error a ∧ a.status = 422 ∧
        (parameterIssues parameters ≠ [] ∨
          ∃ issues, QueryForm.check (formParameters parameters) = .error (.invalid issues))) ∨
      ∃ cause, formOfParameters parameters = .error .internalError ∧
        parameterIssues parameters = [] ∧
        QueryForm.check (formParameters parameters) = .error (.calendar cause) := by
  by_cases hissues : parameterIssues parameters = []
  · rw [formOfParameters_of_nil hissues]
    cases hcheck : QueryForm.check (formParameters parameters) with
    | ok form => exact Or.inl ⟨form, rfl, hissues, rfl⟩
    | error e =>
      cases e with
      | invalid issues => exact Or.inr (Or.inl ⟨_, rfl, rfl, Or.inr ⟨issues, rfl⟩⟩)
      | calendar cause => exact Or.inr (Or.inr ⟨cause, rfl, hissues, rfl⟩)
  · exact Or.inr (Or.inl ⟨_, formOfParameters_of_issues hissues, rfl, Or.inl hissues⟩)

/-- Parameters whose form is checked have no issues on their own. -/
theorem parameterIssues_of_check {parameters : List (String × String)} {form : QueryForm}
    (h : QueryForm.check (formParameters parameters) = .ok form) :
    parameterIssues parameters = [] := by
  obtain ⟨values, hgive, -⟩ := QueryForm.check_eq_ok h
  simp [parameterIssues, typedParameters, parameterReadings, hgive.transactionPk, hgive.type,
    hgive.period, hgive.earliest, hgive.latest]

theorem formOfParameters_of_check {parameters : List (String × String)} {form : QueryForm}
    (h : QueryForm.check (formParameters parameters) = .ok form) :
    formOfParameters parameters = .ok form := by
  rw [formOfParameters_of_nil (parameterIssues_of_check h), h]
  rfl

end ChargingReport
