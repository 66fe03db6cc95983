import ChargingReport.Form.Check
import ChargingReport.Proofs.Except

/-!
# Forms that were checked

* `FieldReadings.form_eq_ok` says where a form comes from: all fields were read, and the form has what
  they give.  `QueryForm.check_eq_ok` is this for the fields of an object.
* `QueryForm.Checked` says that a form is the answer of a check.  Such a form has a type and a period
  that are known.
* `QueryForm.check_key` is the check of an object that has a transaction key and nothing else.
-/

namespace ChargingReport

/-- The form is what the check of some object gave. -/
def QueryForm.Checked (form : QueryForm) : Prop := ∃ v, QueryForm.check v = .ok form

/-- The fields were read, and these are their values. -/
structure FieldReadings.Give (r : FieldReadings) (v : FieldValues) : Prop where
  transactionPk : r.transactionPk = .ok v.transactionPk
  chargeBoxId : r.chargeBoxId = .ok v.chargeBoxId
  idTag : r.idTag = .ok v.idTag
  type : r.type = .ok v.type
  period : r.period = .ok v.period
  earliest : r.earliest = .ok v.earliest
  latest : r.latest = .ok v.latest

theorem FieldReadings.values_eq_ok {r : FieldReadings} {v : FieldValues} (h : r.values? = .ok v) :
    r.Give v := by
  obtain ⟨key, hkey, h⟩ := bind_eq_ok.1 h
  obtain ⟨station, hstation, h⟩ := bind_eq_ok.1 h
  obtain ⟨tag, htag, h⟩ := bind_eq_ok.1 h
  obtain ⟨type, htype, h⟩ := bind_eq_ok.1 h
  obtain ⟨period, hperiod, h⟩ := bind_eq_ok.1 h
  obtain ⟨earliest, hearliest, h⟩ := bind_eq_ok.1 h
  obtain ⟨latest, hlatest, h⟩ := bind_eq_ok.1 h
  cases h
  exact ⟨hkey, hstation, htag, htype, hperiod, hearliest, hlatest⟩

theorem FieldReadings.Give.values {r : FieldReadings} {v : FieldValues} (h : r.Give v) :
    r.values? = .ok v := by
  rw [values?, h.transactionPk, h.chargeBoxId, h.idTag, h.type, h.period, h.earliest, h.latest]
  rfl

/-- The form has the values as its criteria, and the instants of its period are theirs. -/
structure QueryForm.Has (form : QueryForm) (v : FieldValues) : Prop where
  criteria : form = ⟨v.transactionPk, v.chargeBoxId, v.idTag, .known v.type, .known v.period,
    form.earliest, form.latest⟩
  earliest : endInstant v.earliest = .ok form.earliest
  latest : endInstant v.latest = .ok form.latest
  range : rangeIssue? v.period form.earliest form.latest = none

/-- A form is made if all fields are read and its period is in order. -/
theorem FieldReadings.form_eq_ok {r : FieldReadings} {form : QueryForm} :
    r.form = .ok form ↔ ∃ values, r.Give values ∧ form.Has values := by
  constructor
  · intro h
    unfold FieldReadings.form at h
    split at h
    · cases h
    · cases h
    · rename_i earliest latest hearliest hlatest
      split at h
      · cases h
      · rename_i values hvalues
        have hgive := values_eq_ok hvalues
        rw [hgive.earliest] at hearliest
        rw [hgive.latest] at hlatest
        unfold FieldValues.form at h
        split at h
        · cases h
        · rename_i hrange
          cases h
          exact ⟨values, hgive, rfl, hearliest, hlatest, hrange⟩
  · rintro ⟨values, hgive, hform⟩
    have hearliest : readingInstant r.earliest = .ok form.earliest := by
      rw [hgive.earliest]
      exact hform.earliest
    have hlatest : readingInstant r.latest = .ok form.latest := by
      rw [hgive.latest]
      exact hform.latest
    simp only [FieldReadings.form, hearliest, hlatest, hgive.values, FieldValues.form, hform.range]
    rw [hform.criteria]

namespace QueryForm

/-- The form of an object comes from the values of its fields. -/
theorem check_eq_ok {v : Json} {form : QueryForm} (h : check v = .ok form) :
    ∃ values, (FieldReadings.ofJson v).Give values ∧ form.Has values :=
  FieldReadings.form_eq_ok.1 h

theorem Checked.choices {form : QueryForm} (h : form.Checked) :
    ∃ type period, form.type = .known type ∧ form.period = .known period := by
  obtain ⟨v, hv⟩ := h
  obtain ⟨values, -, hform⟩ := check_eq_ok hv
  rw [hform.criteria]
  exact ⟨_, _, rfl, rfl⟩

theorem check_key (pk : Int) :
    check (.object [("transaction_pk", .int pk)]) = .ok { transactionPk := some pk } := by
  rfl

end QueryForm

end ChargingReport
