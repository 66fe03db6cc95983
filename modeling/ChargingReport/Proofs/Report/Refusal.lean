import ChargingReport.Form.Arguments
import ChargingReport.Report.Export
import ChargingReport.Proofs.Query.Normal
import ChargingReport.Proofs.Report.Record

/-!
# Refused queries

A query is refused when its form has no conditions.  The conditions come first in every report, so a
refused query reads no table, writes no text and records nothing.

* Refusals.  `ReportContext.Refuses` says what a refusal is in each report, and
  `ReportContext.refuses_of_conditions` that a form whose conditions fail is refused.
* Forms without checks.  `FormArguments.unchecked` makes them.  A text in the place of a period is no
  period, also where it is the name of one (`ReportContext.conditions_bare`).

`ReportContext.bare_period_refused` puts the two together.  There are two failures: most texts are
named as unknown periods, but the name of a period that looks back some days is taken for the period
and then has no number of days.
-/

namespace ChargingReport

/-! ## Refusals -/

namespace ReportContext

variable {ctx : ReportContext} {form : QueryForm} {f : Failure}

/-- A form is refused with a failure.  All reports fail with it, and the sink and the journal are
left as they were. -/
structure Refuses (ctx : ReportContext) (form : QueryForm) (f : Failure) : Prop where
  listing : ∀ j, ctx.transactions form j = ⟨.error f, j⟩
  single : ctx.transaction? form = .error f
  writing : ∀ sink j, ctx.writeCsv form sink j = ⟨sink, .error f, j⟩
  streaming : ∀ j, ctx.stream form j = ⟨[], some f, j⟩
  reading : ∀ count j, 0 < count → ctx.streamUpTo form count j = ⟨[], some f, j⟩

theorem listingPlan_error (h : ctx.conditions form = .error f) : ctx.listingPlan form = .error f := by
  rw [listingPlan, h]
  rfl

theorem exportPlan_error (h : ctx.conditions form = .error f) : ctx.exportPlan form = .error f := by
  rw [exportPlan, h]
  rfl

theorem refuses_of_conditions (h : ctx.conditions form = .error f) : ctx.Refuses form f where
  listing j := by
    unfold transactions
    rw [listingPlan_error h]
  single := by
    rw [transaction?, h]
    rfl
  writing sink j := by
    unfold writeCsv
    rw [exportPlan_error h]
  streaming j := by
    unfold stream
    rw [exportPlan_error h]
  reading count j hcount := by
    unfold streamUpTo
    rw [if_neg (by omega), exportPlan_error h]

end ReportContext

/-! ## Forms without checks -/

/-- The names of the periods that look back some days. -/
def lookBackNames : List String := ["LAST_10", "LAST_30", "LAST_90"]

theorem Json.namesLookBack_text (s : String) :
    (Json.text s).namesLookBack = true ↔ s ∈ lookBackNames := by
  have hname : ∀ p : QueryPeriod, p.intervalDays.isSome = true ↔ p.name ∈ lookBackNames := by
    intro p
    cases p <;> decide
  show ((QueryPeriod.ofName? s).bind QueryPeriod.intervalDays).isSome = true ↔ _
  cases hfound : QueryPeriod.ofName? s with
  | none =>
    have hother : s ∉ lookBackNames := by
      intro hs
      have hnone : ∀ t ∈ lookBackNames, QueryPeriod.ofName? t ≠ none := by decide
      exact hnone s hs hfound
    simp [hother]
  | some p =>
    have hp : (p.name == s) = true := by
      unfold QueryPeriod.ofName? at hfound
      exact List.find?_some (p := fun q : QueryPeriod => q.name == s) hfound
    rw [← beq_iff_eq.1 hp]
    exact hname p

/-- What a text in the place of a period fails with. -/
theorem QueryForm.uncheckedPeriod_text (shown : String) : uncheckedPeriod (.text shown) =
    if shown ∈ lookBackNames then .noInterval "str" else .unknownPeriod shown := by
  by_cases hname : shown ∈ lookBackNames
  · rw [if_pos hname, uncheckedPeriod, if_pos ((Json.namesLookBack_text shown).2 hname)]
    rfl
  · rw [if_neg hname, uncheckedPeriod, if_neg (mt (Json.namesLookBack_text shown).1 hname)]
    rfl

/-- A text that has no number of days is not named as an unknown period. -/
theorem Failure.noInterval_ne_unknownPeriod (kindName shown : String) :
    noInterval kindName ≠ unknownPeriod shown := by
  intro h
  cases h

namespace ReportContext

variable {ctx : ReportContext} {a : FormArguments} {shown : String} {now : Instant}

/-- The conditions fail, whatever the other arguments are. -/
theorem conditions_bare (hperiod : a.period = some (.input (.text shown)))
    (hclock : ctx.clock.instant = .ok now) :
    ctx.conditions a.unchecked = .error (QueryForm.uncheckedPeriod (.text shown)) := by
  have hbare : a.unchecked.period = .unchecked (.text shown) := by
    rw [FormArguments.unchecked, hperiod]
    rfl
  rw [conditions, today_ok hclock]
  show a.unchecked.conditions ctx.days now.day = _
  rw [QueryForm.conditions, QueryForm.periodConditions, hbare]
  rfl

/-- A form whose period is a text is refused, whatever stands in the other arguments and whatever is
stored.  It is the text that is named in the failure, except where it is the name of a period that
looks back some days. -/
theorem bare_period_refused (hperiod : a.period = some (.input (.text shown)))
    (hclock : ctx.clock.instant = .ok now) :
    ∃ f : Failure,
      (∀ store : Option Store, { ctx with store := store }.Refuses a.unchecked f) ∧
      (shown ∉ lookBackNames → f.kind = "UnknownPeriodTypeError" ∧
        f.message = "Unknown period type '" ++ shown ++ "'") ∧
      (shown ∈ lookBackNames → f.kind = "AttributeError" ∧
        f.message = "'str' object has no attribute 'interval_days'") := by
  refine ⟨QueryForm.uncheckedPeriod (.text shown), fun store => ?_, fun hname => ?_, fun hname => ?_⟩
  · exact refuses_of_conditions (conditions_bare hperiod hclock)
  · rw [QueryForm.uncheckedPeriod_text, if_neg hname]
    exact ⟨rfl, rfl⟩
  · rw [QueryForm.uncheckedPeriod_text, if_pos hname]
    exact ⟨rfl, rfl⟩

/-- Arguments with a text in the place of the period, and ends that lie outside the calendar in
UTC. -/
def bareArguments (shown : String) : FormArguments :=
  { transactionPk := some (.int 7), chargeBoxId := some (.text " "),
    period := some (.input (.text shown)),
    earliest := some (.value (some ⟨⟨0, by decide⟩, some 3600000000⟩)) }

/-- Two texts, of which only the second is the name of a period. -/
theorem bare_period_refused_tokyo :
    (∃ f : Failure, (tokyo newYear2026).Refuses (bareArguments "LAST_WEEK").unchecked f ∧
      f.message = "Unknown period type 'LAST_WEEK'") ∧
    ∃ f : Failure, (tokyo newYear2026).Refuses (bareArguments "LAST_10").unchecked f ∧
      f.kind = "AttributeError" := by
  constructor
  · obtain ⟨f, hrefused, hunknown, -⟩ := bare_period_refused (a := bareArguments "LAST_WEEK") rfl
      (tokyo_instant newYear2026 1)
    exact ⟨f, hrefused (some Store.small), (hunknown (by decide)).2⟩
  · obtain ⟨f, hrefused, -, hname⟩ := bare_period_refused (a := bareArguments "LAST_10") rfl
      (tokyo_instant newYear2026 1)
    exact ⟨f, hrefused (some Store.small), (hname (by decide)).1⟩

/-- The name of a period that looks back ten days is not named as an unknown period. -/
theorem look_back_name_not_unknown :
    (bareArguments "LAST_10").period = some (.input (.text "LAST_10")) ∧
      ((tokyo newYear2026).transactions (bareArguments "LAST_10").unchecked {}).answer ≠
        .error (.unknownPeriod "LAST_10") ∧
      ((tokyo newYear2026).transactions (bareArguments "LAST_10").unchecked {}).answer =
        .error (.noInterval "str") := by
  have hrefused := refuses_of_conditions (conditions_bare (a := bareArguments "LAST_10") rfl
    (tokyo_instant newYear2026 1))
  rw [QueryForm.uncheckedPeriod_text, if_pos (by decide)] at hrefused
  rw [hrefused.listing]
  exact ⟨rfl, fun h => Failure.noInterval_ne_unknownPeriod _ _ (Except.error.inj h), rfl⟩

end ReportContext

end ChargingReport
