import ChargingReport.Proofs.Query.Criteria
import ChargingReport.Proofs.Report.Alike
import ChargingReport.Proofs.Report.Agreement

/-!
# Calendar periods as ranges of time

A period of days looks at the day that a database reads from the text of a time, and a range looks at
the whole text.  Both ask for the same sessions, if the range goes from the first instant that is read
as a day to the last instant that is read as a day.

* `Day.firstInstant` and `Day.lastInstant` are the ends of a day, and `Day.text_firstInstant` and
  `Day.text_lastInstant` say how they are written.
* `DayReading.firstInstant` and `DayReading.lastInstant` are the ends of what is read as a day.  For a
  database that takes the front of the text they are the ends of the day.
* `Condition.startedOn_alike` and `Condition.startedWithin_alike` compare the conditions.
* `ReportContext.ReportWithin` says that a form reports a part of what another one does.  Forms with
  narrower conditions do (`ReportContext.reportWithin_of_conditions`).

`ReportContext.periods_are_ranges` has the reports of every period beside those of its range, and the
periods in the order in which they widen.
-/

namespace ChargingReport

/-! ## The ends of a day -/

namespace Day

/-- The instant of the day with a number of microseconds since midnight in UTC. -/
def instantAt (d : Day) (time : Fin microsPerDay) : Instant :=
  ⟨⟨d.number * microsPerDay + time.val, by
    have hday := d.inRange
    have htime := time.isLt
    unfold microsPerDay at *
    omega⟩⟩

/-- The instant at which the day begins in UTC. -/
def firstInstant (d : Day) : Instant := d.instantAt ⟨0, by decide⟩

/-- The last microsecond of the day in UTC. -/
def lastInstant (d : Day) : Instant := d.instantAt ⟨microsPerDay - 1, by decide⟩

/-- The day before, and the first day for itself. -/
def previous (d : Day) : Day := ⟨d.number - 1, Nat.lt_of_le_of_lt (Nat.sub_le _ _) d.inRange⟩

theorem instantAt_day (d : Day) (time : Fin microsPerDay) : (d.instantAt time).utc.day = d := by
  have hticks : (d.instantAt time).utc.ticks = d.number * microsPerDay + time.val := rfl
  refine ext_number ?_
  show (d.instantAt time).utc.ticks / microsPerDay = d.number
  rw [hticks, Nat.mul_comm, Nat.mul_add_div (by decide), Nat.div_eq_of_lt time.isLt, Nat.add_zero]

theorem instantAt_timeOfDay (d : Day) (time : Fin microsPerDay) :
    (d.instantAt time).utc.timeOfDay = time.val := by
  show (d.number * microsPerDay + time.val) % microsPerDay = time.val
  rw [Nat.mul_comm, Nat.mul_add_mod, Nat.mod_eq_of_lt time.isLt]

/-- The day begins at midnight. -/
theorem text_firstInstant (d : Day) : d.firstInstant.text = d.text ++ "T00:00:00+00:00" := by
  have htime : d.firstInstant.utc.timeOfDay = 0 := instantAt_timeOfDay _ _
  rw [Instant.text, WallClock.text, firstInstant, instantAt_day, ← firstInstant, Day.text,
    ← String.toList_inj]
  simp [WallClock.hour, WallClock.minute, WallClock.second, WallClock.microsecond, htime, padded,
    natText, natDigits, digitChar]

/-- The day ends a microsecond before the next midnight. -/
theorem text_lastInstant (d : Day) : d.lastInstant.text = d.text ++ "T23:59:59.999999+00:00" := by
  have htime : d.lastInstant.utc.timeOfDay = 86399999999 := instantAt_timeOfDay _ _
  rw [Instant.text, WallClock.text, lastInstant, instantAt_day, ← lastInstant, Day.text,
    ← String.toList_inj]
  simp [WallClock.hour, WallClock.minute, WallClock.second, WallClock.microsecond, htime, padded,
    natText, natDigits, digitChar, microsPerSecond]

end Day

namespace DayReading

variable {days : DayReading} {d : Day} {i : Instant}

/-- The first instant that is read as the day. -/
def firstInstant (days : DayReading) (d : Day) : Instant :=
  ⟨⟨d.firstInstant.ticks - days.carried d.previous,
    Nat.lt_of_le_of_lt (Nat.sub_le _ _) d.firstInstant.utc.inRange⟩⟩

/-- The last instant that is read as the day. -/
def lastInstant (days : DayReading) (d : Day) : Instant :=
  ⟨⟨d.lastInstant.ticks - days.carried d,
    Nat.lt_of_le_of_lt (Nat.sub_le _ _) d.lastInstant.utc.inRange⟩⟩

theorem firstInstant_front (d : Day) : front.firstInstant d = d.firstInstant :=
  Instant.ext_ticks (Nat.sub_zero _)

theorem lastInstant_front (d : Day) : front.lastInstant d = d.lastInstant :=
  Instant.ext_ticks (Nat.sub_zero _)

theorem firstInstant_le_iff :
    (days.firstInstant d).ticks ≤ i.ticks ↔ d.number ≤ days.dayNumber i := by
  have hticks : (days.firstInstant d).ticks =
      d.number * microsPerDay + 0 - days.carried d.previous := rfl
  have hday : i.day.number = i.ticks / microsPerDay := rfl
  have hcarried := days.carried_le i.day
  have hprevious := days.carried_le d.previous
  have hsame : d.number = i.day.number + 1 → days.carried d.previous = days.carried i.day := by
    intro h
    have heq : d.previous = i.day := Day.ext_number (Nat.sub_eq_of_eq_add h)
    rw [heq]
  rw [hticks, dayNumber]
  unfold microsPerDay halfMillisecond at *
  omega

theorem le_lastInstant_iff :
    i.ticks ≤ (days.lastInstant d).ticks ↔ days.dayNumber i ≤ d.number := by
  have hticks : (days.lastInstant d).ticks =
      d.number * microsPerDay + (microsPerDay - 1) - days.carried d := rfl
  have hday : i.day.number = i.ticks / microsPerDay := rfl
  have hcarried := days.carried_le i.day
  have hlast := days.carried_le d
  have hsame : d.number = i.day.number → days.carried d = days.carried i.day := by
    intro h
    rw [Day.ext_number h]
  rw [hticks, dayNumber]
  unfold microsPerDay halfMillisecond at *
  omega

/-- Some days are read of an instant just when it lies between the ends of the first and the last of
them. -/
theorem between_iff {first last : Day} :
    (∃ day, days.day? i = some day ∧ first.number ≤ day.number ∧ day.number ≤ last.number) ↔
      (days.firstInstant first).ticks ≤ i.ticks ∧ i.ticks ≤ (days.lastInstant last).ticks := by
  rw [firstInstant_le_iff, le_lastInstant_iff]
  constructor
  · rintro ⟨day, hday, hbetween⟩
    rw [day?_eq_some.1 hday]
    exact hbetween
  · intro hbetween
    exact ⟨⟨days.dayNumber i, Nat.lt_of_le_of_lt hbetween.2 last.inRange⟩, day?_eq_some.2 rfl,
      hbetween⟩

end DayReading

/-! ## Conditions -/

/-- Starting on one of some days is starting between the ends of the first and the last of them. -/
theorem Condition.startedWithin_alike (days : DayReading) (first last : Day) :
    Conditions.Alike [.startedWithin days first last]
      [.startedBetween (some (days.firstInstant first)) (some (days.lastInstant last))] := by
  refine ⟨rfl, fun r => Bool.eq_iff_iff.2 ?_⟩
  simp only [ExportedRow.meets, List.all_cons, List.all_nil, Bool.and_true]
  rw [holds_startedWithin, holds_startedBetween, DayReading.between_iff]
  simp only [Option.some_inj, exists_and_left, exists_eq_left']

/-- Starting on a day is starting between its ends. -/
theorem Condition.startedOn_alike (days : DayReading) (d : Day) : Conditions.Alike [.startedOn days d]
    [.startedBetween (some (days.firstInstant d)) (some (days.lastInstant d))] := by
  refine ⟨rfl, fun r => ?_⟩
  rw [← (startedWithin_alike days d d).meets r, Bool.eq_iff_iff]
  simp only [ExportedRow.meets, List.all_cons, List.all_nil, Bool.and_true]
  rw [holds_startedOn, holds_startedWithin]
  constructor
  · intro hday
    exact ⟨d, hday, Nat.le_refl _, Nat.le_refl _⟩
  · rintro ⟨day, hday, hfirst, hlast⟩
    rw [hday, Day.ext_number (Nat.le_antisymm hlast hfirst)]

namespace QueryForm

/-- The form with another period. -/
def withPeriod (form : QueryForm) (period : QueryPeriod) : QueryForm :=
  { form with period := .known period }

/-- The form with the period from an instant to another. -/
def withRange (form : QueryForm) (first last : Instant) : QueryForm :=
  { form with
    period := .known .fromTo
    earliest := some first
    latest := some last }

/-- The form with the period from the beginning of a day to the end of another. -/
def withDays (form : QueryForm) (first last : Day) : QueryForm :=
  form.withRange first.firstInstant last.lastInstant

/-- The conditions of a form but for its period. -/
def criteria (form : QueryForm) : List Condition :=
  criterion .keyIs form.transactionPk ++ criterion .stationIs form.chargeBoxId ++
    criterion .tagIs form.idTag ++ typeConditions form.type

end QueryForm

/-- The periods that look back from a day, each of them wider than those before it. -/
def QueryPeriod.lookBacks : List QueryPeriod := [.today, .last10, .last30, .last90, .all]

/-- What lies in a period lies in every wider one. -/
theorem QueryPeriod.lookBacks_widen (form : QueryForm) (days : DayReading) (today : Day)
    (start : Instant) :
    lookBacks.Pairwise fun narrow wide =>
      form.InPeriod days today start narrow → form.InPeriod days today start wide := by
  have htoday : ∀ n, days.day? start = some today → days.ReadsWithin start n today := by
    intro n h
    exact ⟨today, h, Nat.le_refl _, Nat.le_add_right _ _⟩
  have hwithin : ∀ m n, m ≤ n → days.ReadsWithin start m today → days.ReadsWithin start n today := by
    rintro m n hmn ⟨day, hday, hafter, hbefore⟩
    exact ⟨day, hday, hafter, Nat.le_trans hbefore (Nat.add_le_add_left hmn _)⟩
  simp only [lookBacks, QueryForm.InPeriod, List.pairwise_cons, List.mem_cons, forall_eq_or_imp,
    List.not_mem_nil, false_imp_iff, implies_true, and_true, List.Pairwise.nil]
  exact ⟨⟨htoday 10, htoday 30, htoday 90⟩, ⟨hwithin 10 30 (by decide), hwithin 10 90 (by decide)⟩,
    hwithin 30 90 (by decide)⟩

/-! ## Reports -/

namespace ReportContext

variable {ctx : ReportContext} {d : Day} {form f g : QueryForm} {a b : List Condition}

/-- The conditions of a form are its criteria and then those of its period. -/
theorem conditions_eq_append (hday : ctx.today = .ok d) {period : List Condition}
    (h : form.periodConditions ctx.days d = .ok period) :
    ctx.conditions form = .ok (form.criteria ++ period) :=
  bind_eq_ok.2 ⟨d, hday, bind_eq_ok.2 ⟨period, h, rfl⟩⟩

/-- A form has the reports of a range, if its period has a condition like that of the range. -/
theorem withRange_alike (hday : ctx.today = .ok d) {period : QueryPeriod} {condition : Condition}
    {first last : Instant}
    (hperiod : (form.withPeriod period).periodConditions ctx.days d = .ok [condition])
    (h : Conditions.Alike [condition] [.startedBetween (some first) (some last)]) :
    ctx.ReportAlike (form.withPeriod period) (form.withRange first last) :=
  reportAlike_of_conditions rfl rfl rfl (conditions_eq_append hday hperiod)
    (conditions_eq_append hday rfl) (h.append_left form.criteria)

/-- A look-back of some days has the condition that goes from its first day to today. -/
theorem lookBack_conditions {days : DayReading} {period : QueryPeriod} {n : Nat} {first : Day}
    (hcount : period.intervalDays = some n) (hfirst : first.number + n = d.number) :
    (form.withPeriod period).periodConditions days d = .ok [.startedWithin days first d] := by
  have hlarge : n ≤ 999999999 := by
    cases period <;> cases hcount <;> decide
  obtain ⟨day, hday, hnumber⟩ := Day.before_eq hlarge (Nat.le.intro (Nat.add_comm n _ ▸ hfirst))
  cases Day.ext_number (Nat.add_right_cancel (hnumber.trans hfirst.symm))
  have hlook : QueryForm.lookBack days n d = .ok [.startedWithin days first d] := by
    rw [QueryForm.lookBack, hday]
  cases period <;> cases hcount <;> exact hlook

/-- The first form reports a part of what the second one does, in the same order.  An export of the
part comes about for every size of a batch that it can be fetched in, and so up to the limit. -/
structure ReportWithin (ctx : ReportContext) (f g : QueryForm) : Prop where
  listing : ∀ j j' records, (ctx.transactions g j).answer = .ok records →
    ∃ part, (ctx.transactions f j').answer = .ok part ∧ part.Sublist records
  rows : 0 < ctx.batchSize → ∀ j j' n, (ctx.csvExport g j).answer = .ok n →
    ∃ rows part, part.Sublist rows ∧
      (ctx.csvExport g j).text = exportText rows ∧ n = rows.length ∧
      ((ctx.csvExport f j').text = exportText part ∧
          (ctx.csvExport f j').answer = .ok part.length ∨
        batchLimit < ctx.batchSize ∧ ∃ f', (ctx.csvExport f j').answer = .error f')

/-- Narrower conditions report a part. -/
theorem reportWithin_of_conditions {p : QueryPeriod} (hf : f.period = .known p)
    (htype : f.type = g.type) (ha : ctx.conditions f = .ok a) (hb : ctx.conditions g = .ok b)
    (hfits : a.all Condition.fits = b.all Condition.fits)
    (hmeets : ∀ r : ExportedRow, r.meets a = true → r.meets b = true) : ctx.ReportWithin f g := by
  refine ⟨fun j j' records h => ?_, fun hbatch j j' n h => ?_⟩
  · obtain ⟨_, type, _, s, hconditions, hknown, -, hread, hrecords⟩ := transactions_eq_ok.1 h
    cases hb.symm.trans hconditions
    obtain ⟨hstore, hkept⟩ := read_eq_ok.1 hread
    obtain ⟨part, hpart, hsub⟩ := mapM_sublist_ok hrecords (Store.listed_sublist hmeets s)
    refine ⟨part, transactions_eq_ok.2 ?_, hsub⟩
    exact ⟨a, type, p, s, ha, htype.trans hknown, hf, read_eq_ok.2 ⟨hstore, hfits.trans hkept⟩,
      hpart⟩
  · obtain ⟨plan, rows, hplan, hrows⟩ := csvExport_inv h
    obtain ⟨htext, hcount, -⟩ := csvExport_ok hbatch hplan hrows j
    cases hb.symm.trans (exportPlan_conditions hplan)
    obtain ⟨s, hread, rfl⟩ := hrows.read
    obtain ⟨hstore, hkept⟩ := read_eq_ok.1 hread
    have hpart : ctx.read a = .ok s := read_eq_ok.2 ⟨hstore, hfits.trans hkept⟩
    have hplan' : ctx.exportPlan f = .ok ⟨a, [("period_type", .text p.name)]⟩ := by
      rw [exportPlan, ha, hf]
      rfl
    exact ⟨_, _, Store.exported_sublist hmeets s, htext, Except.ok.inj (h.symm.trans hcount),
      csvExport_cases hbatch hplan' hpart j'⟩

/-- A period that looks back reports a part of what a wider one does. -/
theorem withPeriod_within (hday : ctx.today = .ok d) {narrow wide : QueryPeriod}
    (hnarrow : (form.withPeriod narrow).LookBackFits d) (hwide : (form.withPeriod wide).LookBackFits d)
    (h : ∀ start, form.InPeriod ctx.days d start narrow → form.InPeriod ctx.days d start wide) :
    ctx.ReportWithin (form.withPeriod narrow) (form.withPeriod wide) := by
  have hknown : ∀ period, (form.withPeriod period).period = .known period := fun _ => rfl
  obtain ⟨a, ha, hafits, haholds⟩ := QueryForm.periodConditions_spec (hknown narrow) hnarrow
  obtain ⟨b, hb, hbfits, hbholds⟩ := QueryForm.periodConditions_spec (hknown wide) hwide
  refine reportWithin_of_conditions rfl rfl (conditions_eq_append hday ha)
    (conditions_eq_append hday hb) ?_ fun r => ?_
  · rw [List.all_append, List.all_append, hafits, hbfits]
    rfl
  · simp only [ExportedRow.meets, List.all_append, Bool.and_eq_true, haholds, hbholds]
    exact fun hr => ⟨hr.1, h r.transaction.start hr.2⟩

/-- The periods of days beside ranges of time, for the day on which the clock stands in UTC and any
other criteria.

* Today has the reports of the range from the first to the last instant that the database reads as the
  day.
* A look-back whose first day is in the calendar has the reports of the range from the first instant
  of that day to the last instant of today, as the database reads these days.
* For a database that takes the day from the front of a text, the ranges begin at the first and end at
  the last instant of a day in UTC.
* Of the periods that look back, the narrower reports a part of what the wider does. -/
theorem periods_are_ranges (hday : ctx.today = .ok d) (form : QueryForm) :
    (ctx.ReportAlike (form.withPeriod .today)
        (form.withRange (ctx.days.firstInstant d) (ctx.days.lastInstant d)) ∧
      ∀ period n, period.intervalDays = some n → ∀ first : Day, first.number + n = d.number →
        ctx.ReportAlike (form.withPeriod period)
          (form.withRange (ctx.days.firstInstant first) (ctx.days.lastInstant d))) ∧
    (ctx.days = .front →
      ctx.ReportAlike (form.withPeriod .today) (form.withDays d d) ∧
        ∀ period n, period.intervalDays = some n → ∀ first : Day, first.number + n = d.number →
          ctx.ReportAlike (form.withPeriod period) (form.withDays first d)) ∧
    QueryPeriod.lookBacks.Pairwise fun narrow wide =>
      (form.withPeriod narrow).LookBackFits d → (form.withPeriod wide).LookBackFits d →
        ctx.ReportWithin (form.withPeriod narrow) (form.withPeriod wide) := by
  have htoday : ctx.ReportAlike (form.withPeriod .today)
      (form.withRange (ctx.days.firstInstant d) (ctx.days.lastInstant d)) :=
    withRange_alike hday rfl (Condition.startedOn_alike ctx.days d)
  have hlookBack : ∀ period n, period.intervalDays = some n → ∀ first : Day,
      first.number + n = d.number → ctx.ReportAlike (form.withPeriod period)
        (form.withRange (ctx.days.firstInstant first) (ctx.days.lastInstant d)) :=
    fun period n hcount first hfirst => withRange_alike hday (lookBack_conditions hcount hfirst)
      (Condition.startedWithin_alike ctx.days first d)
  refine ⟨⟨htoday, hlookBack⟩, fun hfront => ?_, ?_⟩
  · simp only [hfront, DayReading.firstInstant_front, DayReading.lastInstant_front] at htoday hlookBack
    exact ⟨htoday, hlookBack⟩
  · have hwiden : QueryPeriod.lookBacks.Pairwise fun narrow wide =>
        ∀ start, form.InPeriod ctx.days d start narrow → form.InPeriod ctx.days d start wide :=
      List.pairwise_iff_getElem.2 fun i j hi hj hij start =>
        List.pairwise_iff_getElem.1 (QueryPeriod.lookBacks_widen form ctx.days d start) i j hi hj hij
    exact hwiden.imp fun h hnarrow hwide => withPeriod_within hday hnarrow hwide h

/-- At the beginning of 2026 the last ten days have the reports of the range from the beginning of
2025-12-22 to the end of today, and the last ninety days list at most the one session that is
there. -/
theorem periods_are_ranges_tokyo : ∃ first : Day, first.civil = ⟨2025, 12, 22⟩ ∧
    (tokyo newYear2026).ReportAlike (QueryForm.withPeriod {} .last10)
      (QueryForm.withDays {} first newYear2026.day) ∧
    ∃ part, ((tokyo newYear2026).transactions (QueryForm.withPeriod {} .last90) {}).answer =
      .ok part ∧ part.length ≤ 1 := by
  obtain ⟨-, hfront, hwider⟩ :=
    periods_are_ranges (today_ok (tokyo_instant newYear2026 1)) {}
  have hyear : newYear2026.InOrdinaryYear := by decide
  have hlookBack : ∀ period, (QueryForm.withPeriod {} period).LookBackFits newYear2026.day :=
    fun _ => lookBackFits_of_ordinary hyear
  have hwithin := List.pairwise_iff_getElem.1 hwider 3 4 (by decide) (by decide) (by decide)
    (hlookBack .last90) (hlookBack .all)
  obtain ⟨record, hrecord⟩ := transactions_tokyo 1
  obtain ⟨part, hpart, hsub⟩ := hwithin.listing {} {} [record] hrecord
  exact ⟨⟨newYear2026.day.number - 10, by decide⟩, by decide,
    (hfront rfl).2 .last10 10 rfl _ (by decide), part, hpart, hsub.length_le⟩

end ReportContext

end ChargingReport
