import ChargingReport.Form.Criteria
import ChargingReport.Query.Condition
import ChargingReport.Proofs.Calendar.Column
import ChargingReport.Proofs.Form.Checked

/-!
# What a form asks for

`QueryForm.Selects` says in terms of days and instants when a session on a connector meets a form.
`QueryForm.conditions_spec` says that the conditions of a form ask for just this, although they
compare the texts of columns.  They are there for every checked form whose look-back stays within
the calendar.
-/

namespace ChargingReport

/-- The day is one of the `n` days before `today`, or `today` itself. -/
def Day.Within (d : Day) (n : Nat) (today : Day) : Prop :=
  d.number ≤ today.number ∧ today.number ≤ d.number + n

instance (d : Day) (n : Nat) (today : Day) : Decidable (d.Within n today) := by
  unfold Day.Within
  infer_instance

/-- The day that is read of an instant is one of the `n` days before `today`, or `today` itself. -/
def DayReading.ReadsWithin (days : DayReading) (i : Instant) (n : Nat) (today : Day) : Prop :=
  ∃ day ∈ days.day? i, day.Within n today

instance (days : DayReading) (i : Instant) (n : Nat) (today : Day) :
    Decidable (days.ReadsWithin i n today) := by
  unfold DayReading.ReadsWithin
  infer_instance

namespace QueryForm

/-- A session that began at `start` lies in a period, seen from `today` by a database that reads days
in some way. -/
def InPeriod (form : QueryForm) (days : DayReading) (today : Day) (start : Instant) :
    QueryPeriod → Prop
  | .all => True
  | .today => days.day? start = some today
  | .last10 => days.ReadsWithin start 10 today
  | .last30 => days.ReadsWithin start 30 today
  | .last90 => days.ReadsWithin start 90 today
  | .fromTo => ∃ first last, form.earliest = some first ∧ form.latest = some last ∧
      first.ticks ≤ start.ticks ∧ start.ticks ≤ last.ticks

/-- A session on a connector meets every criterion that is set in the form. -/
structure Selects (form : QueryForm) (days : DayReading) (today : Day) (t : Transaction)
    (c : Connector) : Prop where
  key : ∀ pk, form.transactionPk = some pk → t.pk = pk
  station : ∀ chargeBoxId, form.chargeBoxId = some chargeBoxId → c.chargeBoxId = chargeBoxId
  tag : ∀ idTag, form.idTag = some idTag → t.idTag = idTag
  type : form.type = .known .active → t.stop = none
  period : ∀ period, form.period = .known period → form.InPeriod days today t.start period

/-- The first day that the form looks back to is a day of the calendar. -/
def LookBackFits (form : QueryForm) (today : Day) : Prop :=
  ∀ period count, form.period = .known period → period.intervalDays = some count →
    count ≤ today.number

/-- A transaction key of the form can be stored. -/
def KeyFits (form : QueryForm) : Prop := ∀ pk, form.transactionPk = some pk → fitsInt64 pk = true

end QueryForm

/-! ## Single conditions -/

namespace Condition

variable {t : Transaction} {c : Connector}

theorem holds_startedOn {days : DayReading} {day : Day} :
    (startedOn days day).holds t c = true ↔ days.day? t.start = some day := by
  rw [holds, DayReading.columnDay_eq]
  cases days.day? t.start with
  | none => simp
  | some read =>
    rw [Option.map_some, Option.any_some, beq_iff_eq, Day.columnText_inj, Option.some_inj]

theorem holds_startedWithin {days : DayReading} {first last : Day} :
    (startedWithin days first last).holds t c = true ↔ ∃ day, days.day? t.start = some day ∧
      first.number ≤ day.number ∧ day.number ≤ last.number := by
  rw [holds, DayReading.columnDay_eq]
  cases days.day? t.start with
  | none => simp
  | some read =>
    rw [Option.map_some, Option.any_some, Bool.and_eq_true, columnTextLe_day_iff,
      columnTextLe_day_iff]
    simp only [Option.some_inj, exists_eq_left']

theorem holds_startedBetween {first last : Option Instant} :
    (startedBetween first last).holds t c = true ↔ ∃ a b, first = some a ∧ last = some b ∧
      a.ticks ≤ t.start.ticks ∧ t.start.ticks ≤ b.ticks := by
  match first, last with
  | some a, some b =>
    rw [holds, Bool.and_eq_true, Instant.columnLe_iff, Instant.columnLe_iff]
    constructor
    · intro h
      exact ⟨a, b, rfl, rfl, h⟩
    · rintro ⟨_, _, ha, hb, h⟩
      cases ha
      cases hb
      exact h
  | none, _ => simp [holds]
  | some a, none => simp [holds]

end Condition

/-! ## The conditions of a form -/

/-- A look-back within the calendar finds its first day. -/
theorem Day.before_eq {today : Day} {n : Nat} (hn : n ≤ 999999999) (h : n ≤ today.number) :
    ∃ first : Day, today.before n = .ok first ∧ first.number + n = today.number := by
  have hfits : fitsInt32 (n : Int) = true := by
    simp only [fitsInt32, Bool.and_eq_true, decide_eq_true_eq]
    omega
  have hnumber : (today.number : Int) - (n : Int) = Int.ofNat (today.number - n) :=
    (Int.ofNat_sub h).symm
  have hrange : today.number - n < dayCount := Nat.lt_of_le_of_lt (Nat.sub_le _ _) today.inRange
  refine ⟨⟨today.number - n, hrange⟩, ?_, Nat.sub_add_cancel h⟩
  unfold before
  rw [hfits, hnumber, if_neg (by decide), if_neg (by omega)]
  simp only [ofNumber?, dif_pos hrange]

/-- A day is found by looking back only if it is in the calendar. -/
theorem Day.le_of_before {today first : Day} {n : Nat} (h : today.before n = .ok first) :
    n ≤ today.number := by
  by_contra hlate
  have hnegative : (today.number : Int) - n < 0 := by omega
  have hnone : ofNumber? (today.number - n) = none := by
    cases hnumber : (today.number : Int) - n with
    | ofNat k =>
      rw [hnumber] at hnegative
      exact absurd hnegative (Int.not_lt.2 (Int.natCast_nonneg k))
    | negSucc k => rfl
  unfold before at h
  rw [hnone] at h
  split at h
  · cases h
  · split at h <;> cases h

namespace QueryForm

variable {form : QueryForm} {days : DayReading} {today : Day} {t : Transaction} {c : Connector}

/-- The condition of a criterion holds if the criterion does or is not set. -/
theorem criterion_holds {α : Type} {condition : α → Condition} {a? : Option α} {p : α → Prop}
    (h : ∀ a, (condition a).holds t c = true ↔ p a) :
    (criterion condition a?).all (Condition.holds t c) = true ↔ ∀ a, a? = some a → p a := by
  cases a? with
  | none => simp [criterion]
  | some a => simp [criterion, h a]

theorem keyIs_holds {pk? : Option Int} :
    (criterion .keyIs pk?).all (Condition.holds t c) = true ↔ ∀ pk, pk? = some pk → t.pk = pk :=
  criterion_holds fun _ => beq_iff_eq

theorem stationIs_holds {id? : Option String} :
    (criterion .stationIs id?).all (Condition.holds t c) = true ↔
      ∀ id, id? = some id → c.chargeBoxId = id :=
  criterion_holds fun _ => beq_iff_eq

theorem tagIs_holds {tag? : Option String} :
    (criterion .tagIs tag?).all (Condition.holds t c) = true ↔
      ∀ tag, tag? = some tag → t.idTag = tag :=
  criterion_holds fun _ => beq_iff_eq

theorem typeConditions_hold (type : Choice QueryType) :
    (typeConditions type).all (Condition.holds t c) = true ↔
      (type = .known .active → t.stop = none) := by
  unfold typeConditions
  split
  · simp [Condition.holds]
  · rename_i hother
    simp only [List.all_nil, true_iff]
    exact fun hactive => absurd hactive hother

/-- The conditions of a look-back hold for the days that it covers. -/
theorem lookBack_spec {n : Nat} (hn : n ≤ 999999999) (h : n ≤ today.number) :
    ∃ conditions, lookBack days n today = .ok conditions ∧ conditions.all Condition.fits = true ∧
      ∀ t c, conditions.all (Condition.holds t c) = true ↔ days.ReadsWithin t.start n today := by
  obtain ⟨first, hfirst, hnumber⟩ := Day.before_eq hn h
  have hwithin : ∀ day : Day, first.number ≤ day.number ∧ day.number ≤ today.number ↔
      day.Within n today := by
    intro day
    unfold Day.Within
    omega
  refine ⟨[.startedWithin days first today], ?_, rfl, fun t c => ?_⟩
  · rw [lookBack, hfirst]
  · rw [List.all_cons, List.all_nil, Bool.and_true, Condition.holds_startedWithin]
    simp only [hwithin]
    rfl

theorem periodConditions_spec {period : QueryPeriod} (hperiod : form.period = .known period)
    (hlook : form.LookBackFits today) :
    ∃ conditions, form.periodConditions days today = .ok conditions ∧
      conditions.all Condition.fits = true ∧
      ∀ t c, conditions.all (Condition.holds t c) = true ↔
        form.InPeriod days today t.start period := by
  have hcount := hlook period
  unfold periodConditions
  rw [hperiod]
  cases period with
  | all => exact ⟨[], rfl, rfl, fun t c => by simp [InPeriod]⟩
  | today =>
    refine ⟨[.startedOn days today], rfl, rfl, fun t c => ?_⟩
    rw [List.all_cons, List.all_nil, Bool.and_true, Condition.holds_startedOn]
    rfl
  | last10 => exact lookBack_spec (by decide) (hcount 10 hperiod rfl)
  | last30 => exact lookBack_spec (by decide) (hcount 30 hperiod rfl)
  | last90 => exact lookBack_spec (by decide) (hcount 90 hperiod rfl)
  | fromTo =>
    refine ⟨[.startedBetween form.earliest form.latest], rfl, rfl, fun t c => ?_⟩
    rw [List.all_cons, List.all_nil, Bool.and_true, Condition.holds_startedBetween]
    rfl

/-- The numbers in the condition of a key fit if the key does or is not set. -/
theorem keyIs_fits : (criterion .keyIs form.transactionPk).all Condition.fits = true ↔
    form.KeyFits := by
  unfold KeyFits
  cases form.transactionPk with
  | none => simp [criterion]
  | some pk => simp [criterion, Condition.fits]

/-- Of the conditions that do not look at the period, only a key has a number that may not fit. -/
theorem criteria_fits (form : QueryForm) :
    (criterion .keyIs form.transactionPk ++ criterion .stationIs form.chargeBoxId ++
      criterion .tagIs form.idTag ++ typeConditions form.type).all Condition.fits = true ↔
      form.KeyFits := by
  have hstation : (criterion .stationIs form.chargeBoxId).all Condition.fits = true := by
    cases form.chargeBoxId <;> rfl
  have htag : (criterion .tagIs form.idTag).all Condition.fits = true := by
    cases form.idTag <;> rfl
  have htype : (typeConditions form.type).all Condition.fits = true := by
    unfold typeConditions
    split <;> rfl
  simp only [List.all_append, hstation, htag, htype, Bool.and_true]
  exact keyIs_fits

/-- The conditions of a checked form.  Together they ask for what the form selects, and a key is the
only number that may not fit. -/
theorem conditions_spec (hform : form.Checked) (hlook : form.LookBackFits today) :
    ∃ conditions, form.conditions days today = .ok conditions ∧
      (conditions.all Condition.fits = true ↔ form.KeyFits) ∧
      ∀ t c, conditions.all (Condition.holds t c) = true ↔ form.Selects days today t c := by
  obtain ⟨type, period, htype, hperiod⟩ := hform.choices
  obtain ⟨inPeriod, hin, hfits, hholds⟩ := periodConditions_spec hperiod hlook
  refine ⟨_, by rw [QueryForm.conditions, hin]; rfl, ?_, fun t c => ?_⟩
  · rw [List.all_append, hfits, Bool.and_true]
    exact criteria_fits form
  · simp only [List.all_append, Bool.and_eq_true, hholds, keyIs_holds, stationIs_holds,
      tagIs_holds, typeConditions_hold]
    constructor
    · rintro ⟨⟨⟨⟨hkey, hstation⟩, htag⟩, htype⟩, hstart⟩
      refine ⟨hkey, hstation, htag, htype, fun other hother => ?_⟩
      rw [hperiod, Choice.known.injEq] at hother
      exact hother ▸ hstart
    · intro h
      exact ⟨⟨⟨⟨h.key, h.station⟩, h.tag⟩, h.type⟩, h.period period hperiod⟩

end QueryForm

end ChargingReport
