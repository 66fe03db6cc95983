import ChargingReport.Report.Listing
import ChargingReport.Proofs.Query.Criteria
import ChargingReport.Proofs.Query.Join
import ChargingReport.Proofs.Report.Record

/-!
# What a listing holds

A listing has one record for every listed row that meets the conditions of its form
(`ReportContext.transactions_answer`).  With what the joins make and what the conditions ask for,
this says which sessions are listed, how often, and in which order
(`ReportContext.transactions_exact`).
-/

namespace ChargingReport

/-- A choice with a label is known. -/
theorem Choice.known_of_label {α : Type} {name : α → String} {choice : Choice α} {label : String}
    (h : choice.label name = .ok label) : ∃ a, choice = .known a := by
  cases choice with
  | known a => exact ⟨a, rfl⟩
  | unchecked v => cases h

namespace ReportContext

variable {ctx : ReportContext} {s : Store} {form : QueryForm} {now : Instant}
  {conditions : List Condition}

/-- A checked form whose look-back fits has conditions, which ask for what it selects.  Their numbers
fit just when its key does. -/
theorem conditions_of_checked (hform : form.Checked) (hnow : ctx.clock.instant = .ok now)
    (hlook : form.LookBackFits now.day) :
    ∃ conditions, ctx.conditions form = .ok conditions ∧
      (conditions.all Condition.fits = true ↔ form.KeyFits) ∧
      ∀ t c, conditions.all (Condition.holds t c) = true ↔ form.Selects ctx.days now.day t c := by
  obtain ⟨conditions, hok, hfits, hholds⟩ := QueryForm.conditions_spec hform hlook
  refine ⟨conditions, ?_, hfits, hholds⟩
  rw [ReportContext.conditions, today_ok hnow]
  exact hok

/-- The case that the key of the form fits. -/
theorem conditions_ok (hform : form.Checked) (hkey : form.KeyFits)
    (hnow : ctx.clock.instant = .ok now) (hlook : form.LookBackFits now.day) :
    ∃ conditions, ctx.conditions form = .ok conditions ∧
      conditions.all Condition.fits = true ∧
      ∀ t c, conditions.all (Condition.holds t c) = true ↔ form.Selects ctx.days now.day t c := by
  obtain ⟨conditions, hok, hfits, hholds⟩ := conditions_of_checked hform hnow hlook
  exact ⟨conditions, hok, hfits.2 hkey, hholds⟩

theorem listingPlan_ok (hform : form.Checked) (hconditions : ctx.conditions form = .ok conditions) :
    ∃ attributes, ctx.listingPlan form = .ok ⟨conditions, attributes⟩ := by
  obtain ⟨type, period, htype, hperiod⟩ := hform.choices
  rw [listingPlan, hconditions, htype, hperiod]
  exact ⟨_, rfl⟩

/-- A listing is given if its form has known choices and conditions, the store can be read, and every
row that meets the conditions has a record. -/
theorem transactions_eq_ok {records : List TransactionRecord} {j : Journal} :
    (ctx.transactions form j).answer = .ok records ↔
      ∃ conditions type period s, ctx.conditions form = .ok conditions ∧
        form.type = .known type ∧ form.period = .known period ∧ ctx.read conditions = .ok s ∧
        (s.listed conditions).mapM ctx.record = .ok records := by
  constructor
  · intro h
    unfold transactions at h
    cases hplan : ctx.listingPlan form with
    | error f =>
      rw [hplan] at h
      cases h
    | ok plan =>
      rw [hplan] at h
      obtain ⟨rows, hrows, h⟩ :=
        bind_eq_ok.1 (h : (ctx.listedRows plan.conditions >>= fun rows => rows.mapM ctx.record) = _)
      obtain ⟨s, hread, hrows⟩ := bind_eq_ok.1 hrows
      cases hrows
      obtain ⟨conditions, hconditions, hplan⟩ := bind_eq_ok.1 hplan
      obtain ⟨period, hperiod, hplan⟩ := bind_eq_ok.1 hplan
      obtain ⟨type, htype, hplan⟩ := bind_eq_ok.1 hplan
      cases hplan
      obtain ⟨period', hperiod'⟩ := Choice.known_of_label hperiod
      obtain ⟨type', htype'⟩ := Choice.known_of_label htype
      exact ⟨conditions, type', period', s, hconditions, htype', hperiod', hread, h⟩
  · rintro ⟨conditions, type, period, s, hconditions, htype, hperiod, hread, h⟩
    unfold transactions listingPlan
    rw [hconditions, htype, hperiod]
    show (ctx.listedRows conditions >>= fun rows => rows.mapM ctx.record) = .ok records
    rw [listedRows, hread]
    exact h

/-- A listing has the records of the rows that meet its conditions, in the order of the rows. -/
theorem transactions_answer (hstore : ctx.store = some s) (hform : form.Checked)
    (hconditions : ctx.conditions form = .ok conditions)
    (hfits : conditions.all Condition.fits = true) (hnow : ctx.clock.instant = .ok now)
    (hclock : ctx.ZoneReads now) (htimes : ctx.StoredTimesConvertible s) (j : Journal) :
    ∃ records, (ctx.transactions form j).answer = .ok records ∧
      List.Forall₂ (TransactionRecord.Of ctx) (s.listed conditions) records := by
  have hstored : ∀ row ∈ s.listed conditions, row.transaction ∈ s.transactions := by
    intro row hrow
    exact (Store.mem_completed.1 (mem_selected.1 hrow).1).1.1
  obtain ⟨records, hmap, hall⟩ := records_ok hnow hclock htimes hstored
  obtain ⟨attributes, hplan⟩ := listingPlan_ok hform hconditions
  refine ⟨records, ?_, hall⟩
  rw [transactions, hplan]
  show (ctx.listedRows conditions).bind (fun rows => rows.mapM ctx.record) = .ok records
  rw [listedRows, read_eq_ok.2 ⟨hstore, hfits⟩]
  exact hmap

/-- A listing with a key that does not fit into 64 bits fails in the database. -/
theorem transactions_keyRange (hstore : ctx.store = some s) (hform : form.Checked)
    (hconditions : ctx.conditions form = .ok conditions)
    (hfits : conditions.all Condition.fits = false) (j : Journal) :
    (ctx.transactions form j).answer = .error (.write .integerRange) := by
  obtain ⟨attributes, hplan⟩ := listingPlan_ok hform hconditions
  rw [transactions, hplan]
  show (ctx.listedRows conditions).bind (fun rows => rows.mapM ctx.record) = _
  rw [listedRows, read_integerRange hstore hfits]
  rfl

/-- Records go with rows, so their keys are those of the rows. -/
theorem map_pk_records {rows : List ListedRow} {records : List TransactionRecord}
    (h : List.Forall₂ (TransactionRecord.Of ctx) rows records) :
    records.map TransactionRecord.pk = rows.map fun row => row.exported.transaction.pk := by
  induction h with
  | nil => rfl
  | cons hrow _ ih => rw [List.map_cons, List.map_cons, ih, hrow.pk, ListedRow.exported]

/-- A row is listed when it is in the store and the form selects it. -/
theorem mem_listed_iff
    (hholds : ∀ t c, conditions.all (Condition.holds t c) = true ↔ form.Selects ctx.days now.day t c)
    {row : ListedRow} :
    row ∈ s.listed conditions ↔
      row.In s ∧ form.Selects ctx.days now.day row.transaction row.connector := by
  rw [Store.listed, mem_selected, Store.mem_completed, ExportedRow.meets, hholds]
  rfl

/-- A listing has the sessions that the form selects and whose connector, station and tag are in the
store, each of them once, the greatest key first. -/
theorem transactions_exact (hstore : ctx.store = some s) (hs : s.Satisfies Schema.declared)
    (hform : form.Checked) (hkey : form.KeyFits) (hnow : ctx.clock.instant = .ok now)
    (hlook : form.LookBackFits now.day) (hclock : ctx.ZoneReads now)
    (htimes : ctx.StoredTimesConvertible s) (j : Journal) :
    ∃ records, (ctx.transactions form j).answer = .ok records ∧
      records.Pairwise (fun a b => b.pk < a.pk) ∧
      (∀ row : ListedRow, row.In s → form.Selects ctx.days now.day row.transaction row.connector →
        (∃ r ∈ records, r.Of ctx row) ∧
          (records.map TransactionRecord.pk).count row.transaction.pk = 1) ∧
      ∀ r ∈ records, ∃ row : ListedRow, row.In s ∧
        form.Selects ctx.days now.day row.transaction row.connector ∧ r.Of ctx row := by
  obtain ⟨conditions, hconditions, hfits, hholds⟩ := conditions_ok hform hkey hnow hlook
  obtain ⟨records, hanswer, hall⟩ :=
    transactions_answer hstore hform hconditions hfits hnow hclock htimes j
  have hpks := map_pk_records hall
  have hfalling : (records.map TransactionRecord.pk).Pairwise fun a b => b < a := by
    rw [hpks]
    exact List.pairwise_map.2 (Store.listed_pairwise hs conditions)
  refine ⟨records, hanswer, List.pairwise_map.1 hfalling, fun row hin hselects => ?_,
    fun r hr => ?_⟩
  · have hrow := (mem_listed_iff hholds).2 ⟨hin, hselects⟩
    obtain ⟨r, hr, hof⟩ := forall₂_mem_left hall hrow
    refine ⟨⟨r, hr, hof⟩, List.count_eq_one_of_mem ?_ (hof.pk ▸ List.mem_map_of_mem hr)⟩
    exact hfalling.imp fun hlt => (Int.ne_of_lt hlt).symm
  · obtain ⟨row, hrow, hof⟩ := forall₂_mem_right hall hr
    obtain ⟨hin, hselects⟩ := (mem_listed_iff hholds).1 hrow
    exact ⟨row, hin, hselects, hof⟩

/-! ## In Tokyo -/

/-- The row of the small store. -/
def smallRow : ListedRow := ⟨.small, ⟨3, "CB", 1⟩, ⟨1, "CB", none⟩, ⟨2, "TAG", none⟩⟩

theorem smallRow_in : smallRow.In Store.small :=
  Store.mem_completed.1 (by decide)

/-- The form without criteria selects every row. -/
theorem selects_default (days : DayReading) (today : Day) (t : Transaction) (c : Connector) :
    QueryForm.Selects {} days today t c := by
  refine ⟨nofun, nofun, nofun, nofun, fun period hperiod => ?_⟩
  cases hperiod
  trivial

theorem keyFits_default : QueryForm.KeyFits {} := by
  intro pk hpk
  cases hpk

theorem lookBackFits_default (today : Day) : QueryForm.LookBackFits {} today := by
  intro period count hperiod hcount
  cases hperiod
  cases hcount

/-- At the beginning of 2026 the session of the small store is listed once. -/
theorem transactions_exact_tokyo :
    ∃ records, ((tokyo newYear2026).transactions {} {}).answer = .ok records ∧
      (records.map TransactionRecord.pk).count 7 = 1 := by
  have hclock : (tokyo newYear2026).ZoneReads newYear2026 := zoneReads_of_ordinary (by decide)
  obtain ⟨records, hanswer, -, honce, -⟩ := transactions_exact rfl Store.small_satisfies
    ⟨.object [], rfl⟩ keyFits_default (tokyo_instant _ _) (lookBackFits_default _) hclock
    (tokyo_storedTimes _ _) {}
  exact ⟨records, hanswer, (honce smallRow smallRow_in (selects_default _ _ _ _)).2⟩

/-- An hour before the end of the calendar, when Tokyo is past it. -/
def lastHour : Instant := ⟨⟨dayCount * microsPerDay - 3600000000, by decide⟩⟩

theorem small_listed : Store.small.listed [] = [smallRow] := by
  have hrows : Store.small.completed.filter (fun r => r.exported.meets []) = [smallRow] := by
    decide
  rw [Store.listed, selected, hrows, newestFirst_singleton]

/-- At the beginning of 2026 the row of the small store is all that is listed in Tokyo. -/
theorem transactions_tokyo_of (batchSize : Nat) :
    ∃ record, ((tokyo newYear2026 batchSize).transactions {} {}).answer = .ok [record] ∧
      record.Of (tokyo newYear2026 batchSize) smallRow := by
  have hclock : (tokyo newYear2026 batchSize).ZoneReads newYear2026 :=
    zoneReads_of_ordinary (by decide)
  have hconditions : (tokyo newYear2026 batchSize).conditions {} = .ok [] := rfl
  obtain ⟨records, hanswer, hall⟩ := transactions_answer rfl ⟨.object [], rfl⟩ hconditions rfl
    (tokyo_instant _ _) hclock (tokyo_storedTimes _ _) {}
  rw [small_listed] at hall
  cases hall with
  | cons hof hrest =>
    cases hrest
    exact ⟨_, hanswer, hof⟩

theorem transactions_tokyo (batchSize : Nat) :
    ∃ record, ((tokyo newYear2026 batchSize).transactions {} {}).answer = .ok [record] := by
  obtain ⟨record, hanswer, -⟩ := transactions_tokyo_of batchSize
  exact ⟨record, hanswer⟩

/-- Records are shown as seen from the clock.  So a clock instant that the display zone cannot read
leaves no listing, although all stored times can be read. -/
theorem transactions_lastHour : ∃ (ctx : ReportContext) (s : Store) (form : QueryForm)
    (now : Instant) (row : ListedRow), ctx.store = some s ∧ s.Satisfies Schema.declared ∧
      form.Checked ∧ form.KeyFits ∧ ctx.clock.instant = .ok now ∧ form.LookBackFits now.day ∧
      ctx.StoredTimesConvertible s ∧ row.In s ∧
      form.Selects ctx.days now.day row.transaction row.connector ∧
      ∀ records, (ctx.transactions form {}).answer ≠ .ok records := by
  refine ⟨tokyo lastHour, Store.small, {}, lastHour, smallRow, rfl, Store.small_satisfies,
    ⟨.object [], rfl⟩, keyFits_default, tokyo_instant _ _, lookBackFits_default _,
    tokyo_storedTimes _ _, smallRow_in, selects_default _ _ _ _, fun records hrecords => ?_⟩
  have hdisplay : (tokyo lastHour).display (some newYear2026) = .error (.calendar .outOfRange) := by
    unfold display displayStamp
    simp only [tokyo, ofKey_tokyo, Option.map_some]
    rfl
  have hanswer : ((tokyo lastHour).transactions {} {}).answer =
      (Except.ok (Store.small.listed [])).bind fun rows => rows.mapM (tokyo lastHour).record :=
    rfl
  rw [hanswer, small_listed] at hrecords
  change ([smallRow].mapM (tokyo lastHour).record) = .ok records at hrecords
  simp only [List.mapM_cons, record, smallRow, Transaction.small, hdisplay] at hrecords
  cases hrecords

end ReportContext

end ChargingReport
