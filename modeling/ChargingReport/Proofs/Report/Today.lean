import ChargingReport.Proofs.Calendar.Phrase
import ChargingReport.Proofs.Report.Periods

/-!
# The day in filters and on display

What today is, is decided twice.  A query compares the day that the database reads from the text of a
start with the day of the clock, and a record words the same start as seen from the same clock.  In
UTC the two agree, if the database takes the day from the front of the text.

* Records.  In UTC every row has a record as soon as the clock has an instant
  (`ReportContext.record_utc`), and `TransactionRecord.startBegins_today` reads the day off what is
  displayed.
* Listings.  A form with a period lists the part of what it lists without one whose starts are in the
  period (`ReportContext.transactions_withPeriod`), and it fails where that listing fails.

`ReportContext.today_displayed` has both for today and for the periods that look back.
-/

namespace ChargingReport

/-! ## Records -/

/-- Whether the start of the record is displayed by a text that begins like this. -/
def TransactionRecord.startBegins (r : TransactionRecord) (front : String) : Bool :=
  front.toList.isPrefixOf r.startDisplay.toList

/-- A text begins with a word and ` at ` if it says the word of its day. -/
theorem TransactionRecord.startBegins_iff {r : TransactionRecord} {word : String} :
    r.startBegins (word ++ " at ") = true ↔ SaysDay word r.startDisplay := by
  rw [startBegins, List.isPrefixOf_iff_prefix]
  constructor
  · rintro ⟨time, htime⟩
    refine ⟨String.ofList time, ?_⟩
    rw [← String.toList_inj, String.toList_append, String.toList_ofList, htime]
  · rintro ⟨time, htime⟩
    refine ⟨time.toList, ?_⟩
    rw [htime, String.toList_append, String.toList_append, String.toList_append]

namespace ReportContext

variable {ctx : ReportContext} {now : Instant} {d : Day} {form : QueryForm} {row : ListedRow}
  {r : TransactionRecord}

/-- In UTC every row has a record. -/
theorem record_utc (hzone : ctx.displayZone = "UTC") (hnow : ctx.clock.instant = .ok now)
    (row : ListedRow) : ∃ r, ctx.record row = .ok r :=
  record_ok hnow (zoneReads_utc hzone now) (convertible_utc hzone _)
    fun stop _ => convertible_utc hzone stop

/-- In UTC an instant is worded as seen from the day of the clock. -/
theorem display_utc (hzone : ctx.displayZone = "UTC") (hnow : ctx.clock.instant = .ok now)
    (i : Instant) : ctx.display (some i) = .ok (phrase now.day i.utc) := by
  have htext : displayIn? Zone.utc now i = some (phrase now.day i.utc) :=
    displayIn_eq (Zone.local_utc now) (Zone.local_utc i)
  rw [display, hzone, Option.map_some,
    displayStamp_eq ofKey_utc (instant?_of_instant hnow) (instant_stamp i) htext]
  rfl

/-- The words of a record are those of the day of its start. -/
theorem saysDay_start (hzone : ctx.displayZone = "UTC") (hnow : ctx.clock.instant = .ok now)
    (hof : r.Of ctx row) {word : String} (hblank : ' ' ∉ word.toList) :
    SaysDay word r.startDisplay ↔ dayPhrase now.day r.start.day = word.toList := by
  have hdisplay : phrase now.day row.transaction.start.utc = r.startDisplay :=
    Except.ok.inj ((display_utc hzone hnow _).symm.trans hof.startDisplay)
  rw [← hdisplay, hof.start]
  exact saysDay_phrase hblank

theorem startBegins_today (hzone : ctx.displayZone = "UTC") (hnow : ctx.clock.instant = .ok now)
    (hof : r.Of ctx row) : r.startBegins "Today at " = true ↔ r.start.day = now.day := by
  obtain ⟨htoday, -, -⟩ := dayPhrase_words now.day r.start.day
  have hfront : "Today at " = "Today" ++ " at " := rfl
  rw [hfront, TransactionRecord.startBegins_iff, saysDay_start hzone hnow hof (by decide), htoday]
  exact ⟨Day.ext_number, congrArg Day.number⟩

/-- A start that is not after today is not displayed as tomorrow. -/
theorem startBegins_tomorrow (hzone : ctx.displayZone = "UTC") (hnow : ctx.clock.instant = .ok now)
    (hof : r.Of ctx row) (hday : r.start.day.number ≤ now.day.number) :
    r.startBegins "Tomorrow at " = false := by
  obtain ⟨-, -, htomorrow⟩ := dayPhrase_words now.day r.start.day
  have hfront : "Tomorrow at " = "Tomorrow" ++ " at " := rfl
  rw [Bool.eq_false_iff, hfront, ne_eq, TransactionRecord.startBegins_iff,
    saysDay_start hzone hnow hof (by decide), htomorrow]
  omega

/-! ## Listings -/

section Choices

variable {conditions : List Condition} {period : QueryPeriod}
  (hconditions : ctx.conditions form = .ok conditions) (hperiod : form.period = .known period)
include hconditions hperiod

/-- The listing of a form with conditions and known choices. -/
theorem transactions_known {type : QueryType} (htype : form.type = .known type) (j : Journal) :
    (ctx.transactions form j).answer =
      (ctx.listedRows conditions).bind fun rows => rows.mapM ctx.record := by
  unfold transactions listingPlan
  rw [hconditions, hperiod, htype]
  rfl

theorem transactions_unchecked {value : Json} (htype : form.type = .unchecked value) (j : Journal) :
    (ctx.transactions form j).answer = .error (.notAChoice value.kindName) := by
  unfold transactions listingPlan
  rw [hconditions, hperiod, htype]
  rfl

end Choices

/-- Rows that meet one list of conditions and another are the rows that meet the first, filtered by
the second.  A sort keeps the order of equals, so this needs no keys. -/
theorem listed_append (s : Store) (conditions narrower : List Condition) :
    s.listed (conditions ++ narrower) =
      (s.listed conditions).filter fun row => row.exported.meets narrower := by
  rw [Store.listed, Store.listed, selected_eq_filter, selected_eq_filter, List.filter_filter]
  refine List.filter_congr fun row _ => ?_
  rw [ExportedRow.meets, List.all_append, Bool.and_comm]
  rfl

/-- Where every row has a record, a period lists the part of all records that its conditions keep.
It fails where the listing without a period fails. -/
theorem transactions_withPeriod (hrecord : ∀ row, ∃ r, ctx.record row = .ok r)
    (hday : ctx.today = .ok d) {period : QueryPeriod} {narrower : List Condition}
    (hperiod : (form.withPeriod period).periodConditions ctx.days d = .ok narrower)
    (hfits : narrower.all Condition.fits = true) {kept : TransactionRecord → Bool}
    (hkept : ∀ row r, ctx.record row = .ok r → kept r = row.exported.meets narrower)
    (j j' : Journal) :
    (ctx.transactions (form.withPeriod period) j).answer =
      (ctx.transactions (form.withPeriod .all) j').answer.map (List.filter kept) := by
  have hnarrow : ctx.conditions (form.withPeriod period) = .ok (form.criteria ++ narrower) :=
    conditions_eq_append hday hperiod
  have hall : ctx.conditions (form.withPeriod .all) = .ok form.criteria :=
    (conditions_eq_append hday rfl).trans (congrArg _ (List.append_nil _))
  cases htype : form.type with
  | unchecked value =>
    rw [transactions_unchecked hnarrow rfl htype, transactions_unchecked hall rfl htype]
    rfl
  | known type =>
    rw [transactions_known hnarrow rfl htype, transactions_known hall rfl htype]
    unfold listedRows read
    rw [List.all_append, hfits, Bool.and_true]
    cases ctx.store with
    | none => rfl
    | some s =>
      by_cases hcriteria : form.criteria.all Condition.fits = true
      · obtain ⟨records, hrecords, -⟩ := exists_mapM_ok fun row (_ : row ∈ s.listed form.criteria) =>
          hrecord row
        simp only [hcriteria, if_true]
        show (s.listed (form.criteria ++ narrower)).mapM ctx.record =
          ((s.listed form.criteria).mapM ctx.record).map (List.filter kept)
        rw [listed_append, hrecords]
        exact mapM_filter_ok hrecords hkept
      · simp only [hcriteria]
        rfl

/-- A form with a checked type and a key that fits has a listing without a period, where every row
has a record. -/
theorem transactions_all (hrecord : ∀ row, ∃ r, ctx.record row = .ok r) {s : Store}
    (hstore : ctx.store = some s) (hday : ctx.today = .ok d) (hform : form.Checked)
    (hkey : form.KeyFits) (j : Journal) :
    ∃ records, (ctx.transactions (form.withPeriod .all) j).answer = .ok records := by
  obtain ⟨type, _, htype, -⟩ := hform.choices
  have hall : ctx.conditions (form.withPeriod .all) = .ok form.criteria :=
    (conditions_eq_append hday rfl).trans (congrArg _ (List.append_nil _))
  have hread : ctx.read form.criteria = .ok s :=
    read_eq_ok.2 ⟨hstore, (QueryForm.criteria_fits form).2 hkey⟩
  obtain ⟨records, hrecords, -⟩ := exists_mapM_ok fun row (_ : row ∈ s.listed form.criteria) =>
    hrecord row
  refine ⟨records, ?_⟩
  rw [transactions_known hall rfl htype, listedRows, hread]
  exact hrecords

/-- A listing of a period that looks back some days stays in the calendar. -/
theorem lookBack_of_listed {period : QueryPeriod} {n : Nat} (hcount : period.intervalDays = some n)
    (hday : ctx.today = .ok d) {j : Journal} {records : List TransactionRecord}
    (h : (ctx.transactions (form.withPeriod period) j).answer = .ok records) : n ≤ d.number := by
  obtain ⟨conditions, _, _, _, hconditions, -⟩ := transactions_eq_ok.1 h
  obtain ⟨day, hday', hconditions⟩ := bind_eq_ok.1 hconditions
  cases hday.symm.trans hday'
  obtain ⟨narrower, hperiod, -⟩ := bind_eq_ok.1 hconditions
  have hlook : QueryForm.lookBack ctx.days n d = .ok narrower := by
    cases period <;> cases hcount <;> exact hperiod
  unfold QueryForm.lookBack at hlook
  split at hlook
  · rename_i first hfirst
    exact Day.le_of_before hfirst
  · cases hlook

/-- A period that looks back some days within the calendar lists the records whose start is read as on
one of these days. -/
theorem transactions_lookBack (hrecord : ∀ row, ∃ r, ctx.record row = .ok r)
    (hday : ctx.today = .ok d) {period : QueryPeriod} {n : Nat}
    (hcount : period.intervalDays = some n) (hlook : n ≤ d.number) (form : QueryForm)
    (j j' : Journal) :
    (ctx.transactions (form.withPeriod period) j).answer =
      (ctx.transactions (form.withPeriod .all) j').answer.map
        (List.filter fun r => decide (ctx.days.ReadsWithin r.start n d)) := by
  have hwithin : ∀ start, form.InPeriod ctx.days d start period ↔ ctx.days.ReadsWithin start n d := by
    cases period <;> cases hcount <;> exact fun _ => Iff.rfl
  have hfitsDay : (form.withPeriod period).LookBackFits d := by
    rintro _ _ ⟨⟩ hcount'
    cases hcount.symm.trans hcount'
    exact hlook
  obtain ⟨narrower, hperiod, hfits, hholds⟩ := QueryForm.periodConditions_spec rfl hfitsDay
  refine transactions_withPeriod hrecord hday hperiod hfits (fun row r hr => ?_) j j'
  rw [Bool.eq_iff_iff, decide_eq_true_eq, (record_spec hr).start, ExportedRow.meets, hholds]
  exact (hwithin _).symm

/-- Today lists the records whose start is read as on the day of the clock. -/
theorem transactions_today (hrecord : ∀ row, ∃ r, ctx.record row = .ok r) (hday : ctx.today = .ok d)
    (form : QueryForm) (j j' : Journal) :
    (ctx.transactions (form.withPeriod .today) j).answer =
      (ctx.transactions (form.withPeriod .all) j').answer.map
        (List.filter fun r => decide (ctx.days.day? r.start = some d)) := by
  refine transactions_withPeriod hrecord hday rfl rfl (fun row r hr => ?_) j j'
  rw [Bool.eq_iff_iff, decide_eq_true_eq, (record_spec hr).start, ExportedRow.meets,
    List.all_cons, List.all_nil, Bool.and_true, Condition.holds_startedOn]
  rfl

/-- What is listed is the record of a row. -/
theorem record_of_listed {j : Journal} {records : List TransactionRecord}
    (h : (ctx.transactions form j).answer = .ok records) (hr : r ∈ records) :
    ∃ row, ctx.record row = .ok r := by
  obtain ⟨conditions, _, _, s, -, -, -, -, hmap⟩ := transactions_eq_ok.1 h
  obtain ⟨row, -, hrow⟩ := forall₂_mem_right (forall₂_of_mapM_ok hmap) hr
  exact ⟨row, hrow⟩

/-- Filters that agree on the records of rows keep the same part of a listing. -/
theorem map_filter_transactions {p q : TransactionRecord → Bool} {j : Journal}
    (h : ∀ row r, ctx.record row = .ok r → p r = q r) :
    (ctx.transactions form j).answer.map (List.filter p) =
      (ctx.transactions form j).answer.map (List.filter q) := by
  cases hall : (ctx.transactions form j).answer with
  | error f => rfl
  | ok records =>
    refine congrArg Except.ok (List.filter_congr fun r hr => ?_)
    obtain ⟨row, hrow⟩ := record_of_listed hall hr
    exact h row r hrow

/-- What today is, is the same in a query and on display, for times shown in UTC.

* Every checked form whose key fits has a listing without a period.
* The form for today lists the records among them whose start is read as on the day of the clock, in
  the same order, and it fails just where the listing without a period does.  For a database that takes
  the day from the front of a text, these are the records whose start is displayed as today.
* A period that looks back some days within the calendar lists the records among them whose start is
  read as on one of these days.
* No listed record of a period that looks back starts after today, so none is displayed as
  tomorrow. -/
theorem today_displayed (hzone : ctx.displayZone = "UTC") (hnow : ctx.clock.instant = .ok now)
    (form : QueryForm) (j j' : Journal) :
    (∀ s, ctx.store = some s → form.Checked → form.KeyFits →
      ∃ records, (ctx.transactions (form.withPeriod .all) j').answer = .ok records) ∧
    (ctx.transactions (form.withPeriod .today) j).answer =
      (ctx.transactions (form.withPeriod .all) j').answer.map
        (List.filter fun r => decide (ctx.days.day? r.start = some now.day)) ∧
    (ctx.days = .front → (ctx.transactions (form.withPeriod .today) j).answer =
      (ctx.transactions (form.withPeriod .all) j').answer.map
        (List.filter fun r => r.startBegins "Today at ")) ∧
    ∀ period n, period.intervalDays = some n →
      (n ≤ now.day.number → (ctx.transactions (form.withPeriod period) j).answer =
        (ctx.transactions (form.withPeriod .all) j').answer.map
          (List.filter fun r => decide (ctx.days.ReadsWithin r.start n now.day))) ∧
      ∀ records, (ctx.transactions (form.withPeriod period) j).answer = .ok records →
        ∀ r ∈ records, r.start.day.number ≤ now.day.number ∧ r.startBegins "Tomorrow at " = false := by
  have hrecord := record_utc hzone hnow
  have hday := today_ok hnow
  have htoday := transactions_today hrecord hday form j j'
  refine ⟨fun s hstore hform hkey => transactions_all hrecord hstore hday hform hkey j', htoday,
    fun hfront => ?_, fun period n hcount => ⟨fun hlook => ?_, fun records hrecords r hr => ?_⟩⟩
  · rw [htoday]
    refine map_filter_transactions fun row r hr => ?_
    rw [Bool.eq_iff_iff, decide_eq_true_eq, startBegins_today hzone hnow (record_spec hr), hfront,
      DayReading.day?_front, Option.some_inj]
  · exact transactions_lookBack hrecord hday hcount hlook form j j'
  · have hlisted := transactions_lookBack hrecord hday hcount
      (lookBack_of_listed hcount hday hrecords) form j {}
    obtain ⟨all, hall, rfl⟩ := map_eq_ok.1 (hlisted.symm.trans hrecords)
    obtain ⟨hmem, hin⟩ := List.mem_filter.1 hr
    obtain ⟨row, hrow⟩ := record_of_listed hall hmem
    obtain ⟨day, hread, hnotAfter, -⟩ := of_decide_eq_true hin
    have hstart : r.start.day.number ≤ now.day.number := by
      have hbefore := ctx.days.day_le_dayNumber r.start
      rw [DayReading.day?_eq_some.1 hread] at hbefore
      exact Nat.le_trans hbefore hnotAfter
    exact ⟨hstart, startBegins_tomorrow hzone hnow (record_spec hrow) hstart⟩

/-! ## In UTC -/

/-- A report on the small store, made in UTC. -/
def greenwich (clock : Instant) : ReportContext where
  store := some Store.small
  clock := clock.stamp
  displayZone := "UTC"
  batchSize := 1

/-- On the first day of 2026 the listing of today is given, and what is in it is displayed as today.
The last ten days are listed without a word about tomorrow. -/
theorem today_displayed_newYear :
    ∃ records, ((greenwich newYear2026).transactions (QueryForm.withPeriod {} .today) {}).answer =
        .ok records ∧ (∀ r ∈ records, r.startBegins "Today at " = true) ∧
      ∃ lastDays,
        ((greenwich newYear2026).transactions (QueryForm.withPeriod {} .last10) {}).answer =
          .ok lastDays ∧ ∀ r ∈ lastDays, r.startBegins "Tomorrow at " = false := by
  have hzone : (greenwich newYear2026).displayZone = "UTC" := rfl
  obtain ⟨hall, -, htoday, hlookBack⟩ :=
    today_displayed hzone (stamp_instant newYear2026) {} {} {}
  obtain ⟨records, hrecords⟩ := hall Store.small rfl ⟨.object [], rfl⟩ keyFits_default
  obtain ⟨hlast, hdays⟩ := hlookBack .last10 10 rfl
  replace hlast := hlast (by decide)
  replace htoday := htoday rfl
  rw [hrecords] at htoday hlast
  exact ⟨_, htoday, fun r hr => (List.mem_filter.1 hr).2, _, hlast,
    fun r hr => (hdays _ hlast r hr).2⟩

end ReportContext

end ChargingReport
