import ChargingReport.Proofs.Calendar.Display
import ChargingReport.Proofs.Report.Reconciliation
import ChargingReport.Proofs.Store.Writes

/-!
# Open sessions over a history of writes

* `Store.Consistent` is what a store keeps over all writes: keys and unique columns are not repeated,
  columns that must be set are set, and a session has a stop value just when it has a stop time.
* `TransactionRecord.StopAgrees` says that a record tells in four ways alike whether its session is
  open.  The records of listings and of details do (`ReportContext.transactions_stopAgrees`,
  `ReportContext.details_stopAgrees`).
* A form that asks for open sessions lists the open ones of the form that asks for all
  (`ReportContext.transactions_active`).

`Store.run_consistent` has all of this for the store after any writes.
-/

namespace ChargingReport

/-- What a store keeps over all writes. -/
structure Store.Consistent (s : Store) : Prop where
  chargeBoxIds : (s.chargeBoxes.map ChargeBox.chargeBoxId).Nodup
  idTags : (s.tags.map Tag.idTag).Nodup
  connectorPlaces : (s.connectors.map fun c => (c.chargeBoxId, c.number)).Nodup
  keys : ∀ table, (s.keys table).Nodup
  required : ∀ table t, Schema.declared.table? table.name = some t → ∀ row ∈ s.rowCells table,
    ∀ column ∈ t.columns, column.nullable = false → cellAt row column.name ≠ .null
  stops : ∀ t ∈ s.transactions, t.stop = none ↔ t.stopValue = none

theorem Store.Satisfies.consistent {s : Store} (h : s.Satisfies Schema.declared) :
    s.Consistent where
  chargeBoxIds := h.chargeBoxIds_nodup
  idTags := h.idTags_nodup
  connectorPlaces := h.connectorPlaces_nodup
  keys := h.keys_nodup
  required table _ ht _ hrow _ hcolumn hrequired := h.cellAt_ne_null table ht hrow hcolumn hrequired
  stops _ ht := h.stop_paired ht

/-! ## Records of open sessions -/

/-- The four ways in which a record tells whether its session is open agree. -/
structure TransactionRecord.StopAgrees (r : TransactionRecord) : Prop where
  stop : r.isActive = true ↔ r.stop = none
  stopValue : r.isActive = true ↔ r.stopValue = none
  stopDisplay : r.isActive = true ↔ r.stopDisplay = ""

namespace ReportContext

variable {ctx : ReportContext} {s : Store}

/-- Only a missing instant is displayed as the empty text. -/
theorem display_eq_empty {i : Option Instant} {text : String} (h : ctx.display i = .ok text) :
    text = "" ↔ i = none := by
  unfold display at h
  cases hshown : displayStamp ctx.displayZone ctx.clock (i.map Instant.stamp) with
  | error e =>
    rw [hshown] at h
    cases h
  | ok shown =>
    rw [hshown] at h
    cases h
    rw [displayStamp_eq_empty hshown, Option.map_eq_none_iff]

/-- The record of a stored session tells alike whether the session is open. -/
theorem stopAgrees_of_row (hs : s.Satisfies Schema.declared) {row : ListedRow}
    (hrow : row.transaction ∈ s.transactions) {r : TransactionRecord} (hof : r.Of ctx row) :
    r.StopAgrees := by
  have hactive : r.isActive = true ↔ r.stop = none := Option.isNone_iff_eq_none
  have hpaired : r.stop = none ↔ r.stopValue = none := by
    rw [hof.stop, hof.stopValue]
    exact hs.stop_paired hrow
  have hshown : r.stopDisplay = "" ↔ r.stop = none := by
    rw [hof.stop]
    exact display_eq_empty hof.stopDisplay
  exact ⟨hactive, hactive.trans hpaired, hactive.trans hshown.symm⟩

theorem mem_transactions_of_listed {conditions : List Condition} {row : ListedRow}
    (h : row ∈ s.listed conditions) : row.transaction ∈ s.transactions :=
  (Store.mem_completed.1 (mem_selected.1 h).1).1.1

theorem transactions_stopAgrees (hstore : ctx.store = some s) (hs : s.Satisfies Schema.declared)
    {form : QueryForm} {j : Journal} {records : List TransactionRecord}
    (h : (ctx.transactions form j).answer = .ok records) : ∀ r ∈ records, r.StopAgrees := by
  intro r hr
  obtain ⟨conditions, _, _, s', -, -, -, hread, hmap⟩ := transactions_eq_ok.1 h
  cases hstore.symm.trans (read_eq_ok.1 hread).1
  obtain ⟨row, hrow, hrecord⟩ := forall₂_mem_right (forall₂_of_mapM_ok hmap) hr
  exact stopAgrees_of_row hs (mem_transactions_of_listed hrow) (record_spec hrecord)

theorem details_stopAgrees (hstore : ctx.store = some s) (hs : s.Satisfies Schema.declared)
    {key : Json} {j : Journal} {d : TransactionDetails}
    (h : (ctx.details key j).answer = .ok d) : d.transaction.StopAgrees := by
  obtain ⟨_, _, row, -, -, hrow, hof, -⟩ := details_listed hstore h
  exact stopAgrees_of_row hs (mem_transactions_of_listed hrow) hof

/-! ## Forms that ask for open sessions -/

/-- A form that asks for open sessions has one condition more than the form that asks for all, and
no further number. -/
theorem conditions_active {form : QueryForm} {conditions : List Condition}
    (h : ctx.conditions { form with type := .known .all } = .ok conditions) :
    ∃ narrower, ctx.conditions { form with type := .known .active } = .ok narrower ∧
      narrower.all Condition.fits = conditions.all Condition.fits ∧
      ∀ r : ExportedRow, r.meets narrower = (r.meets conditions && r.transaction.stop.isNone) := by
  obtain ⟨today, htoday, h⟩ := bind_eq_ok.1 h
  obtain ⟨period, hperiod, h⟩ := bind_eq_ok.1 h
  cases h
  -- the period is asked for in the same way, whatever the type is
  have hperiod' : QueryForm.periodConditions { form with type := .known .active } ctx.days today =
      .ok period := hperiod
  refine ⟨_, bind_eq_ok.2 ⟨today, htoday, bind_eq_ok.2 ⟨period, hperiod', rfl⟩⟩, ?_, fun r => ?_⟩
  · simp [QueryForm.typeConditions, Condition.fits]
  · simp only [ExportedRow.meets, QueryForm.typeConditions, List.all_append, List.all_cons,
      List.all_nil, Condition.holds, Bool.and_true]
    ac_rfl

/-- Where the form that asks for all sessions has a listing, the form that asks for open ones lists
the records among them whose session is open, in the same order. -/
theorem transactions_active (hstore : ctx.store = some s) (hs : s.Satisfies Schema.declared)
    {form : QueryForm} {j j' : Journal} {records : List TransactionRecord}
    (h : (ctx.transactions { form with type := .known .all } j).answer = .ok records) :
    (ctx.transactions { form with type := .known .active } j').answer =
      .ok (records.filter TransactionRecord.isActive) := by
  obtain ⟨conditions, _, period, s', hconditions, -, hperiod, hread, hmap⟩ :=
    transactions_eq_ok.1 h
  obtain ⟨hstore', hfits⟩ := read_eq_ok.1 hread
  cases hstore.symm.trans hstore'
  obtain ⟨narrower, hnarrower, hsame, hmeets⟩ := conditions_active hconditions
  have hopen : s.listed narrower =
      (s.listed conditions).filter fun row => row.transaction.stop.isNone :=
    selected_filter (Store.completed_keys_nodup hs) fun row => hmeets row.exported
  have hkept : ∀ row r, ctx.record row = .ok r → r.isActive = row.transaction.stop.isNone := by
    intro row r hrecord
    rw [TransactionRecord.isActive, (record_spec hrecord).stop]
  refine transactions_eq_ok.2 ⟨narrower, .active, period, s, hnarrower, rfl, hperiod,
    read_eq_ok.2 ⟨hstore, hsame.trans hfits⟩, ?_⟩
  rw [hopen]
  exact mapM_filter_ok hmap hkept

end ReportContext

/-! ## Histories -/

namespace Store

/-- The store after any writes is consistent, and a rejected write leaves it as it is.  The records
that are read off it tell alike whether a session is open, and asking for open sessions lists the
open ones among all. -/
theorem run_consistent (writes : List Write) :
    let s := empty.run Schema.declared writes
    s.Consistent ∧
      (∀ w e, s.write Schema.declared w = .error e →
        empty.run Schema.declared (writes ++ [w]) = s) ∧
      ∀ ctx : ReportContext, ctx.store = some s →
        (∀ form j records, (ctx.transactions form j).answer = .ok records →
          ∀ r ∈ records, r.StopAgrees) ∧
        (∀ key j d, (ctx.details key j).answer = .ok d → d.transaction.StopAgrees) ∧
        ∀ (form : QueryForm) (j j' : Journal) (records : List TransactionRecord),
          (ctx.transactions { form with type := .known .all } j).answer = .ok records →
            (ctx.transactions { form with type := .known .active } j').answer =
              .ok (records.filter TransactionRecord.isActive) := by
  intro s
  have hs : s.Satisfies Schema.declared := run_satisfies empty_satisfies writes
  refine ⟨hs.consistent, fun w e hrejected => ?_, fun ctx hstore => ⟨fun form j records => ?_,
    fun key j d => ?_, fun form j j' records => ?_⟩⟩
  · have hlast : empty.run Schema.declared (writes ++ [w]) = s.after Schema.declared w := by
      rw [run, List.foldl_append]
      rfl
    rw [hlast, after_of_error hrejected]
  · exact ReportContext.transactions_stopAgrees hstore hs
  · exact ReportContext.details_stopAgrees hstore hs
  · exact ReportContext.transactions_active hstore hs

/-- The record of the small store tells alike that its session is not open, and so it is not listed
among open sessions. -/
theorem run_consistent_small :
    small.Consistent ∧ ∃ record,
      ((ReportContext.tokyo newYear2026).transactions {} {}).answer = .ok [record] ∧
      record.StopAgrees ∧
      ((ReportContext.tokyo newYear2026).transactions { type := .known .active } {}).answer =
        .ok [] := by
  obtain ⟨hconsistent, -, hreport⟩ := run_consistent smallWrites
  rw [run_smallWrites] at hconsistent
  obtain ⟨hlisted, -, hopen⟩ :=
    hreport (ReportContext.tokyo newYear2026) (congrArg some run_smallWrites.symm)
  obtain ⟨record, hanswer, hof⟩ := ReportContext.transactions_tokyo_of 1
  have hagrees : record.StopAgrees := hlisted {} {} _ hanswer record (List.mem_singleton_self _)
  have hactive := hopen {} {} {} _ hanswer
  have hstop : record.isActive = false := by
    rw [TransactionRecord.isActive, hof.stop]
    rfl
  rw [List.filter_singleton, hstop] at hactive
  exact ⟨hconsistent, record, hanswer, hagrees, hactive⟩

end Store

end ChargingReport
