import ChargingReport.Proofs.Report.Lossless
import ChargingReport.Proofs.Report.Reconciliation
import ChargingReport.Proofs.Store.Stamps

/-!
# Reports of what was written

Listings, exports and details show the times of rows, and rows have the times of their stamps as a
column keeps them.  `ReportContext.reports_written` says so for a store after any writes: what is
shown, and what the period of a form and the time of a session compare, is the stored reading.  It is
the instant that was written just when the stamp has no offset from UTC, and
`ReportContext.eastern_moves` is a session that is shown five hours late.
-/

namespace ChargingReport

/-- The stored reading of a stamp lies within those of a session, the ends included. -/
def SessionStamps.Covers (w : SessionStamps) (time : Stamp) : Prop :=
  w.start.stored.ticks ≤ time.stored.ticks ∧
    ∀ stop, w.stop = some stop → time.stored.ticks ≤ stop.stored.ticks

/-- The record of a session covers a time as the stamps of both do. -/
theorem SessionStamps.Shows.covers_iff {w : SessionStamps} {v : SampleStamp} {r : TransactionRecord}
    {pk : Int} {time : Instant} (h : w.Shows r.pk r.start r.stop) (hv : v.Shows pk time) :
    r.covers time = true ↔ w.Covers v.time := by
  rw [TransactionRecord.covers_iff, h.start, h.stop, hv.time, Covers]
  cases w.stop with
  | none => simp
  | some stop => simp

namespace ReportContext

variable {ctx : ReportContext} {s : Store} {g : Stamps} {j : Journal}

/-- A record of a stored row shows the stamps of its session. -/
theorem record_written (hkeeps : s.Keeps g) {row : ListedRow} (hrow : row.In s)
    {r : TransactionRecord} (hof : r.Of ctx row) :
    ∃ w ∈ g.sessions, w.Shows r.pk r.start r.stop := by
  obtain ⟨w, hw, hshows⟩ := hkeeps.session hrow.1.1
  exact ⟨w, hw, hof.pk.trans hshows.pk, hof.start.trans hshows.start, hof.stop.trans hshows.stop⟩

theorem transactions_written (hstore : ctx.store = some s) (hkeeps : s.Keeps g) {form : QueryForm}
    {records : List TransactionRecord} (h : (ctx.transactions form j).answer = .ok records) :
    ∀ r ∈ records, ∃ w ∈ g.sessions, w.Shows r.pk r.start r.stop := by
  obtain ⟨conditions, type, period, s', -, -, -, hread, hrecords⟩ := transactions_eq_ok.1 h
  cases hstore.symm.trans (read_eq_ok.1 hread).1
  intro r hr
  obtain ⟨row, hrow, hrecord⟩ := forall₂_mem_right (forall₂_of_mapM_ok hrecords) hr
  apply record_written hkeeps (Store.mem_completed.1 (mem_selected.1 hrow).1)
  exact record_spec hrecord

theorem csvExport_written (hstore : ctx.store = some s) (hs : s.Satisfies Schema.declared)
    (hkeeps : s.Keeps g) (hbatch : 0 < ctx.batchSize) {form : QueryForm} {n : Nat}
    (h : (ctx.csvExport form j).answer = .ok n) :
    ∃ rows, readExport (ctx.csvExport form j).text = some rows ∧ rows.length = n ∧
      ∀ c ∈ rows, ∃ w ∈ g.sessions, w.Shows c.pk c.start c.stop := by
  obtain ⟨conditions, -, htext, hcount⟩ := csvExport_completed hstore hbatch h
  refine ⟨(s.exported conditions).map ExportedRow.columns, ?_, ?_, ?_⟩
  · rw [htext]
    exact readExport_exportText (exported_stopPaired hs conditions)
  · simp [hcount]
  · intro c hc
    obtain ⟨row, hrow, rfl⟩ := List.mem_map.1 hc
    exact hkeeps.session (Store.mem_connected.1 (mem_selected.1 hrow).1).1

/-- A candidate is a meter value that names the session, or whose stamp the session covers. -/
theorem candidate_written (hkeeps : s.Keeps g) {r : TransactionRecord} {w : SessionStamps}
    (hshows : w.Shows r.pk r.start r.stop) {c : Candidate} (hc : c ∈ s.candidates r) :
    ∃ m ∈ s.meterValues, m.candidate = c ∧ ∃ v ∈ g.samples, v.Shows m.pk m.time ∧
      (m.transactionPk = some w.pk ∨ w.Covers v.time) := by
  rcases List.mem_append.1 (List.mem_eraseDups.1 hc) with htagged | hwindowed
  · obtain ⟨m, hm, rfl⟩ := List.mem_map.1 htagged
    obtain ⟨hm, htag⟩ := List.mem_filter.1 hm
    obtain ⟨v, hv, hvshows⟩ := hkeeps.sample hm
    rw [beq_iff_eq, hshows.pk] at htag
    exact ⟨m, hm, rfl, v, hv, hvshows, Or.inl htag⟩
  · obtain ⟨m, hm, rfl⟩ := List.mem_map.1 hwindowed
    obtain ⟨hm, hwindow⟩ := List.mem_filter.1 hm
    obtain ⟨v, hv, hvshows⟩ := hkeeps.sample hm
    rw [Bool.and_eq_true] at hwindow
    exact ⟨m, hm, rfl, v, hv, hvshows, Or.inr ((hshows.covers_iff hvshows).1 hwindow.2)⟩

/-- Details show the stamps of their session.  The readings are those of meter values whose stamps
the session covers, or that name the session. -/
theorem details_written (hstore : ctx.store = some s) (hkeeps : s.Keeps g) {key : Json}
    {d : TransactionDetails} (h : (ctx.details key j).answer = .ok d) :
    ∃ w ∈ g.sessions, w.Shows d.transaction.pk d.transaction.start d.transaction.stop ∧
      (∀ r ∈ d.values, ∃ m ∈ s.meterValues, ∃ v ∈ g.samples, m.sample = r.sample ∧
        v.Shows m.pk r.time ∧ (m.transactionPk = some w.pk ∨ w.Covers v.time)) ∧
      ∀ m ∈ s.meterValues, ∃ v ∈ g.samples, v.Shows m.pk m.time ∧
        (s.connectorKey? d.transaction.chargeBoxId d.transaction.connectorNumber =
            some m.connectorPk → w.Covers v.time → m.sample ∈ d.values.map Reading.sample) := by
  obtain ⟨form, conditions, row, -, -, hrow, hof, hvalues⟩ := details_listed hstore h
  have hin : row.In s := Store.mem_completed.1 (mem_selected.1 hrow).1
  obtain ⟨w, hw, hshows⟩ := record_written hkeeps hin hof
  refine ⟨w, hw, hshows, ?_, ?_⟩
  · intro r hr
    rw [hvalues] at hr
    obtain ⟨⟨c, hc, hsample, htime⟩, -⟩ := mem_firstSeen hr
    obtain ⟨m, hm, rfl, v, hv, hvshows, hwhy⟩ := candidate_written hkeeps hshows hc
    exact ⟨m, hm, v, hv, hsample, ⟨hvshows.pk, htime.symm.trans hvshows.time⟩, hwhy⟩
  · intro m hm
    obtain ⟨v, hv, hvshows⟩ := hkeeps.sample hm
    refine ⟨v, hv, hvshows, fun hconnector hcovers => ?_⟩
    rw [hvalues]
    apply mem_firstSeen_sample.2
    refine ⟨m.candidate, List.mem_eraseDups.2 (List.mem_append_right _ ?_), rfl⟩
    refine List.mem_map_of_mem (List.mem_filter.2 ⟨hm, ?_⟩)
    rw [Bool.and_eq_true, beq_iff_eq]
    exact ⟨hconnector.symm, (hshows.covers_iff hvshows).2 hcovers⟩

/-- The period of a form compares the stamps of sessions. -/
theorem period_written (hkeeps : s.Keeps g) {form : QueryForm} {days : DayReading} {today : Day}
    {period : QueryPeriod} (hperiod : form.period = .known period) (hlook : form.LookBackFits today) :
    ∃ conditions, form.periodConditions days today = .ok conditions ∧
      ∀ t ∈ s.transactions, ∃ w ∈ g.sessions, w.Shows t.pk t.start t.stop ∧
        ∀ c, conditions.all (Condition.holds t c) = true ↔
          form.InPeriod days today w.start.stored period := by
  obtain ⟨conditions, hconditions, -, hholds⟩ := QueryForm.periodConditions_spec hperiod hlook
  refine ⟨conditions, hconditions, fun t ht => ?_⟩
  obtain ⟨w, hw, hshows⟩ := hkeeps.session ht
  refine ⟨w, hw, hshows, fun c => ?_⟩
  rw [← hshows.start]
  exact hholds t c

/-- After any writes, what listings, exports and details show are the stored readings of the stamps
that were written, and these are what the period of a form and the time of a session compare.  A
stored reading is off by the offset of its stamp, so it is the instant that was written just when
there is none. -/
theorem reports_written {writes : List Write} {g : Stamps}
    (hstore : ctx.store = some (Store.empty.run Schema.declared writes))
    (hstamps : g = Stamps.run Schema.declared .empty {} writes) (hbatch : 0 < ctx.batchSize) :
    (g.sessions.map SessionStamps.pk).Nodup ∧
    (∀ form j records, (ctx.transactions form j).answer = .ok records →
      ∀ r ∈ records, ∃ w ∈ g.sessions, w.Shows r.pk r.start r.stop) ∧
    (∀ form j n, (ctx.csvExport form j).answer = .ok n →
      ∃ rows, readExport (ctx.csvExport form j).text = some rows ∧ rows.length = n ∧
        ∀ c ∈ rows, ∃ w ∈ g.sessions, w.Shows c.pk c.start c.stop) ∧
    (∀ key j d, (ctx.details key j).answer = .ok d →
      ∃ w ∈ g.sessions, w.Shows d.transaction.pk d.transaction.start d.transaction.stop ∧
        (∀ r ∈ d.values, ∃ m ∈ (Store.empty.run Schema.declared writes).meterValues,
          ∃ v ∈ g.samples, m.sample = r.sample ∧ v.Shows m.pk r.time ∧
            (m.transactionPk = some w.pk ∨ w.Covers v.time)) ∧
        ∀ m ∈ (Store.empty.run Schema.declared writes).meterValues,
          ∃ v ∈ g.samples, v.Shows m.pk m.time ∧
            ((Store.empty.run Schema.declared writes).connectorKey? d.transaction.chargeBoxId
                d.transaction.connectorNumber = some m.connectorPk →
              w.Covers v.time → m.sample ∈ d.values.map Reading.sample)) ∧
    (∀ (form : QueryForm) days today period, form.period = .known period → form.LookBackFits today →
      ∃ conditions, form.periodConditions days today = .ok conditions ∧
        ∀ t ∈ (Store.empty.run Schema.declared writes).transactions,
          ∃ w ∈ g.sessions, w.Shows t.pk t.start t.stop ∧
            ∀ c, conditions.all (Condition.holds t c) = true ↔
              form.InPeriod days today w.start.stored period) ∧
    ∀ (stamp : Stamp) i, stamp.instant? = some i →
      (stamp.stored.ticks : Int) = i.ticks + stamp.offset.getD 0 ∧
        (stamp.stored = i ↔ stamp.offset.getD 0 = 0) := by
  have hs := Store.run_satisfies Store.empty_satisfies writes
  have hkeeps : (Store.empty.run Schema.declared writes).Keeps g := by
    rw [hstamps]
    exact Store.run_keeps Store.empty_satisfies Store.empty_keeps writes
  refine ⟨?_, ?_, ?_, ?_, ?_, ?_⟩
  · rw [← hkeeps.map_pk]
    exact hs.transactionKeys_nodup
  · intro form j records h
    exact transactions_written hstore hkeeps h
  · intro form j n h
    exact csvExport_written hstore hs hkeeps hbatch h
  · intro key j d h
    exact details_written hstore hkeeps h
  · intro form days today period hperiod hlook
    exact period_written hkeeps hperiod hlook
  · intro stamp i h
    exact ⟨Stamp.stored_ticks h, Stamp.stored_eq_iff h⟩

/-- The small store, written in UTC: its session is listed with the stamps that it was written with. -/
theorem reports_written_tokyo :
    ∃ records, ((tokyo newYear2026).transactions {} {}).answer = .ok records ∧
      ∀ r ∈ records, ∃ w ∈ (Stamps.run Schema.declared .empty {} Store.smallWrites).sessions,
        w.Shows r.pk r.start r.stop := by
  obtain ⟨record, hanswer⟩ := transactions_tokyo 1
  have hstore : (tokyo newYear2026).store =
      some (Store.empty.run Schema.declared Store.smallWrites) := by
    rw [Store.run_smallWrites]
    rfl
  refine ⟨[record], hanswer, ?_⟩
  exact (reports_written hstore rfl (by decide)).2.1 {} {} [record] hanswer

/-- A session that was written in a clock five hours ahead of UTC is listed with the reading of this
clock, and so with another instant than the one that was written. -/
theorem eastern_moves :
    ∃ (writes : List Write) (ctx : ReportContext) (w : SessionStamps) (i : Instant)
      (r : TransactionRecord), ctx.store = some (Store.empty.run Schema.declared writes) ∧
      (Stamps.run Schema.declared .empty {} writes).sessions = [w] ∧ w.start.instant? = some i ∧
      (ctx.transactions {} {}).answer = .ok [r] ∧ r.pk = w.pk ∧ r.start ≠ i := by
  obtain ⟨r, hanswer, hof⟩ := transactions_tokyo_of 1
  have hpk : r.pk = 7 := hof.pk
  have hstart : r.start = newYear2026 := hof.start
  refine ⟨Store.easternWrites, tokyo newYear2026, ⟨7, Store.easternStamp newYear2026,
    Transaction.small.stop.map Store.easternStamp⟩,
    ⟨⟨739616 * microsPerDay - 5 * 3600000000, by decide⟩⟩, r, ?_, ?_, ?_, hanswer, hpk, ?_⟩
  · rw [Store.run_easternWrites]
    rfl
  · rfl
  · decide
  · rw [hstart]
    decide

end ReportContext

end ChargingReport
