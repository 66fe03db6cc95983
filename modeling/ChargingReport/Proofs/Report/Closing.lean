import ChargingReport.Proofs.Report.Arrivals

/-!
# Sessions that end earlier, later or not yet

The details of one session, once for each end that it may have.  Nothing else in the store changes.

* Rows.  `Store.endAt` is the store in which a session has some end, and an accepted stop leads to
  such a store (`Store.stop_endAt`).  The session is found as before (`Store.listed_endAt`).
* Candidates.  A record with a later end has more of them (`Store.candidates_widen`), and the new
  ones are after the earlier end (`Store.after_of_new`).
* Readings.  `Widens` says what becomes of readings when the end is later.

`ReportContext.closing_narrows` puts them together.
-/

namespace ChargingReport

/-- The end of a session: its time, and what the meter showed. -/
structure Ending where
  time : Instant
  value : String

/-- An end that is not after another one.  A session that goes on ends after all others. -/
def NotAfter (a b : Option Ending) : Prop :=
  ∀ later, b = some later → ∃ earlier, a = some earlier ∧ earlier.time.ticks ≤ later.time.ticks

/-- No reading is lost, and none gets a later time.  A reading that is not after the end of the
narrower session keeps its time. -/
def Widens (e : Option Ending) (narrow wide : List Reading) : Prop :=
  ∀ r ∈ narrow, ∃ q ∈ wide, q.sample = r.sample ∧ q.time.ticks ≤ r.time.ticks ∧
    ∀ last, e = some last → r.time.ticks ≤ last.time.ticks → q.time = r.time

/-! ## Rows -/

/-- The session with this end, if it has the key. -/
def Transaction.endAt (pk : Int) (e : Option Ending) (t : Transaction) : Transaction :=
  if t.pk = pk then { t with stop := e.map Ending.time, stopValue := e.map Ending.value } else t

/-- The row of a session with this end, if it has the key. -/
def ListedRow.endAt (pk : Int) (e : Option Ending) (r : ListedRow) : ListedRow :=
  { r with transaction := r.transaction.endAt pk e }

/-- The store in which the session with a key has this end, or goes on. -/
def Store.endAt (s : Store) (pk : Int) (e : Option Ending) : Store :=
  { s with transactions := s.transactions.map (Transaction.endAt pk e) }

namespace Transaction

variable {pk : Int} {e : Option Ending}

@[simp] theorem endAt_pk (t : Transaction) : (t.endAt pk e).pk = t.pk := by
  unfold endAt
  split <;> rfl

@[simp] theorem endAt_connectorPk (t : Transaction) :
    (t.endAt pk e).connectorPk = t.connectorPk := by
  unfold endAt
  split <;> rfl

@[simp] theorem endAt_idTag (t : Transaction) : (t.endAt pk e).idTag = t.idTag := by
  unfold endAt
  split <;> rfl

@[simp] theorem endAt_start (t : Transaction) : (t.endAt pk e).start = t.start := by
  unfold endAt
  split <;> rfl

theorem endAt_stop {t : Transaction} (hpk : t.pk = pk) :
    (t.endAt pk e).stop = e.map Ending.time := by
  rw [endAt, if_pos hpk]

end Transaction

namespace Store

variable {s : Store}

/-- The row of a session is found by its key, whatever its end. -/
theorem listed_endAt (s : Store) (pk : Int) (e : Option Ending) (key : Int) :
    (s.endAt pk e).listed [.keyIs key] = (s.listed [.keyIs key]).map (ListedRow.endAt pk e) := by
  have hconnected : (s.endAt pk e).connected =
      s.connected.map fun r => { r with transaction := r.transaction.endAt pk e } :=
    joinOn_map (fun t c => by rw [Transaction.endAt_connectorPk]) fun _ _ => rfl
  have hlocated : (s.endAt pk e).located = s.located.map fun r =>
      ({ r.1 with transaction := r.1.transaction.endAt pk e }, r.2) := by
    rw [located, hconnected]
    exact joinOn_map (fun _ _ => rfl) fun _ _ => rfl
  have hcompleted : (s.endAt pk e).completed = s.completed.map (ListedRow.endAt pk e) := by
    rw [completed, hlocated]
    exact joinOn_map (fun r g => by rw [Transaction.endAt_idTag]) fun _ _ => rfl
  rw [listed, hcompleted]
  refine selected_map (fun r => ?_) fun r => ?_
  · simp [ListedRow.exported, ListedRow.endAt]
  · simp [ListedRow.exported, ListedRow.endAt, ExportedRow.meets, Condition.holds]

/-- An accepted stop with a time and a value leaves the store in which the session has this end. -/
theorem stop_endAt (hs : s.Satisfies Schema.declared) {pk : Int} {time : Stamp} {value : String}
    {t' : Transaction} {s' : Store}
    (h : s.stop Schema.declared pk (some time) (some value) = .ok (some (t', s'))) :
    s' = s.endAt pk (some ⟨time.stored, value⟩) := by
  obtain ⟨t, ht, hpk, rfl, -, rfl⟩ := stop_inv h
  have hmap : s.transactions.map (fun r => if r.pk = pk then stopped t (some time) (some value)
      else r) = s.transactions.map (Transaction.endAt pk (some ⟨time.stored, value⟩)) := by
    apply List.map_congr_left
    intro r hr
    unfold Transaction.endAt
    split
    · rename_i hkey
      rw [List.inj_on_of_nodup_map hs.transactionKeys_nodup hr ht (hkey.trans hpk.symm)]
      rfl
    · rfl
  rw [hmap]
  rfl

end Store

/-! ## Candidates -/

/-- Two records of one session, the first of which does not end later. -/
structure TransactionRecord.Shortens (r r' : TransactionRecord) : Prop where
  pk : r.pk = r'.pk
  chargeBoxId : r.chargeBoxId = r'.chargeBoxId
  connectorNumber : r.connectorNumber = r'.connectorNumber
  start : r.start = r'.start
  stop : ∀ later, r'.stop = some later → ∃ earlier, r.stop = some earlier ∧
    earlier.ticks ≤ later.ticks

namespace Store

variable {s : Store} {r r' : TransactionRecord}

theorem candidates_widen (h : r.Shortens r') : s.candidates r ⊆ s.candidates r' := by
  intro c hc
  obtain ⟨m, hm, hfrom, rfl⟩ := mem_candidates_iff.1 hc
  refine mem_candidates_iff.2 ⟨m, hm, ?_, rfl⟩
  rcases hfrom with htag | ⟨hconnector, hcovers⟩
  · exact Or.inl (h.pk ▸ htag)
  · rw [TransactionRecord.covers_iff] at hcovers
    obtain ⟨hstart, hstop⟩ := hcovers
    refine Or.inr ⟨?_, TransactionRecord.covers_iff.2 ⟨h.start ▸ hstart, ?_⟩⟩
    · rw [← h.chargeBoxId, ← h.connectorNumber]
      exact hconnector
    · intro later hlater
      obtain ⟨earlier, hearlier, hle⟩ := h.stop later hlater
      exact Nat.le_trans (hstop earlier hearlier) hle

/-- A candidate of the longer record alone is after the end of the shorter one. -/
theorem after_of_new (h : r.Shortens r') {c : Candidate} (hc : c ∈ s.candidates r')
    (hnew : c ∉ s.candidates r) :
    ∃ earlier, r.stop = some earlier ∧ earlier.ticks < c.time.ticks := by
  obtain ⟨m, hm, hfrom, rfl⟩ := mem_candidates_iff.1 hc
  rcases hfrom with htag | ⟨hconnector, hcovers⟩
  · exact absurd (mem_candidates_iff.2 ⟨m, hm, Or.inl (h.pk ▸ htag), rfl⟩) hnew
  · rw [← h.chargeBoxId, ← h.connectorNumber] at hconnector
    have hstart := (TransactionRecord.covers_iff.1 hcovers).1
    rw [← h.start] at hstart
    by_contra hnone
    have hcovers' : r.covers m.time = true := by
      refine TransactionRecord.covers_iff.2 ⟨hstart, fun earlier hearlier => ?_⟩
      exact Nat.not_lt.1 fun hlt => hnone ⟨earlier, hearlier, hlt⟩
    exact hnew (mem_candidates_iff.2 ⟨m, hm, Or.inr ⟨hconnector, hcovers'⟩, rfl⟩)

/-- The readings of a record that ends later are wider. -/
theorem readings_widen (h : r.Shortens r') {e : Option Ending} (he : r.stop = e.map Ending.time) :
    Widens e (s.readings r) (s.readings r') := by
  intro q hq
  obtain ⟨p, hp, hsample, hle, hsame⟩ := firstSeen_widens (candidates_widen h) hq
  refine ⟨p, hp, hsample, hle, ?_⟩
  rintro last rfl hbefore
  apply hsame
  intro c hc hnew _
  obtain ⟨earlier, hearlier, hlt⟩ := after_of_new h hc hnew
  cases he.symm.trans hearlier
  exact Nat.le_trans hbefore (Nat.le_of_lt hlt)

end Store

/-! ## Details -/

namespace ReportContext

variable {ctx : ReportContext} {s : Store} {pk : Int} {j : Journal} {a b e : Option Ending}
  {d d' : TransactionDetails}

/-- The details of a session when it has this end. -/
def detailsAt (ctx : ReportContext) (s : Store) (pk : Int) (e : Option Ending) (j : Journal) :
    Except Failure TransactionDetails :=
  ((ctx.withStore (s.endAt pk e)).details (.int pk) j).answer

/-- The details of a session come from the one row with its key, which does not depend on its end. -/
theorem detailsAt_eq_ok : ctx.detailsAt s pk e j = .ok d ↔
    ∃ today row, ctx.today = .ok today ∧ fitsInt64 pk = true ∧ s.listed [.keyIs pk] = [row] ∧
      ctx.record (row.endAt pk e) = .ok d.transaction ∧ d.values = s.readings d.transaction := by
  unfold detailsAt
  rw [details_eq_ok]
  constructor
  · rintro ⟨_, today, row, ⟨⟩, htoday, hkey, hrows, hrecord, hvalues⟩
    rw [Store.listed_endAt] at hrows
    obtain ⟨row', hrow', rfl⟩ := List.map_eq_singleton_iff.1 hrows
    exact ⟨today, row', htoday, hkey, hrow', hrecord, hvalues⟩
  · rintro ⟨today, row, htoday, hkey, hrows, hrecord, hvalues⟩
    refine ⟨_, today, row.endAt pk e, rfl, htoday, hkey, ?_, hrecord, hvalues⟩
    rw [Store.listed_endAt, hrows]
    rfl

theorem pk_of_listed {row : ListedRow} (hrows : s.listed [.keyIs pk] = [row]) :
    row.transaction.pk = pk := by
  have hrow : row ∈ s.listed [.keyIs pk] := hrows ▸ List.mem_singleton_self row
  simpa [ExportedRow.meets, Condition.holds, ListedRow.exported] using (mem_selected.1 hrow).2

/-- The record of a session with this end. -/
theorem record_endAt {row : ListedRow} (hrows : s.listed [.keyIs pk] = [row])
    (h : ctx.record (row.endAt pk e) = .ok d.transaction) :
    d.transaction.pk = pk ∧ d.transaction.chargeBoxId = row.connector.chargeBoxId ∧
      d.transaction.connectorNumber = row.connector.number ∧
      d.transaction.start = row.transaction.start ∧
      d.transaction.stop = e.map Ending.time := by
  have hpk := pk_of_listed hrows
  have hof := record_spec h
  refine ⟨hof.pk.trans ?_, hof.chargeBoxId, hof.connectorNumber, hof.start.trans ?_,
    hof.stop.trans ?_⟩
  · exact (Transaction.endAt_pk _).trans hpk
  · exact Transaction.endAt_start _
  · exact Transaction.endAt_stop hpk

/-- Of two ends, the later one has the wider readings. -/
theorem detailsAt_widen (hab : NotAfter a b) (h : ctx.detailsAt s pk a j = .ok d)
    (h' : ctx.detailsAt s pk b j = .ok d') : Widens a d.values d'.values := by
  obtain ⟨-, row, -, -, hrows, hrecord, hvalues⟩ := detailsAt_eq_ok.1 h
  obtain ⟨-, row', -, -, hrows', hrecord', hvalues'⟩ := detailsAt_eq_ok.1 h'
  cases hrows.symm.trans hrows'
  obtain ⟨hpk, hstation, hnumber, hstart, hstop⟩ := record_endAt hrows hrecord
  obtain ⟨hpk', hstation', hnumber', hstart', hstop'⟩ := record_endAt hrows hrecord'
  have hshortens : d.transaction.Shortens d'.transaction := by
    refine ⟨hpk.trans hpk'.symm, hstation.trans hstation'.symm, hnumber.trans hnumber'.symm,
      hstart.trans hstart'.symm, fun later hlater => ?_⟩
    obtain ⟨last, hlast, rfl⟩ := Option.map_eq_some_iff.1 (hstop'.symm.trans hlater)
    obtain ⟨first, rfl, hle⟩ := hab last hlast
    exact ⟨first.time, hstop, hle⟩
  rw [hvalues, hvalues']
  exact Store.readings_widen hshortens hstop

/-- A sample that names the session is reported, whatever the end. -/
theorem detailsAt_tagged (h : ctx.detailsAt s pk e j = .ok d) {m : MeterValue}
    (hm : m ∈ s.meterValues) (htag : m.transactionPk = some pk) :
    m.sample ∈ d.values.map Reading.sample := by
  obtain ⟨-, row, -, -, hrows, hrecord, hvalues⟩ := detailsAt_eq_ok.1 h
  obtain ⟨hpk, -⟩ := record_endAt hrows hrecord
  rw [hvalues]
  refine mem_firstSeen_sample.2 ⟨m.candidate, Store.mem_candidates_iff.2 ⟨m, hm, Or.inl ?_, rfl⟩, rfl⟩
  rw [htag, hpk]

/-- Details that are given for one end are given for every end that can be shown. -/
theorem detailsAt_shown (h : ctx.detailsAt s pk a j = .ok d)
    (hb : ∀ last, b = some last → ctx.Convertible last.time) :
    ∃ d', ctx.detailsAt s pk b j = .ok d' := by
  obtain ⟨today, row, htoday, hkey, hrows, hrecord, -⟩ := detailsAt_eq_ok.1 h
  obtain ⟨hstart, now, hnow, hclock⟩ := display_inv (record_spec hrecord).startDisplay
  have hstart' : ctx.Convertible (row.endAt pk b).transaction.start := by
    have hsame : (row.endAt pk b).transaction.start = (row.endAt pk a).transaction.start :=
      (Transaction.endAt_start _).trans (Transaction.endAt_start _).symm
    rw [hsame]
    exact hstart
  have hstop' : ∀ stop, (row.endAt pk b).transaction.stop = some stop → ctx.Convertible stop := by
    intro stop hstop
    have hend : (row.endAt pk b).transaction.stop = b.map Ending.time :=
      Transaction.endAt_stop (pk_of_listed hrows)
    obtain ⟨last, hlast, rfl⟩ := Option.map_eq_some_iff.1 (hend.symm.trans hstop)
    exact hb last hlast
  obtain ⟨r, hr⟩ := record_ok hnow hclock hstart' hstop'
  exact ⟨⟨r, s.readings r⟩, detailsAt_eq_ok.2 ⟨today, row, htoday, hkey, hrows, hr, rfl⟩⟩

/-- The details of a session that ends earlier, later or not yet, in any store.

* Of two ends that are shown, the one that is not after the other has the narrower readings.
* For every end, the samples that name the session are reported, even if the end is before the start.
* Whether details are given depends on the end only if its time cannot be shown. -/
theorem closing_narrows (ctx : ReportContext) (s : Store) (pk : Int) (j : Journal) :
    (∀ a b d d', NotAfter a b → ctx.detailsAt s pk a j = .ok d → ctx.detailsAt s pk b j = .ok d' →
      Widens a d.values d'.values) ∧
    (∀ e d, ctx.detailsAt s pk e j = .ok d → ∀ m ∈ s.meterValues, m.transactionPk = some pk →
      m.sample ∈ d.values.map Reading.sample) ∧
    ∀ a b d, ctx.detailsAt s pk a j = .ok d →
      (∀ last, b = some last → ctx.Convertible last.time) → ∃ d', ctx.detailsAt s pk b j = .ok d' :=
  ⟨fun _ _ _ _ hab h h' => detailsAt_widen hab h h',
    fun _ _ h _ hm htag => detailsAt_tagged h hm htag,
    fun _ _ _ h hb => detailsAt_shown h hb⟩

/-- The end of the session of the small store. -/
def smallEnd : Ending := ⟨⟨⟨newYear2026.ticks + 3600000000, by decide⟩⟩, "200"⟩

/-- An end an hour before the session of the small store starts. -/
def earlyEnd : Ending := ⟨⟨⟨739616 * microsPerDay - 3600000000, by decide⟩⟩, "200"⟩

/-- The session of the small store ends before it starts, or after an hour, or goes on.  Its tagged
sample is reported each time. -/
theorem closing_narrows_tokyo : ∃ d d' d'',
    (tokyo newYear2026).detailsAt .small 7 (some earlyEnd) {} = .ok d ∧
      (tokyo newYear2026).detailsAt .small 7 (some smallEnd) {} = .ok d' ∧
      (tokyo newYear2026).detailsAt .small 7 none {} = .ok d'' ∧
      Widens (some earlyEnd) d.values d'.values ∧ Widens (some smallEnd) d'.values d''.values ∧
      ∀ m ∈ Store.small.meterValues, m.transactionPk = some 7 →
        m.sample ∈ d.values.map Reading.sample := by
  obtain ⟨hwidens, htagged, hshown⟩ := closing_narrows (tokyo newYear2026) .small 7 {}
  obtain ⟨d', hd'⟩ := details_tokyo
  have hsmall : (tokyo newYear2026).detailsAt .small 7 (some smallEnd) {} = .ok d' := hd'
  have hearly : ∀ last, some earlyEnd = some last → (tokyo newYear2026).Convertible last.time := by
    rintro _ ⟨⟩
    exact ⟨_, ofKey_tokyo, by decide⟩
  obtain ⟨d, hd⟩ := hshown _ (some earlyEnd) d' hsmall hearly
  obtain ⟨d'', hd''⟩ := hshown _ none d' hsmall (by simp)
  have hbefore : NotAfter (some earlyEnd) (some smallEnd) := by
    rintro _ ⟨⟩
    exact ⟨earlyEnd, rfl, by decide⟩
  have hopen : NotAfter (some smallEnd) none := by
    intro later hlater
    cases hlater
  exact ⟨d, d', d'', hd, hsmall, hd'', hwidens _ _ _ _ hbefore hd hsmall,
    hwidens _ _ _ _ hopen hsmall hd'', htagged _ _ hd⟩

end ReportContext

end ChargingReport
