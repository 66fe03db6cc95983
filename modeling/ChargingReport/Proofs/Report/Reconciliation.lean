import ChargingReport.Proofs.Report.Lookup
import ChargingReport.Proofs.Report.Readings

/-!
# Details of a stored session

`Transaction.Owns` says which meter values may belong to a session.  Details look the session up by
its key, and the connector by station and number.  Both are found again because keys are not repeated
(`ReportContext.details_inv`, `Store.connectorKey_eq`), so their candidates are the meter values that
the session owns (`Store.mem_candidates`).  `ReportContext.details_exact` says what is made of them.
`Store.Shows` is what a lookup of the session finds (`ReportContext.details_shows`).
-/

namespace ChargingReport

/-- The meter value names the session, or it was taken at the connector of the session and within its
time. -/
def Transaction.Owns (t : Transaction) (m : MeterValue) : Prop :=
  m.transactionPk = some t.pk ∨
    m.connectorPk = t.connectorPk ∧ t.start.ticks ≤ m.time.ticks ∧
      ∀ stop, t.stop = some stop → m.time.ticks ≤ stop.ticks

/-- The record of a session covers the times from its start to its stop. -/
theorem TransactionRecord.covers_iff {r : TransactionRecord} {time : Instant} :
    r.covers time = true ↔
      r.start.ticks ≤ time.ticks ∧ ∀ stop, r.stop = some stop → time.ticks ≤ stop.ticks := by
  unfold covers
  cases r.stop with
  | none => simp [Instant.columnLe_iff]
  | some stop => simp [Instant.columnLe_iff]

namespace Store

variable {s : Store}

/-- The connector with a number at a station is found under both. -/
theorem connectorKey_eq (hs : s.Satisfies Schema.declared) {c : Connector}
    (hc : c ∈ s.connectors) : s.connectorKey? c.chargeBoxId c.number = some c.pk := by
  have hfound : s.connectors.find? (fun d =>
      d.chargeBoxId == c.chargeBoxId && d.number == c.number) = some c := by
    refine find?_eq_of_nodup hs.connectorPlaces_nodup hc ?_ fun d hd => ?_
    · rw [beq_self_eq_true, beq_self_eq_true, Bool.and_self]
    · rw [Bool.and_eq_true, beq_iff_eq, beq_iff_eq] at hd
      exact Prod.ext hd.1 hd.2
  rw [connectorKey?, hfound]
  rfl

/-- A candidate of a record names its session, or it was taken at the connector that its station and
number lead to, within the time of the session. -/
theorem mem_candidates_iff {r : TransactionRecord} {c : Candidate} :
    c ∈ s.candidates r ↔ ∃ m ∈ s.meterValues, (m.transactionPk = some r.pk ∨
      some m.connectorPk = s.connectorKey? r.chargeBoxId r.connectorNumber ∧
        r.covers m.time = true) ∧ m.candidate = c := by
  simp only [candidates, List.mem_eraseDups, List.mem_append, tagged, windowed, List.mem_map,
    List.mem_filter, Bool.and_eq_true, beq_iff_eq]
  constructor
  · rintro (⟨m, ⟨hm, htag⟩, rfl⟩ | ⟨m, ⟨hm, hwindow⟩, rfl⟩)
    · exact ⟨m, hm, Or.inl htag, rfl⟩
    · exact ⟨m, hm, Or.inr hwindow, rfl⟩
  · rintro ⟨m, hm, htag | hwindow, rfl⟩
    · exact Or.inl ⟨m, ⟨hm, htag⟩, rfl⟩
    · exact Or.inr ⟨m, ⟨hm, hwindow⟩, rfl⟩

/-- The candidates of a record are the meter values that its session owns, without their keys. -/
theorem mem_candidates {t : Transaction} {r : TransactionRecord} {c : Candidate}
    (hpk : r.pk = t.pk) (hstart : r.start = t.start) (hstop : r.stop = t.stop)
    (hconnector : s.connectorKey? r.chargeBoxId r.connectorNumber = some t.connectorPk) :
    c ∈ s.candidates r ↔ ∃ m ∈ s.meterValues, t.Owns m ∧ m.candidate = c := by
  rw [mem_candidates_iff]
  simp only [hpk, hconnector, TransactionRecord.covers_iff, hstart, hstop, Option.some.injEq,
    Transaction.Owns]

/-- The record has the key and the times of a session, and its station and number lead to the connector
of the session. -/
structure Shows (s : Store) (r : TransactionRecord) (t : Transaction) : Prop where
  pk : r.pk = t.pk
  start : r.start = t.start
  stop : r.stop = t.stop
  connector : s.connectorKey? r.chargeBoxId r.connectorNumber = some t.connectorPk

theorem Shows.mem_candidates {t : Transaction} {r : TransactionRecord} (h : s.Shows r t)
    {c : Candidate} :
    c ∈ s.candidates r ↔ ∃ m ∈ s.meterValues, t.Owns m ∧ m.candidate = c :=
  Store.mem_candidates h.pk h.start h.stop h.connector

end Store

namespace ReportContext

variable {ctx : ReportContext} {s : Store}

/-- Details of a stored session show this session, and the readings of its record. -/
theorem details_shows (hstore : ctx.store = some s) (hs : s.Satisfies Schema.declared)
    {t : Transaction} (ht : t ∈ s.transactions) {j : Journal} {d : TransactionDetails}
    (h : (ctx.details (.int t.pk) j).answer = .ok d) :
    s.Shows d.transaction t ∧ d.values = s.readings d.transaction := by
  obtain ⟨row, ⟨⟨htransaction, hconnector, hjoin⟩, -⟩, hpk, hof, hvalues⟩ := details_inv hstore h
  have hrow : row.transaction = t :=
    List.inj_on_of_nodup_map hs.transactionKeys_nodup htransaction ht hpk
  refine ⟨⟨hof.pk.trans hpk, hrow ▸ hof.start, hrow ▸ hof.stop, ?_⟩, hvalues⟩
  have hfound : s.connectorKey? row.connector.chargeBoxId row.connector.number =
      some row.connector.pk := Store.connectorKey_eq hs hconnector
  rw [hof.chargeBoxId, hof.connectorNumber, hfound, ← hrow]
  exact congrArg some hjoin.symm

/-- The readings in the details of a session have every sample of the meter values that the session
owns, each of them once and with its earliest time, in the order of their times. -/
theorem details_exact (hstore : ctx.store = some s) (hs : s.Satisfies Schema.declared)
    {t : Transaction} (ht : t ∈ s.transactions) {j : Journal} {d : TransactionDetails}
    (h : (ctx.details (.int t.pk) j).answer = .ok d) :
    (∀ m ∈ s.meterValues, t.Owns m → (d.values.map Reading.sample).count m.sample = 1) ∧
      (∀ r ∈ d.values, ∃ m ∈ s.meterValues, t.Owns m ∧ m.sample = r.sample ∧ m.time = r.time) ∧
      (∀ r ∈ d.values, ∀ m ∈ s.meterValues, t.Owns m → m.sample = r.sample →
        r.time.ticks ≤ m.time.ticks) ∧
      d.values.Pairwise (fun a b => a.time.ticks ≤ b.time.ticks) ∧
      d.transaction.pk = t.pk ∧
      s.connectorKey? d.transaction.chargeBoxId d.transaction.connectorNumber =
        some t.connectorPk := by
  obtain ⟨row, hin, hpk, hof, hvalues⟩ := details_inv hstore h
  obtain ⟨⟨htransaction, hconnector, hjoin⟩, -, -⟩ := hin
  have hrow : row.transaction = t :=
    List.inj_on_of_nodup_map hs.transactionKeys_nodup htransaction ht hpk
  have hkey : s.connectorKey? d.transaction.chargeBoxId d.transaction.connectorNumber =
      some t.connectorPk := by
    have hfound : s.connectorKey? row.connector.chargeBoxId row.connector.number =
        some row.connector.pk := Store.connectorKey_eq hs hconnector
    rw [hof.chargeBoxId, hof.connectorNumber, hfound, ← hrow]
    exact congrArg some hjoin.symm
  have hmem : ∀ c, c ∈ s.candidates d.transaction ↔
      ∃ m ∈ s.meterValues, t.Owns m ∧ m.candidate = c := fun c =>
    Store.mem_candidates (hof.pk.trans hpk) (hrow ▸ hof.start) (hrow ▸ hof.stop) hkey
  rw [hvalues, Store.readings]
  refine ⟨fun m hm howns => ?_, fun r hr => ?_, fun r hr m hm howns hsample => ?_,
    firstSeen_pairwise _, hof.pk.trans hpk, hkey⟩
  · refine List.count_eq_one_of_mem (nodup_firstSeen _) (mem_firstSeen_sample.2 ?_)
    exact ⟨m.candidate, (hmem _).2 ⟨m, hm, howns, rfl⟩, rfl⟩
  · obtain ⟨⟨c, hc, hsample, htime⟩, -⟩ := mem_firstSeen hr
    obtain ⟨m, hm, howns, rfl⟩ := (hmem c).1 hc
    exact ⟨m, hm, howns, hsample, htime⟩
  · have hleast := (mem_firstSeen hr).2
    exact hleast m.candidate ((hmem _).2 ⟨m, hm, howns, rfl⟩) hsample

theorem details_tokyo : ∃ d, ((tokyo newYear2026).details (.int 7) {}).answer = .ok d := by
  obtain ⟨d, hd, -⟩ := details_found rfl Store.small_satisfies
    (tokyo_instant _ _) (zoneReads_of_ordinary (by decide)) (tokyo_storedTimes newYear2026 1)
    smallRow_in rfl {}
  exact ⟨d, hd⟩

theorem details_exact_tokyo :
    ∃ d, ((tokyo newYear2026).details (.int 7) {}).answer = .ok d ∧
      ∀ m ∈ Store.small.meterValues, Transaction.small.Owns m →
        (d.values.map Reading.sample).count m.sample = 1 := by
  obtain ⟨d, hd⟩ := details_tokyo
  have ht : Transaction.small ∈ Store.small.transactions := List.mem_singleton_self _
  exact ⟨d, hd, (details_exact rfl Store.small_satisfies ht hd).1⟩

end ReportContext

end ChargingReport
