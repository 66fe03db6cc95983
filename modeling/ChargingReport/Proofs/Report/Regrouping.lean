import ChargingReport.Proofs.Report.Arrivals

/-!
# Readings in place of meter values

The readings of a session can take the place of the meter values that they were made of.

* `Transaction.Holds` is a meter value that takes the place of a reading.  The session owns it, with
  its name or without (`Transaction.Holds.owns`).
* `Transaction.Reports.regroup` is the step from one list of meter values to the other: the meter
  values that the session does not own stay, and all others make room for one meter value for each
  reading.  The readings of the session stay the same.
* `ReportContext.details_of_meterValues` is the frame: the record of a session does not depend on
  meter values.

`ReportContext.details_regrouped` says that details over the readings are the details over the meter
values.
-/

namespace ChargingReport

namespace Transaction

/-- The time lies within the session, the ends included. -/
def Covers (t : Transaction) (time : Instant) : Prop :=
  t.start.ticks ≤ time.ticks ∧ ∀ stop, t.stop = some stop → time.ticks ≤ stop.ticks

/-- The meter value takes the place of a reading of the session.  It was taken at the connector of
the session, and it names the session, or no session if the time lies within this one. -/
structure Holds (t : Transaction) (r : Reading) (m : MeterValue) : Prop where
  connector : m.connectorPk = t.connectorPk
  time : m.time = r.time
  sample : m.sample = r.sample
  tag : m.transactionPk = some t.pk ∨ m.transactionPk = none ∧ t.Covers r.time

variable {t : Transaction} {r : Reading} {m : MeterValue} {ms ms' held : List MeterValue}
  {readings : List Reading}

theorem Holds.owns (h : t.Holds r m) : t.Owns m := by
  rcases h.tag with htag | ⟨-, hcovers⟩
  · exact Or.inl htag
  · refine Or.inr ⟨h.connector, ?_⟩
    rw [h.time]
    exact hcovers

/-- Readings of a session are its readings again when they take the place of its meter values. -/
theorem Reports.regroup (h : t.Reports ms readings) (hheld : List.Forall₂ t.Holds readings held)
    (hms : ms'.Perm (ms.filter (fun m => ¬ t.Owns m) ++ held)) : t.Reports ms' readings := by
  have howned : ∀ m ∈ ms', t.Owns m → ∃ r ∈ readings, t.Holds r m := by
    intro m hm howns
    rcases List.mem_append.1 (hms.mem_iff.1 hm) with hother | hnew
    · simp only [decide_not, List.mem_filter, Bool.not_eq_true', decide_eq_false_iff_not] at hother
      exact absurd howns hother.2
    · exact forall₂_mem_right hheld hnew
  refine ⟨?_, ?_, h.nodup⟩
  · intro r hr
    obtain ⟨m, hm, hholds⟩ := forall₂_mem_left hheld hr
    have hmem : m ∈ ms' := hms.mem_iff.2 (List.mem_append_right _ hm)
    refine ⟨⟨m, hmem, hholds.owns, hholds.sample, hholds.time⟩, ?_⟩
    intro n hn howns hsample
    -- no other reading has this sample, so the meter value holds the reading itself
    obtain ⟨q, hq, hholds'⟩ := howned n hn howns
    have heq : q = r :=
      List.inj_on_of_nodup_map h.nodup hq hr (hholds'.sample.symm.trans hsample)
    rw [hholds'.time, heq]
  · intro m hm howns
    obtain ⟨r, hr, hholds⟩ := howned m hm howns
    rw [hholds.sample]
    exact List.mem_map_of_mem hr

end Transaction

namespace ReportContext

variable {ctx : ReportContext} {s : Store} {t : Transaction} {j : Journal}
  {d : TransactionDetails}

/-- Details that are given are given with any meter values, and show the same record. -/
theorem details_of_meterValues (hstore : ctx.store = some s) {pk : Int}
    (h : (ctx.details (.int pk) j).answer = .ok d) (ms : List MeterValue) (j' : Journal) :
    ((ctx.withStore { s with meterValues := ms }).details (.int pk) j').answer =
      .ok ⟨d.transaction, { s with meterValues := ms }.readings d.transaction⟩ := by
  obtain ⟨s₀, today, row, hstore', htoday, hkey, hrows, hrecord, -⟩ := details_eq_ok.1 h
  obtain rfl : s = s₀ := Option.some.inj (hstore.symm.trans hstore')
  exact details_eq_ok.2 ⟨_, today, row, rfl, htoday, hkey, hrows, hrecord, rfl⟩

/-- Details do not change when the readings take the place of all meter values that the session owns.
Readings with the same time may change places. -/
theorem details_regrouped (hstore : ctx.store = some s) (hs : s.Satisfies Schema.declared)
    (ht : t ∈ s.transactions) (h : (ctx.details (.int t.pk) j).answer = .ok d)
    {held ms : List MeterValue} (hheld : List.Forall₂ t.Holds d.values held)
    (hms : ms.Perm (s.meterValues.filter (fun m => ¬ t.Owns m) ++ held)) (j' : Journal) :
    ∃ d', ((ctx.withStore { s with meterValues := ms }).details (.int t.pk) j').answer = .ok d' ∧
      d'.transaction = d.transaction ∧ d'.values.Perm d.values ∧
      d'.values.Pairwise fun a b => a.time.ticks ≤ b.time.ticks := by
  have hshows : { s with meterValues := ms }.Shows d.transaction t := by
    obtain ⟨hpk, hstart, hstop, hconnector⟩ := (details_shows hstore hs ht h).1
    exact ⟨hpk, hstart, hstop, hconnector⟩
  have hregrouped : t.Reports ms d.values := (details_reports hstore hs ht h).regroup hheld hms
  refine ⟨_, details_of_meterValues hstore h ms j', rfl, ?_, firstSeen_pairwise _⟩
  exact hshows.reports.perm hregrouped fun _ => Iff.rfl

/-- The reading of the small store. -/
def smallReading : Reading :=
  ⟨⟨⟨newYear2026.ticks + 600000000, by decide⟩⟩,
    ⟨some "150", none, none, none, none, some "Wh"⟩⟩

/-- The reading of the small store as a meter value without session. -/
def smallHeld : MeterValue := ⟨9, 3, none, smallReading.time, smallReading.sample⟩

theorem small_reports : Transaction.small.Reports Store.small.meterValues [smallReading] := by
  refine ⟨?_, ?_, List.nodup_singleton _⟩
  · intro r hr
    cases List.mem_singleton.1 hr
    unfold Transaction.FirstSees
    decide
  · decide

/-- One meter value takes the place of two, and the details stay the same. -/
theorem details_regrouped_tokyo : ∃ d d',
    ((tokyo newYear2026).details (.int 7) {}).answer = .ok d ∧
      (((tokyo newYear2026).withStore { Store.small with meterValues := [smallHeld] }).details
        (.int 7) {}).answer = .ok d' ∧
      d.values = [smallReading] ∧ d'.values = [smallReading] := by
  obtain ⟨d, hd⟩ := details_tokyo
  have ht : Transaction.small ∈ Store.small.transactions := List.mem_singleton_self _
  have hvalues : d.values = [smallReading] :=
    ((details_reports rfl Store.small_satisfies ht hd).perm small_reports
      fun _ => Iff.rfl).eq_singleton
  have hheld : List.Forall₂ Transaction.small.Holds d.values [smallHeld] := by
    rw [hvalues]
    refine .cons ⟨rfl, rfl, rfl, Or.inr ⟨rfl, ?_⟩⟩ .nil
    unfold Transaction.Covers
    decide
  have hms : [smallHeld].Perm
      (Store.small.meterValues.filter (fun m => ¬ Transaction.small.Owns m) ++ [smallHeld]) := by
    have hnone : Store.small.meterValues.filter (fun m => ¬ Transaction.small.Owns m) = [] := by
      decide
    rw [hnone, List.nil_append]
  obtain ⟨d', hd', -, hperm, -⟩ :=
    details_regrouped rfl Store.small_satisfies ht hd hheld hms {}
  rw [hvalues] at hperm
  exact ⟨d, d', hd, hd', hvalues, hperm.eq_singleton⟩

end ReportContext

end ChargingReport
