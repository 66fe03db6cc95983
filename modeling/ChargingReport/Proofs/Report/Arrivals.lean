import ChargingReport.Proofs.Report.Reconciliation
import ChargingReport.Proofs.Store.Writes

/-!
# Details while rows are added

What a new row changes in the details of a session.

* One reading more.  `observe` is what a sample adds to some readings: the lesser of two times where
  the sample is known, and a reading of its own where it is not.  `Transaction.Reports` says that
  readings are those of a session, each sample once and with its first time, and
  `Transaction.Reports.notice` is the step: it holds again when a meter value is added and observed.
  Readings of the same session and the same meter values differ in their order alone
  (`Transaction.Reports.perm`), whatever the order and the keys of the meter values are.
* One row more.  `Store.Within` says that no row is lost, which is all that the lookup of a session
  needs (`ReportContext.details_within`).  `Store.candidates_append` is the frame: meter values that
  a session does not own leave its candidates as they are.

`ReportContext.details_over_inserts` puts this together for one insert and for a run of them.
-/

namespace ChargingReport

/-! ## One reading more -/

/-- The lesser of two times. -/
def Instant.least (a b : Instant) : Instant := if b.ticks < a.ticks then b else a

/-- Some readings and one more sample.  A sample that is among the readings keeps the lesser of both
times, and another one becomes a reading. -/
def observe (readings : List Reading) (time : Instant) (sample : Sample) : List Reading :=
  if sample ∈ readings.map Reading.sample then
    readings.map fun r => if r.sample = sample then ⟨r.time.least time, sample⟩ else r
  else ⟨time, sample⟩ :: readings

theorem Instant.least_le_left (a b : Instant) : (a.least b).ticks ≤ a.ticks := by
  unfold least
  split
  · omega
  · exact Nat.le_refl _

theorem map_sample_observe (readings : List Reading) (time : Instant) (sample : Sample) :
    (observe readings time sample).map Reading.sample =
      if sample ∈ readings.map Reading.sample then readings.map Reading.sample
      else sample :: readings.map Reading.sample := by
  unfold observe
  split
  · rw [List.map_map]
    apply List.map_congr_left
    intro r hr
    show (if r.sample = sample then (⟨r.time.least time, sample⟩ : Reading) else r).sample =
      r.sample
    split
    · rename_i h
      exact h.symm
    · rfl
  · rfl

/-- A reading after one more sample is one with another sample, or one of this sample with the lesser
time, or the first one of this sample. -/
theorem mem_observe {readings : List Reading} {time : Instant} {sample : Sample} {r : Reading}
    (h : r ∈ observe readings time sample) :
    (r ∈ readings ∧ r.sample ≠ sample) ∨
      (∃ q ∈ readings, q.sample = sample ∧ r = ⟨q.time.least time, sample⟩) ∨
      (sample ∉ readings.map Reading.sample ∧ r = ⟨time, sample⟩) := by
  unfold observe at h
  split at h
  · obtain ⟨q, hq, rfl⟩ := List.mem_map.1 h
    by_cases hsample : q.sample = sample
    · rw [if_pos hsample]
      exact Or.inr (Or.inl ⟨q, hq, hsample, rfl⟩)
    · rw [if_neg hsample]
      exact Or.inl ⟨hq, hsample⟩
  · rename_i hnew
    rcases List.mem_cons.1 h with rfl | hr
    · exact Or.inr (Or.inr ⟨hnew, rfl⟩)
    · refine Or.inl ⟨hr, fun hsample => hnew ?_⟩
      rw [← hsample]
      exact List.mem_map_of_mem hr

/-- A reading that was there is there with a time that is not later. -/
theorem observe_keeps {readings : List Reading} (time : Instant) (sample : Sample) {r : Reading}
    (hr : r ∈ readings) :
    ∃ q ∈ observe readings time sample, q.sample = r.sample ∧ q.time.ticks ≤ r.time.ticks := by
  unfold observe
  split
  · refine ⟨_, List.mem_map_of_mem hr, ?_⟩
    split
    · rename_i h
      exact ⟨h.symm, r.time.least_le_left time⟩
    · exact ⟨rfl, Nat.le_refl _⟩
  · exact ⟨r, List.mem_cons_of_mem _ hr, rfl, Nat.le_refl _⟩

namespace Transaction

instance (t : Transaction) (m : MeterValue) : Decidable (t.Owns m) :=
  decidable_of_iff (m.transactionPk = some t.pk ∨
    m.connectorPk = t.connectorPk ∧ t.start.ticks ≤ m.time.ticks ∧
      ∀ stop ∈ t.stop, m.time.ticks ≤ stop.ticks) Iff.rfl

/-- The readings of a session after one more meter value. -/
def notice (t : Transaction) (readings : List Reading) (m : MeterValue) : List Reading :=
  if t.Owns m then observe readings m.time m.sample else readings

/-- The reading has a sample of a meter value that the session owns, with the least time of these. -/
def FirstSees (t : Transaction) (ms : List MeterValue) (r : Reading) : Prop :=
  (∃ m ∈ ms, t.Owns m ∧ m.sample = r.sample ∧ m.time = r.time) ∧
    ∀ m ∈ ms, t.Owns m → m.sample = r.sample → r.time.ticks ≤ m.time.ticks

/-- The readings are those of the session, each sample once. -/
structure Reports (t : Transaction) (ms : List MeterValue) (readings : List Reading) : Prop where
  first : ∀ r ∈ readings, t.FirstSees ms r
  all : ∀ m ∈ ms, t.Owns m → m.sample ∈ readings.map Reading.sample
  nodup : (readings.map Reading.sample).Nodup

variable {t : Transaction} {ms ms' : List MeterValue} {m : MeterValue} {r q : Reading}
  {readings readings' : List Reading}

/-! ## Readings and their meter values -/

theorem owns_of_candidate {m m' : MeterValue} (h : m.candidate = m'.candidate) (howns : t.Owns m) :
    t.Owns m' := by
  simp only [MeterValue.candidate, Candidate.mk.injEq] at h
  obtain ⟨hconnector, htransaction, htime, -⟩ := h
  unfold Owns at howns ⊢
  rw [← hconnector, ← htransaction, ← htime]
  exact howns

theorem FirstSees.eq (hr : t.FirstSees ms r) (hq : t.FirstSees ms q) (h : r.sample = q.sample) :
    r = q := by
  obtain ⟨⟨m, hm, howns, hsample, htime⟩, hleast⟩ := hr
  obtain ⟨⟨m', hm', howns', hsample', htime'⟩, hleast'⟩ := hq
  have hle : r.time.ticks ≤ q.time.ticks := htime' ▸ hleast m' hm' howns' (hsample'.trans h.symm)
  have hge : q.time.ticks ≤ r.time.ticks := htime ▸ hleast' m hm howns (hsample.trans h)
  obtain ⟨rtime, rsample⟩ := r
  obtain ⟨qtime, qsample⟩ := q
  have hsame : rtime = qtime := Instant.ext_ticks (Nat.le_antisymm hle hge)
  simp only at h
  rw [hsame, h]

/-- Meter values count by their columns without the key, and not by their order. -/
theorem FirstSees.congr (h : t.FirstSees ms r)
    (hsame : ∀ c, c ∈ ms.map MeterValue.candidate ↔ c ∈ ms'.map MeterValue.candidate) :
    t.FirstSees ms' r := by
  obtain ⟨⟨m, hm, howns, hsample, htime⟩, hleast⟩ := h
  constructor
  · obtain ⟨m', hm', hcandidate⟩ := List.mem_map.1 ((hsame _).1 (List.mem_map_of_mem hm))
    have howns' := owns_of_candidate hcandidate.symm howns
    simp only [MeterValue.candidate, Candidate.mk.injEq] at hcandidate
    exact ⟨m', hm', howns', hcandidate.2.2.2.trans hsample, hcandidate.2.2.1.trans htime⟩
  · intro m' hm' howns' hsample'
    obtain ⟨m, hm, hcandidate⟩ := List.mem_map.1 ((hsame _).2 (List.mem_map_of_mem hm'))
    have howns := owns_of_candidate hcandidate.symm howns'
    simp only [MeterValue.candidate, Candidate.mk.injEq] at hcandidate
    have hle := hleast m hm howns (hcandidate.2.2.2.trans hsample')
    rwa [hcandidate.2.2.1] at hle

/-- A reading stays a first one when the meter value that is added is not before it. -/
theorem FirstSees.append (h : t.FirstSees ms r)
    (hnew : t.Owns m → m.sample = r.sample → r.time.ticks ≤ m.time.ticks) :
    t.FirstSees (ms ++ [m]) r := by
  obtain ⟨⟨m', hm', hfound⟩, hleast⟩ := h
  refine ⟨⟨m', List.mem_append_left _ hm', hfound⟩, ?_⟩
  intro n hn howns hsample
  rcases List.mem_append.1 hn with hold | hlast
  · exact hleast n hold howns hsample
  · cases List.mem_singleton.1 hlast
    exact hnew howns hsample

/-- The meter value that is added is a first reading when it is not after the others with its
sample. -/
theorem firstSees_last (howns : t.Owns m)
    (hold : ∀ n ∈ ms, t.Owns n → n.sample = m.sample → m.time.ticks ≤ n.time.ticks) :
    t.FirstSees (ms ++ [m]) ⟨m.time, m.sample⟩ := by
  refine ⟨⟨m, List.mem_append_right _ (List.mem_singleton_self m), howns, rfl, rfl⟩, ?_⟩
  intro n hn hnowns hsample
  rcases List.mem_append.1 hn with hbefore | hlast
  · exact hold n hbefore hnowns hsample
  · cases List.mem_singleton.1 hlast
    exact Nat.le_refl _

/-- The lesser of two times is a first one, where one is a first one and the other is added. -/
theorem FirstSees.least (h : t.FirstSees ms r) (howns : t.Owns m) (hsample : r.sample = m.sample) :
    t.FirstSees (ms ++ [m]) ⟨r.time.least m.time, m.sample⟩ := by
  unfold Instant.least
  split
  · rename_i hearlier
    apply firstSees_last howns
    intro n hn hnowns hnsample
    exact Nat.le_trans (Nat.le_of_lt hearlier) (h.2 n hn hnowns (hnsample.trans hsample.symm))
  · rename_i hlater
    rw [← hsample]
    exact h.append fun _ _ => Nat.le_of_not_lt hlater

namespace Reports

theorem subset (h : t.Reports ms readings) (h' : t.Reports ms' readings')
    (hsame : ∀ c, c ∈ ms.map MeterValue.candidate ↔ c ∈ ms'.map MeterValue.candidate) :
    readings ⊆ readings' := by
  intro r hr
  have hfirst := (h.first r hr).congr hsame
  obtain ⟨m, hm, howns, hsample, -⟩ := hfirst.1
  obtain ⟨q, hq, hqsample⟩ := List.mem_map.1 (h'.all m hm howns)
  have heq : r = q := hfirst.eq (h'.first q hq) (hsample.symm.trans hqsample.symm)
  exact heq ▸ hq

/-- The readings of a session and its meter values are determined up to their order. -/
theorem perm (h : t.Reports ms readings) (h' : t.Reports ms' readings')
    (hsame : ∀ c, c ∈ ms.map MeterValue.candidate ↔ c ∈ ms'.map MeterValue.candidate) :
    readings.Perm readings' := by
  rw [List.perm_ext_iff_of_nodup (List.Nodup.of_map _ h.nodup) (List.Nodup.of_map _ h'.nodup)]
  intro r
  exact ⟨fun hr => h.subset h' hsame hr, fun hr => h'.subset h (fun c => (hsame c).symm) hr⟩

theorem firstSees_observe (h : t.Reports ms readings) (howns : t.Owns m)
    (hr : r ∈ ChargingReport.observe readings m.time m.sample) : t.FirstSees (ms ++ [m]) r := by
  rcases mem_observe hr with ⟨hr, hother⟩ | ⟨q, hq, hsample, rfl⟩ | ⟨hnew, rfl⟩
  · exact (h.first r hr).append fun _ hsample => absurd hsample.symm hother
  · exact (h.first q hq).least howns hsample
  · apply firstSees_last howns
    intro n hn hnowns hsample
    have hknown := h.all n hn hnowns
    rw [hsample] at hknown
    exact absurd hknown hnew

/-- One more meter value that the session owns is observed. -/
theorem observe (h : t.Reports ms readings) (howns : t.Owns m) :
    t.Reports (ms ++ [m]) (observe readings m.time m.sample) := by
  refine ⟨fun r hr => h.firstSees_observe howns hr, ?_, ?_⟩
  · intro n hn hnowns
    rw [map_sample_observe]
    rcases List.mem_append.1 hn with hold | hlast
    · have hmem := h.all n hold hnowns
      split
      · exact hmem
      · exact List.mem_cons_of_mem _ hmem
    · cases List.mem_singleton.1 hlast
      split
      · assumption
      · exact List.mem_cons_self
  · rw [map_sample_observe]
    split
    · exact h.nodup
    · rename_i hnew
      exact List.nodup_cons.2 ⟨hnew, h.nodup⟩

/-- The step: readings of a session go on being its readings, if each new meter value is noticed. -/
theorem notice (h : t.Reports ms readings) (m : MeterValue) :
    t.Reports (ms ++ [m]) (t.notice readings m) := by
  unfold Transaction.notice
  split
  · rename_i howns
    exact h.observe howns
  · rename_i hother
    refine ⟨fun r hr => (h.first r hr).append fun howns => absurd howns hother, ?_, h.nodup⟩
    intro n hn howns
    rcases List.mem_append.1 hn with hold | hnew
    · exact h.all n hold howns
    · cases List.mem_singleton.1 hnew
      exact absurd howns hother

/-- The run: the same for any number of meter values, one after the other. -/
theorem foldl_notice (h : t.Reports ms readings) (added : List MeterValue) :
    t.Reports (ms ++ added) (added.foldl t.notice readings) := by
  induction added generalizing ms readings with
  | nil =>
    rw [List.append_nil]
    exact h
  | cons m added ih =>
    have hnext := ih (h.notice m)
    rw [List.append_assoc] at hnext
    exact hnext

end Reports

/-- No reading is lost on the way, and no time moves to a later one. -/
theorem foldl_notice_keeps (added : List MeterValue) (hr : r ∈ readings) :
    ∃ q ∈ added.foldl t.notice readings, q.sample = r.sample ∧ q.time.ticks ≤ r.time.ticks := by
  induction added generalizing readings r with
  | nil => exact ⟨r, hr, rfl, Nat.le_refl _⟩
  | cons m added ih =>
    have hstep : ∃ q ∈ t.notice readings m, q.sample = r.sample ∧ q.time.ticks ≤ r.time.ticks := by
      unfold notice
      split
      · exact observe_keeps m.time m.sample hr
      · exact ⟨r, hr, rfl, Nat.le_refl _⟩
    obtain ⟨q, hq, hsample, hle⟩ := hstep
    obtain ⟨p, hp, hpsample, hple⟩ := ih hq
    exact ⟨p, hp, hpsample.trans hsample, Nat.le_trans hple hle⟩

end Transaction

/-! ## One row more -/

/-- The meter value that a draft adds, if it is one. -/
def Draft.meterValue? : Draft → Int → Option MeterValue
  | .meterValue d, key => (d.row key).toOption
  | _, _ => none

/-- The meter value that a draft adds, without its key. -/
def Draft.candidate? (draft : Draft) : Option Candidate :=
  (draft.meterValue? 0).map MeterValue.candidate

theorem Draft.map_candidate_meterValue (draft : Draft) (key : Int) :
    (draft.meterValue? key).map MeterValue.candidate = draft.candidate? := by
  cases draft with
  | meterValue d =>
    obtain ⟨pk, connectorPk, transactionPk, time, sample⟩ := d
    cases connectorPk <;> cases time <;> rfl
  | chargeBox d => rfl
  | connector d => rfl
  | tag d => rfl
  | transaction d => rfl

namespace Store

variable {schema : Schema} {s s' s'' : Store}

/-- The rows that a session is looked up by are not lost. -/
structure Within (s s' : Store) : Prop where
  chargeBoxes : s.chargeBoxes ⊆ s'.chargeBoxes
  connectors : s.connectors ⊆ s'.connectors
  tags : s.tags ⊆ s'.tags
  transactions : s.transactions ⊆ s'.transactions

theorem Within.refl (s : Store) : s.Within s :=
  ⟨fun _ h => h, fun _ h => h, fun _ h => h, fun _ h => h⟩

theorem Within.trans (h : s.Within s') (h' : s'.Within s'') : s.Within s'' :=
  ⟨fun _ hr => h'.chargeBoxes (h.chargeBoxes hr), fun _ hr => h'.connectors (h.connectors hr),
    fun _ hr => h'.tags (h.tags hr), fun _ hr => h'.transactions (h.transactions hr)⟩

theorem Within.listed (h : s.Within s') {row : ListedRow} (hrow : row.In s) : row.In s' := by
  obtain ⟨⟨ht, hc, hjoin⟩, ⟨hb, hbox⟩, hg, htag⟩ := hrow
  exact ⟨⟨h.transactions ht, h.connectors hc, hjoin⟩, ⟨h.chargeBoxes hb, hbox⟩, h.tags hg, htag⟩

/-- An accepted draft loses no row, and adds its meter value behind the others. -/
theorem insert_grows {draft : Draft} {key : Int} (h : s.insert schema draft = .ok (key, s')) :
    s.Within s' ∧ s'.meterValues = s.meterValues ++ (draft.meterValue? key).toList := by
  obtain ⟨t, -, -, -, -, happend⟩ := insert_inv h
  have hsame := Within.refl s
  cases draft with
  | chargeBox d =>
    obtain ⟨r, hr, happend⟩ := bind_eq_ok.1 happend
    cases happend
    exact ⟨{ hsame with chargeBoxes := fun _ h => List.mem_append_left _ h },
      (List.append_nil _).symm⟩
  | connector d =>
    obtain ⟨r, hr, happend⟩ := bind_eq_ok.1 happend
    cases happend
    exact ⟨{ hsame with connectors := fun _ h => List.mem_append_left _ h },
      (List.append_nil _).symm⟩
  | tag d =>
    obtain ⟨r, hr, happend⟩ := bind_eq_ok.1 happend
    cases happend
    exact ⟨{ hsame with tags := fun _ h => List.mem_append_left _ h }, (List.append_nil _).symm⟩
  | transaction d =>
    obtain ⟨r, hr, happend⟩ := bind_eq_ok.1 happend
    cases happend
    exact ⟨{ hsame with transactions := fun _ h => List.mem_append_left _ h },
      (List.append_nil _).symm⟩
  | meterValue d =>
    obtain ⟨r, hr, happend⟩ := bind_eq_ok.1 happend
    cases happend
    refine ⟨{ hsame with }, ?_⟩
    show s.meterValues ++ [r] = s.meterValues ++ (d.row key).toOption.toList
    rw [hr]
    rfl

/-- Accepted drafts lose no row, and add their meter values behind the others, in order. -/
theorem insertAll_grows {drafts : List Draft} {keys : List Int}
    (h : s.insertAll schema drafts = .ok (keys, s')) :
    s.Within s' ∧ ∃ added, s'.meterValues = s.meterValues ++ added ∧
      added.map MeterValue.candidate = drafts.filterMap Draft.candidate? := by
  induction drafts generalizing s keys with
  | nil =>
    cases h
    exact ⟨Within.refl _, [], (List.append_nil _).symm, rfl⟩
  | cons draft rest ih =>
    obtain ⟨⟨key, s₁⟩, hfirst, h⟩ := bind_eq_ok.1 h
    obtain ⟨⟨keys', s₂⟩, hrest, h⟩ := bind_eq_ok.1 h
    cases h
    obtain ⟨hwithin, hvalues⟩ := insert_grows hfirst
    obtain ⟨hwithin', added, hvalues', hcandidates⟩ := ih hrest
    refine ⟨hwithin.trans hwithin', (draft.meterValue? key).toList ++ added, ?_, ?_⟩
    · rw [hvalues', hvalues, List.append_assoc]
    · have hone := draft.map_candidate_meterValue key
      rw [List.map_append, hcandidates]
      cases hvalue : draft.meterValue? key with
      | none =>
        rw [hvalue, Option.map_none] at hone
        rw [List.filterMap_cons_none hone.symm]
        rfl
      | some m =>
        rw [hvalue, Option.map_some] at hone
        rw [List.filterMap_cons_some hone.symm]
        rfl

theorem insertAll_satisfies (hs : s.Satisfies schema) {drafts : List Draft} {keys : List Int}
    (h : s.insertAll schema drafts = .ok (keys, s')) : s'.Satisfies schema :=
  insertAll_induction (P := fun s => s.Satisfies schema)
    (fun _ _ _ _ hs hone => insert_satisfies hs hone) hs h

/-- The readings of a record that shows a session are those of the session. -/
theorem Shows.reports {t : Transaction} {r : TransactionRecord} (h : s.Shows r t) :
    t.Reports s.meterValues (s.readings r) := by
  refine ⟨?_, ?_, nodup_firstSeen _⟩
  · intro q hq
    obtain ⟨⟨c, hc, hsample, htime⟩, hleast⟩ := mem_firstSeen hq
    obtain ⟨m, hm, howns, rfl⟩ := h.mem_candidates.1 hc
    refine ⟨⟨m, hm, howns, hsample, htime⟩, ?_⟩
    intro n hn hnowns hnsample
    exact hleast n.candidate (h.mem_candidates.2 ⟨n, hn, hnowns, rfl⟩) hnsample
  · intro m hm howns
    exact mem_firstSeen_sample.2 ⟨m.candidate, h.mem_candidates.2 ⟨m, hm, howns, rfl⟩, rfl⟩

/-- Meter values that the session does not own are no candidates. -/
theorem candidates_append {t : Transaction} {r : TransactionRecord} (h : s.Shows r t)
    (h' : s'.Shows r t) {added : List MeterValue}
    (hvalues : s'.meterValues = s.meterValues ++ added) (hother : ∀ m ∈ added, ¬ t.Owns m) :
    s'.candidates r = s.candidates r := by
  have htagged : s'.tagged r = s.tagged r := by
    have hnone : added.filter (fun m => m.transactionPk == some r.pk) = [] := by
      rw [List.filter_eq_nil_iff]
      intro m hm htag
      rw [h.pk, beq_iff_eq] at htag
      exact hother m hm (Or.inl htag)
    rw [tagged, tagged, hvalues, List.filter_append, hnone, List.append_nil]
  have hwindowed : s'.windowed r = s.windowed r := by
    have hnone : added.filter (fun m => some m.connectorPk == some t.connectorPk &&
        r.covers m.time) = [] := by
      rw [List.filter_eq_nil_iff]
      intro m hm hwindow
      rw [Bool.and_eq_true, beq_iff_eq, Option.some.injEq, TransactionRecord.covers_iff, h.start,
        h.stop] at hwindow
      exact hother m hm (Or.inr hwindow)
    simp only [windowed, h.connector, h'.connector]
    rw [hvalues, List.filter_append, hnone, List.append_nil]
  rw [candidates, candidates, htagged, hwindowed]

end Store

namespace ReportContext

variable {ctx : ReportContext} {s s' : Store} {t : Transaction} {j : Journal}
  {d : TransactionDetails}

/-- Details that are given are given again when no row is lost, and show the same session. -/
theorem details_within (hstore : ctx.store = some s) (hs' : s'.Satisfies Schema.declared)
    (hwithin : s.Within s') (h : (ctx.details (.int t.pk) j).answer = .ok d) :
    ∃ d', ({ ctx with store := some s' }.details (.int t.pk) j).answer = .ok d' ∧
      d'.transaction = d.transaction := by
  obtain ⟨s₀, today, row, hstore', htoday, hkey, hrows, hrecord, -⟩ := details_eq_ok.1 h
  obtain rfl : s = s₀ := Option.some.inj (hstore.symm.trans hstore')
  have hrow : row ∈ s.listed [.keyIs t.pk] := by
    rw [hrows]
    exact List.mem_singleton_self row
  obtain ⟨hin, hmeets⟩ := mem_selected.1 hrow
  have hpk : row.transaction.pk = t.pk := by
    simpa [ExportedRow.meets, Condition.holds, ListedRow.exported] using hmeets
  have hlisted := Store.listed_key hs' (hwithin.listed (Store.mem_completed.1 hin))
  rw [hpk] at hlisted
  exact ⟨⟨d.transaction, s'.readings d.transaction⟩,
    details_eq_ok.2 ⟨s', today, row, rfl, htoday, hkey, hlisted, hrecord, rfl⟩, rfl⟩

/-- The values of details are the readings of the session. -/
theorem details_reports (hstore : ctx.store = some s) (hs : s.Satisfies Schema.declared)
    (ht : t ∈ s.transactions) (h : (ctx.details (.int t.pk) j).answer = .ok d) :
    t.Reports s.meterValues d.values := by
  obtain ⟨hshows, hvalues⟩ := details_shows hstore hs ht h
  rw [hvalues]
  exact hshows.reports

/-- The context with another store. -/
def withStore (ctx : ReportContext) (s : Store) : ReportContext := { ctx with store := some s }

/-- Details after more rows: the same session, and its readings with the new meter values
noticed. -/
theorem details_append (hstore : ctx.store = some s) (hs : s.Satisfies Schema.declared)
    (hs' : s'.Satisfies Schema.declared) (hwithin : s.Within s') {added : List MeterValue}
    (hadded : s'.meterValues = s.meterValues ++ added) (ht : t ∈ s.transactions)
    (h : (ctx.details (.int t.pk) j).answer = .ok d) :
    ∃ d', ((ctx.withStore s').details (.int t.pk) j).answer = .ok d' ∧
      d'.transaction = d.transaction ∧
      d'.values.Pairwise (fun a b => a.time.ticks ≤ b.time.ticks) ∧
      d'.values.Perm (added.foldl t.notice d.values) ∧
      ((∀ m ∈ added, ¬ t.Owns m) → d'.values = d.values) := by
  obtain ⟨d', h', htransaction⟩ := details_within hstore hs' hwithin h
  have ht' : t ∈ s'.transactions := hwithin.transactions ht
  obtain ⟨hshows, hvalues⟩ := details_shows hstore hs ht h
  obtain ⟨hshows', hvalues'⟩ := details_shows rfl hs' ht' h'
  refine ⟨d', h', htransaction, ?_, ?_, ?_⟩
  · rw [hvalues']
    exact firstSeen_pairwise _
  · have hbefore := (details_reports hstore hs ht h).foldl_notice added
    have hafter := details_reports rfl hs' ht' h'
    rw [hadded] at hafter
    exact hafter.perm hbefore fun _ => Iff.rfl
  · intro hother
    rw [htransaction] at hshows' hvalues'
    show d'.values = d.values
    rw [hvalues', hvalues, Store.readings, Store.readings,
      Store.candidates_append hshows hshows' hadded hother]

/-- What one accepted row, and a run of them, does to the details of a session.  One row changes
nothing but for a meter value that the session owns, and this one is observed.  A run loses no
reading and makes no time later, and neither the order of its meter values nor their keys count, as
they do not in any two stores. -/
theorem details_over_inserts (hstore : ctx.store = some s) (hs : s.Satisfies Schema.declared)
    (ht : t ∈ s.transactions) (h : (ctx.details (.int t.pk) j).answer = .ok d) :
    (∀ draft key s', s.insert Schema.declared draft = .ok (key, s') →
      s'.meterValues = s.meterValues ++ (draft.meterValue? key).toList ∧
      ∃ d', ((ctx.withStore s').details (.int t.pk) j).answer = .ok d' ∧
        d'.transaction = d.transaction ∧
        d'.values.Pairwise (fun a b => a.time.ticks ≤ b.time.ticks) ∧
        ((∀ m, draft.meterValue? key = some m → ¬ t.Owns m) → d'.values = d.values) ∧
        ∀ m, draft.meterValue? key = some m → t.Owns m →
          d'.values.Perm (observe d.values m.time m.sample)) ∧
    (∀ drafts keys s', s.insertAll Schema.declared drafts = .ok (keys, s') →
      ∃ d', ((ctx.withStore s').details (.int t.pk) j).answer = .ok d' ∧
        d'.transaction = d.transaction ∧
        d'.values.Pairwise (fun a b => a.time.ticks ≤ b.time.ticks) ∧
        (∀ r ∈ d.values, ∃ q ∈ d'.values, q.sample = r.sample ∧ q.time.ticks ≤ r.time.ticks) ∧
        ∀ drafts' keys' s'', s.insertAll Schema.declared drafts' = .ok (keys', s'') →
          (drafts'.filterMap Draft.candidate?).Perm (drafts.filterMap Draft.candidate?) →
          ∃ d'', ((ctx.withStore s'').details (.int t.pk) j).answer = .ok d'' ∧
            d''.transaction = d'.transaction ∧ d''.values.Perm d'.values) ∧
    ∀ s' d', s'.Satisfies Schema.declared → t ∈ s'.transactions →
      ((ctx.withStore s').details (.int t.pk) j).answer = .ok d' →
      (s'.meterValues.map MeterValue.candidate).Perm (s.meterValues.map MeterValue.candidate) →
      d'.values.Perm d.values := by
  refine ⟨?_, ?_, ?_⟩
  · intro draft key s' hinsert
    obtain ⟨hwithin, hadded⟩ := Store.insert_grows hinsert
    obtain ⟨d', h', htransaction, hsorted, hvalues, hsame⟩ :=
      details_append hstore hs (Store.insert_satisfies hs hinsert) hwithin hadded ht h
    refine ⟨hadded, d', h', htransaction, hsorted, ?_, ?_⟩
    · intro hother
      apply hsame
      intro m hm
      exact hother m (Option.mem_toList.1 hm)
    · intro m hm howns
      rw [hm] at hvalues
      have hnotice : t.notice d.values m = observe d.values m.time m.sample := if_pos howns
      rw [← hnotice]
      exact hvalues
  · intro drafts keys s' hinsert
    obtain ⟨hwithin, added, hadded, hcandidates⟩ := Store.insertAll_grows hinsert
    obtain ⟨d', h', htransaction, hsorted, hvalues, -⟩ :=
      details_append hstore hs (Store.insertAll_satisfies hs hinsert) hwithin hadded ht h
    refine ⟨d', h', htransaction, hsorted, ?_, ?_⟩
    · intro r hr
      obtain ⟨q, hq, hkeeps⟩ := Transaction.foldl_notice_keeps added hr
      exact ⟨q, hvalues.mem_iff.2 hq, hkeeps⟩
    · intro drafts' keys' s'' hinsert' hperm
      obtain ⟨hwithin', added', hadded', hcandidates'⟩ := Store.insertAll_grows hinsert'
      obtain ⟨d'', h'', htransaction', -, hvalues', -⟩ :=
        details_append hstore hs (Store.insertAll_satisfies hs hinsert') hwithin' hadded' ht h
      refine ⟨d'', h'', htransaction'.trans htransaction.symm, ?_⟩
      have hreports := details_reports hstore hs ht h
      refine (hvalues'.trans ?_).trans hvalues.symm
      refine (hreports.foldl_notice added').perm (hreports.foldl_notice added) fun c => ?_
      rw [List.map_append, List.map_append, hcandidates, hcandidates', List.mem_append,
        List.mem_append, hperm.mem_iff]
  · intro s' d' hs' ht' h' hperm
    have hafter := details_reports rfl hs' ht' h'
    exact hafter.perm (details_reports hstore hs ht h) fun c => hperm.mem_iff

/-- The reading of the small store, five minutes after the start of its session. -/
def earlySample : MeterValue :=
  ⟨3, 3, none, ⟨⟨739616 * microsPerDay + 300000000, by decide⟩⟩,
    ⟨some "150", none, none, none, none, some "Wh"⟩⟩

/-- The draft of the early reading, and the small store with it. -/
def earlyDraft : Draft :=
  .meterValue { connectorPk := some 3, time := some ⟨earlySample.time.utc, some 0⟩,
                sample := earlySample.sample }

theorem insert_early : Store.small.insert Schema.declared earlyDraft =
    .ok (3, { Store.small with meterValues := Store.small.meterValues ++ [earlySample] }) := by
  decide

theorem details_over_inserts_tokyo :
    ∃ d d' s', ((tokyo newYear2026).details (.int 7) {}).answer = .ok d ∧
      Store.small.insert Schema.declared earlyDraft = .ok (3, s') ∧
      (((tokyo newYear2026).withStore s').details (.int 7) {}).answer = .ok d' ∧
      d'.values.Perm (observe d.values earlySample.time earlySample.sample) := by
  obtain ⟨d, hd⟩ := details_tokyo
  have ht : Transaction.small ∈ Store.small.transactions := List.mem_singleton_self _
  obtain ⟨-, d', hd', -, -, -, hobserved⟩ :=
    (details_over_inserts rfl Store.small_satisfies ht hd).1 earlyDraft 3 _ insert_early
  exact ⟨d, d', _, hd, insert_early, hd', hobserved earlySample rfl (by decide)⟩

end ReportContext

end ChargingReport
