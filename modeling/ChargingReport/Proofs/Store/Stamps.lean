import ChargingReport.Proofs.Calendar.Column
import ChargingReport.Proofs.Store.Writes

/-!
# The stamps that were written

A column keeps the reading of a stamp and forgets its offset.  What was written is therefore not in
the store, and this module keeps it beside the store: `Stamps` are the stamps of all rows, and
`Stamps.run` follows a list of writes as `Store.run` does.

* `Store.Keeps` says that sessions and meter values have, in order, the stored readings of the stamps
  that they were written with.  `Store.insert_keeps` and `Store.stop_keeps` are the steps, and
  `Store.run_keeps` is the run.
* `Stamp.stored_ticks` says how far a stored reading is from the instant that was written: by the
  offset of the stamp.
* `Store.easternWrites` leave the small store, and write its times with an offset of five hours.
-/

namespace ChargingReport

/-! ## What a column keeps of a stamp -/

namespace Stamp

variable {s : Stamp} {i : Instant}

/-- A stored reading is later than the instant of its stamp by the offset of the stamp. -/
theorem stored_ticks (h : s.instant? = some i) :
    (s.stored.ticks : Int) = i.ticks + s.offset.getD 0 :=
  (instant?_eq_some.1 h).symm

/-- The instant of a stamp is what is stored, just when the stamp is one of UTC. -/
theorem stored_eq_iff (h : s.instant? = some i) : s.stored = i ↔ s.offset.getD 0 = 0 := by
  have hticks := stored_ticks h
  constructor
  · intro heq
    rw [heq] at hticks
    omega
  · intro hzero
    apply Instant.ext_ticks
    omega

end Stamp

/-! ## Stamps of rows -/

/-- The stamps that a session was written with. -/
structure SessionStamps where
  pk : Int
  start : Stamp
  stop : Option Stamp

/-- The stamp that a meter value was written with. -/
structure SampleStamp where
  pk : Int
  time : Stamp

/-- The stamps of all rows, in the order of the rows. -/
structure Stamps where
  sessions : List SessionStamps := []
  samples : List SampleStamp := []

namespace Stamps

/-- The stamps with those of a draft that was added under a key. -/
def add (g : Stamps) (draft : Draft) (key : Int) : Stamps :=
  match draft with
  | .transaction d =>
    { g with sessions := g.sessions ++ (d.start.map fun start => ⟨key, start, d.stop⟩).toList }
  | .meterValue d => { g with samples := g.samples ++ (d.time.map fun time => ⟨key, time⟩).toList }
  | _ => g

/-- The stamps with those of drafts that were added under keys. -/
def addAll (g : Stamps) : List Draft → List Int → Stamps
  | draft :: rest, key :: keys => (g.add draft key).addAll rest keys
  | _, _ => g

/-- The stamps after another stop of a session. -/
def stop (g : Stamps) (pk : Int) (time : Option Stamp) : Stamps :=
  { g with sessions := g.sessions.map fun w => if w.pk = pk then { w with stop := time } else w }

/-- The stamps after a write to a store.  A write that is rejected leaves the stamps that were
there. -/
def after (schema : Schema) (s : Store) (g : Stamps) : Write → Stamps
  | .add drafts =>
    match s.insertAll schema drafts with
    | .ok (keys, _) => g.addAll drafts keys
    | .error _ => g
  | .stop pk time value =>
    match s.stop schema pk time value with
    | .ok (some _) => g.stop pk time
    | _ => g

/-- The stamps after some writes to a store, one after the other. -/
def run (schema : Schema) (s : Store) (g : Stamps) : List Write → Stamps
  | [] => g
  | w :: writes => run schema (s.after schema w) (after schema s g w) writes

end Stamps

/-- The key and the times of a session are those that were written, as a column keeps them. -/
structure SessionStamps.Shows (w : SessionStamps) (pk : Int) (start : Instant)
    (stop : Option Instant) : Prop where
  pk : pk = w.pk
  start : start = w.start.stored
  stop : stop = w.stop.map Stamp.stored

/-- The key and the time of a meter value are those that were written, as a column keeps them. -/
structure SampleStamp.Shows (v : SampleStamp) (pk : Int) (time : Instant) : Prop where
  pk : pk = v.pk
  time : time = v.time.stored

namespace Store

variable {schema : Schema} {s s' : Store} {g : Stamps}

/-- The rows of a store are those that were written with some stamps. -/
structure Keeps (s : Store) (g : Stamps) : Prop where
  sessions : List.Forall₂ (fun t w => SessionStamps.Shows w t.pk t.start t.stop) s.transactions
    g.sessions
  samples : List.Forall₂ (fun m v => SampleStamp.Shows v m.pk m.time) s.meterValues g.samples

theorem empty_keeps : empty.Keeps {} := ⟨.nil, .nil⟩

/-- A row that is added goes with its stamps. -/
theorem insert_keeps (h : s.Keeps g) {draft : Draft} {key : Int}
    (hinsert : s.insert schema draft = .ok (key, s')) : s'.Keeps (g.add draft key) := by
  obtain ⟨t, -, -, -, -, happend⟩ := insert_inv hinsert
  cases draft with
  | chargeBox d =>
    obtain ⟨r, -, happend⟩ := bind_eq_ok.1 happend
    cases happend
    exact ⟨h.sessions, h.samples⟩
  | connector d =>
    obtain ⟨r, -, happend⟩ := bind_eq_ok.1 happend
    cases happend
    exact ⟨h.sessions, h.samples⟩
  | tag d =>
    obtain ⟨r, -, happend⟩ := bind_eq_ok.1 happend
    cases happend
    exact ⟨h.sessions, h.samples⟩
  | transaction d =>
    obtain ⟨r, hr, happend⟩ := bind_eq_ok.1 happend
    cases happend
    obtain ⟨connectorPk, -, hr⟩ := bind_eq_ok.1 hr
    obtain ⟨idTag, -, hr⟩ := bind_eq_ok.1 hr
    obtain ⟨start, hstart, hr⟩ := bind_eq_ok.1 hr
    obtain ⟨startValue, -, hr⟩ := bind_eq_ok.1 hr
    cases hr
    rw [required_eq_ok] at hstart
    refine ⟨List.rel_append h.sessions ?_, h.samples⟩
    rw [hstart]
    exact .cons ⟨rfl, rfl, rfl⟩ .nil
  | meterValue d =>
    obtain ⟨r, hr, happend⟩ := bind_eq_ok.1 happend
    cases happend
    obtain ⟨connectorPk, -, hr⟩ := bind_eq_ok.1 hr
    obtain ⟨time, htime, hr⟩ := bind_eq_ok.1 hr
    cases hr
    rw [required_eq_ok] at htime
    refine ⟨h.sessions, List.rel_append h.samples ?_⟩
    rw [htime]
    exact .cons ⟨rfl, rfl⟩ .nil

theorem insertAll_keeps (h : s.Keeps g) {drafts : List Draft} {keys : List Int}
    (hinsert : s.insertAll schema drafts = .ok (keys, s')) : s'.Keeps (g.addAll drafts keys) := by
  induction drafts generalizing s g keys with
  | nil =>
    cases hinsert
    exact h
  | cons draft rest ih =>
    obtain ⟨⟨key, s₁⟩, hfirst, hinsert⟩ := bind_eq_ok.1 hinsert
    obtain ⟨⟨keys', s₂⟩, hrest, hinsert⟩ := bind_eq_ok.1 hinsert
    cases hinsert
    exact ih (insert_keeps h hfirst) hrest

/-- A stop is written into the one session with the key, and goes with its stamp. -/
theorem stop_keeps (hkeys : (s.transactions.map Transaction.pk).Nodup) (h : s.Keeps g) {pk : Int}
    {time : Option Stamp} {value : Option String} {t' : Transaction}
    (hstop : s.stop schema pk time value = .ok (some (t', s'))) : s'.Keeps (g.stop pk time) := by
  obtain ⟨t, ht, rfl, rfl, -, rfl⟩ := stop_inv hstop
  refine ⟨?_, h.samples⟩
  show List.Forall₂ _ (s.transactions.map _) (g.sessions.map _)
  rw [List.forall₂_map_left_iff, List.forall₂_map_right_iff]
  have hpairs := (List.forall₂_and_left _ _).2 ⟨fun r (hr : r ∈ s.transactions) => hr, h.sessions⟩
  refine hpairs.imp ?_
  rintro r w ⟨hr, hshows⟩
  by_cases hpk : r.pk = t.pk
  · -- the stop columns come from the write, and all other columns from the row that was found
    cases List.inj_on_of_nodup_map hkeys hr ht hpk
    rw [if_pos rfl, if_pos hshows.pk.symm]
    exact ⟨hshows.pk, hshows.start, rfl⟩
  · have hother : ¬ w.pk = t.pk := fun hw => hpk (hshows.pk.trans hw)
    rw [if_neg hpk, if_neg hother]
    exact hshows

/-- The step: a write, accepted or rejected, is followed by the stamps. -/
theorem after_keeps (hs : s.Satisfies Schema.declared) (h : s.Keeps g) (w : Write) :
    (s.after Schema.declared w).Keeps (Stamps.after Schema.declared s g w) := by
  cases w with
  | add drafts =>
    cases hinsert : s.insertAll Schema.declared drafts with
    | error e =>
      simp only [after, write, Stamps.after, hinsert]
      exact h
    | ok added =>
      simp only [after, write, Stamps.after, hinsert]
      exact insertAll_keeps h hinsert
  | stop pk time value =>
    cases hstop : s.stop Schema.declared pk time value with
    | error e =>
      simp only [after, write, Stamps.after, hstop]
      exact h
    | ok found =>
      simp only [after, write, Stamps.after, hstop]
      cases found with
      | none => exact h
      | some found => exact stop_keeps hs.transactionKeys_nodup h hstop

/-- The run: whatever is written, the store keeps what the stamps say. -/
theorem run_keeps (hs : s.Satisfies Schema.declared) (h : s.Keeps g) (writes : List Write) :
    (s.run Schema.declared writes).Keeps (Stamps.run Schema.declared s g writes) := by
  induction writes generalizing s g with
  | nil => exact h
  | cons w writes ih =>
    apply ih
    · exact run_satisfies hs [w]
    · exact after_keeps hs h w

/-! ## Rows and their stamps -/

theorem Keeps.session (h : s.Keeps g) {t : Transaction} (ht : t ∈ s.transactions) :
    ∃ w ∈ g.sessions, w.Shows t.pk t.start t.stop :=
  forall₂_mem_left h.sessions ht

theorem Keeps.sample (h : s.Keeps g) {m : MeterValue} (hm : m ∈ s.meterValues) :
    ∃ v ∈ g.samples, v.Shows m.pk m.time :=
  forall₂_mem_left h.samples hm

theorem Keeps.map_pk (h : s.Keeps g) :
    s.transactions.map Transaction.pk = g.sessions.map SessionStamps.pk := by
  rw [← List.forall₂_eq_eq_eq, List.forall₂_map_left_iff, List.forall₂_map_right_iff]
  exact h.sessions.imp fun _ _ hshows => hshows.pk

/-! ## Writes with an offset -/

/-- A reading of a clock that is five hours ahead of UTC. -/
def easternStamp (i : Instant) : Stamp := ⟨i.utc, some (5 * 3600000000)⟩

/-- Writes that make the small store, with its session in a clock five hours ahead of UTC. -/
def easternWrites : List Write :=
  [.add [.chargeBox { chargeBoxId := some "CB" },
      .connector { pk := some 3, chargeBoxId := some "CB", number := some 1 },
      .tag { pk := some 2, idTag := some "TAG" },
      .transaction
        { pk := some 7, connectorPk := some 3, idTag := some "TAG",
          start := some (easternStamp newYear2026), startValue := some "100" }],
    .stop 7 (Transaction.small.stop.map easternStamp) (some "200"),
    .add (small.meterValues.map fun m => .meterValue
      { connectorPk := some m.connectorPk, transactionPk := m.transactionPk,
        time := some (easternStamp m.time), sample := m.sample })]

theorem run_easternWrites : empty.run Schema.declared easternWrites = small := by
  decide

end Store

end ChargingReport
