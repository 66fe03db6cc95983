import ChargingReport.Seed
import ChargingReport.Proofs.Calendar.Zone
import ChargingReport.Proofs.Store.Generated
import ChargingReport.Proofs.Store.Session

/-!
# What the demonstration adds

* `Store.Ready` collects what holds of a store while the demonstration is added: its constraints, its
  numbers, and the keys that are left.  An insert keeps it and takes one key.
* The drafts of the demonstration are sound (`demoBox_sound` and the lemmas below it), so only rows
  that they repeat can stand in their way.  `Store.DemoCollides` says which rows these are.
* Stages.  `seedEquipment_ok`, `seedSessions_ok` and `insertAll_samples` say what each stage adds to a
  store.  A collision ends the first one (`seedEquipment_error`).
* Times.  In an ordinary year the demonstration has all of its times (`ofClock_ok`), and its samples
  name its connectors and sessions (`demoSamples_ok`).
* `seed_run_ok` and `seed_run_error` put the stages together, and `seed_all_or_nothing` says what a
  scope around them leaves.
-/

namespace ChargingReport

namespace Store

variable {s s' : Store}

/-! ## Stores side by side -/

/-- The rows of a store, and behind them those of another one. -/
def beside (s added : Store) : Store where
  chargeBoxes := s.chargeBoxes ++ added.chargeBoxes
  connectors := s.connectors ++ added.connectors
  tags := s.tags ++ added.tags
  transactions := s.transactions ++ added.transactions
  meterValues := s.meterValues ++ added.meterValues

theorem beside_assoc (s a b : Store) : (s.beside a).beside b = s.beside (a.beside b) := by
  simp only [beside, List.append_assoc]

/-! ## Stores that can take more rows -/

/-- The constraints hold, all numbers fit, and keys are left for so many rows. -/
structure Ready (s : Store) (n : Nat) : Prop where
  satisfies : s.Satisfies Schema.declared
  numbersFit : s.NumbersFit
  hasRoom : s.HasRoom n

theorem Ready.insert {n : Nat} (h : s.Ready (n + 1)) {draft : Draft} {key : Int}
    (hinsert : s.insert Schema.declared draft = .ok (key, s')) : s'.Ready n :=
  ⟨insert_satisfies h.satisfies hinsert, insert_numbersFit h.numbersFit hinsert,
    h.hasRoom.insert hinsert⟩

/-- A sound draft that repeats no row is added. -/
theorem Ready.insert_ok {n : Nat} (h : s.Ready (n + 1)) {draft : Draft} (hsound : draft.Sound)
    (hnew : ¬ s.Repeats draft) {added : Int → Store}
    (happend : ∀ key, s.append draft key = .ok (s.beside (added key))) :
    ∃ key, s.insert Schema.declared draft = .ok (key, s.beside (added key)) ∧
      (s.beside (added key)).Ready n ∧ fitsInt64 key = true := by
  have hroom : s.HasRoom 1 := h.hasRoom.mono (by omega)
  have hinsert := insert_of_not_repeats h.numbersFit hroom hsound hnew (happend _)
  exact ⟨_, hinsert, h.insert hinsert, nextKey_fits h.numbersFit hroom _⟩

/-- A sound draft that repeats a row is rejected. -/
theorem Ready.insert_error {n : Nat} (h : s.Ready (n + 1)) {draft : Draft} (hsound : draft.Sound)
    (hrepeats : s.Repeats draft) :
    ∃ columns, s.insert Schema.declared draft = .error (.unique draft.table.name columns) :=
  insert_of_repeats h.numbersFit (h.hasRoom.mono (by omega)) hsound hrepeats

end Store

/-! ## The drafts -/

theorem demoBox_sound : demoBox.Sound := by
  refine ⟨rfl, fun key hkey => ⟨?_, fun t ht => ?_⟩⟩
  · simp [demoBox, Draft.cells, Cell.fits, Cell.ofText?, hkey]
  · cases ht
    exact ⟨rfl, rfl⟩

theorem demoCard_sound : demoCard.Sound := by
  refine ⟨rfl, fun key hkey => ⟨?_, fun t ht => ?_⟩⟩
  · simp [demoCard, Draft.cells, Cell.fits, Cell.ofText?, hkey]
  · cases ht
    exact ⟨rfl, rfl⟩

theorem demoConnector_sound {number : Int} (hnumber : fitsInt64 number = true) :
    (demoConnector number).Sound := by
  refine ⟨rfl, fun key hkey => ⟨?_, fun t ht => ?_⟩⟩
  · simp [demoConnector, Draft.cells, Cell.fits, Cell.ofText?, Cell.ofInt?, hkey, hnumber]
  · cases ht
    exact ⟨rfl, rfl⟩

theorem demoFinished_sound (times : DemoTimes) {connector : Int}
    (hconnector : fitsInt64 connector = true) : (demoFinished times connector).Sound := by
  refine ⟨rfl, fun key hkey => ⟨?_, fun t ht => ?_⟩⟩
  · simp [demoFinished, Draft.cells, Cell.fits, Cell.ofText?, Cell.ofInt?, Cell.ofInstant?, hkey,
      hconnector]
  · cases ht
    exact ⟨rfl, rfl⟩

theorem demoActive_sound (times : DemoTimes) {connector : Int}
    (hconnector : fitsInt64 connector = true) : (demoActive times connector).Sound := by
  refine ⟨rfl, fun key hkey => ⟨?_, fun t ht => ?_⟩⟩
  · simp [demoActive, Draft.cells, Cell.fits, Cell.ofText?, Cell.ofInt?, Cell.ofInstant?, hkey,
      hconnector]
  · cases ht
    exact ⟨rfl, rfl⟩

/-- The keys that a sample names fit into 64 bits. -/
def DemoSample.Fits (sample : DemoSample) : Prop :=
  fitsInt64 sample.connector = true ∧ ∀ pk ∈ sample.transaction, fitsInt64 pk = true

theorem DemoSample.draft_sound {sample : DemoSample} (h : sample.Fits) : sample.draft.Sound := by
  obtain ⟨hconnector, hsession⟩ := h
  have htransaction : (Cell.ofInt? sample.transaction).fits = true := by
    cases htagged : sample.transaction with
    | none => rfl
    | some pk => exact hsession pk htagged
  refine ⟨rfl, fun key hkey => ⟨?_, fun t ht => ?_⟩⟩
  · simp only [Draft.cells, DemoSample.draft, Sample.cells, List.cons_append, List.nil_append,
      List.all_cons, htransaction]
    simp [Cell.fits, Cell.ofText?, Cell.ofInt?, Cell.ofInstant?, hkey, hconnector]
  · cases ht
    exact ⟨rfl, rfl⟩

/-! ## Rows that stand in the way -/

namespace Store

variable {s s' : Store}

theorem repeats_demoBox : s.Repeats demoBox ↔ ∃ b ∈ s.chargeBoxes, b.chargeBoxId = demoStation := by
  have hshare : ∀ (key : Int) (b : ChargeBox),
      shareColumns ["charge_box_id"] (demoBox.cells key) b.cells = true ↔
        demoStation = b.chargeBoxId := by
    intro key b
    simp [shareColumns, cellAt, demoBox, Draft.cells, ChargeBox.cells, List.lookup_cons, Cell.ofText?]
  rw [repeats_iff rfl rfl]
  show (∃ row ∈ s.chargeBoxes.map ChargeBox.cells,
    shareColumns ["charge_box_id"] (demoBox.cells _) row = true) ↔ _
  simp only [List.mem_map, exists_exists_and_eq_and, hshare, eq_comm (a := demoStation)]

theorem repeats_demoCard : s.Repeats demoCard ↔ ∃ tag ∈ s.tags, tag.idTag = demoTag := by
  have hshare : ∀ (key : Int) (tag : Tag),
      shareColumns ["id_tag"] (demoCard.cells key) tag.cells = true ↔ demoTag = tag.idTag := by
    intro key tag
    simp [shareColumns, cellAt, demoCard, Draft.cells, Tag.cells, List.lookup_cons, Cell.ofText?]
  rw [repeats_iff rfl rfl]
  show (∃ row ∈ s.tags.map Tag.cells, shareColumns ["id_tag"] (demoCard.cells _) row = true) ↔ _
  simp only [List.mem_map, exists_exists_and_eq_and, hshare, eq_comm (a := demoTag)]

theorem repeats_demoConnector {number : Int} : s.Repeats (demoConnector number) ↔
    ∃ c ∈ s.connectors, c.chargeBoxId = demoStation ∧ c.number = number := by
  have hshare : ∀ (key : Int) (c : Connector),
      shareColumns ["charge_box_id", "connector_id"] ((demoConnector number).cells key) c.cells =
        true ↔ demoStation = c.chargeBoxId ∧ number = c.number := by
    intro key c
    simp [shareColumns, cellAt, demoConnector, Draft.cells, Connector.cells, List.lookup_cons,
      Cell.ofText?, Cell.ofInt?]
  rw [repeats_iff rfl rfl]
  show (∃ row ∈ s.connectors.map Connector.cells,
    shareColumns ["charge_box_id", "connector_id"] ((demoConnector number).cells _) row = true) ↔ _
  simp only [List.mem_map, exists_exists_and_eq_and, hshare, eq_comm (a := demoStation),
    eq_comm (a := number)]

/-- The demonstration cannot be added: its station is not there, but its tag is, or one of its
connectors. -/
def DemoCollides (s : Store) : Prop :=
  s.chargeBox? demoStation = none ∧
    ((∃ tag ∈ s.tags, tag.idTag = demoTag) ∨
      ∃ c ∈ s.connectors, c.chargeBoxId = demoStation ∧ (c.number = 1 ∨ c.number = 2))

instance (s : Store) : Decidable s.DemoCollides := by
  unfold DemoCollides
  infer_instance

/-- Rows that are the demonstration: a station, a tag, two connectors, a finished and an active
session, and six samples.  They name nothing but each other. -/
structure IsDemo (added : Store) : Prop where
  chargeBoxes : added.chargeBoxes.map ChargeBox.chargeBoxId = [demoStation]
  tags : added.tags.map Tag.idTag = [demoTag]
  connectors : added.connectors.map (fun c => (c.chargeBoxId, c.number)) =
    [(demoStation, 1), (demoStation, 2)]
  transactions : added.transactions.map Transaction.isActive = [false, true]
  meterValues : added.meterValues.length = 6
  resolve : added.ReferencesResolve Schema.declared

theorem not_repeats_demoBox (h : s.chargeBox? demoStation = none) : ¬ s.Repeats demoBox := by
  rw [repeats_demoBox]
  rintro ⟨b, hb, hid⟩
  have hnone := List.find?_eq_none.1 h b hb
  exact hnone (beq_iff_eq.2 hid)

end Store

/-! ## Stages -/

section Stages

open Store

variable {s : Store} {n : Nat}

/-- The station under a key. -/
def demoBoxRow (key : Int) : Store where
  chargeBoxes := [⟨key, demoStation, some "Demo station"⟩]

/-- The tag under a key. -/
def demoCardRow (key : Int) : Store where
  tags := [⟨key, demoTag, some "Demo card"⟩]

/-- A connector of the station under a key. -/
def demoConnectorRow (number key : Int) : Store where
  connectors := [⟨key, demoStation, number⟩]

/-- The finished session under a key. -/
def demoFinishedRow (times : DemoTimes) (connector key : Int) : Store where
  transactions := [⟨key, connector, demoTag, times.finishedStart, "1000", some times.finishedStop,
    some "8400"⟩]

/-- The active session under a key. -/
def demoActiveRow (times : DemoTimes) (connector key : Int) : Store where
  transactions := [⟨key, connector, demoTag, times.activeStart, "500", none, none⟩]

/-- A sample under a key. -/
def DemoSample.row (sample : DemoSample) (key : Int) : MeterValue where
  pk := key
  connectorPk := sample.connector
  transactionPk := sample.transaction
  time := sample.time
  sample := ⟨some sample.value, some "Sample.Periodic", some "Raw",
    some "Energy.Active.Import.Register", some "Outlet", some "Wh"⟩

/-- The rows of the first stage. -/
def demoEquipment (box card first second : Int) : Store :=
  (demoBoxRow box).beside ((demoCardRow card).beside
    ((demoConnectorRow 1 first).beside (demoConnectorRow 2 second)))

/-- The rows of the second stage. -/
def demoSessions (times : DemoTimes) (first second finished active : Int) : Store :=
  (demoFinishedRow times first finished).beside (demoActiveRow times second active)

theorem append_demoBox (s : Store) (key : Int) :
    s.append demoBox key = .ok (s.beside (demoBoxRow key)) := by
  simp only [beside, demoBoxRow, List.append_nil]
  rfl

theorem append_demoCard (s : Store) (key : Int) :
    s.append demoCard key = .ok (s.beside (demoCardRow key)) := by
  simp only [beside, demoCardRow, List.append_nil]
  rfl

theorem append_demoConnector (number : Int) (s : Store) (key : Int) :
    s.append (demoConnector number) key = .ok (s.beside (demoConnectorRow number key)) := by
  simp only [beside, demoConnectorRow, List.append_nil]
  rfl

theorem append_demoFinished (times : DemoTimes) (connector : Int) (s : Store) (key : Int) :
    s.append (demoFinished times connector) key =
      .ok (s.beside (demoFinishedRow times connector key)) := by
  simp only [beside, demoFinishedRow, List.append_nil]
  rfl

theorem append_demoActive (times : DemoTimes) (connector : Int) (s : Store) (key : Int) :
    s.append (demoActive times connector) key =
      .ok (s.beside (demoActiveRow times connector key)) := by
  simp only [beside, demoActiveRow, List.append_nil]
  rfl

theorem append_demoSample (sample : DemoSample) (s : Store) (key : Int) :
    s.append sample.draft key = .ok (s.beside { meterValues := [sample.row key] }) := by
  simp only [beside, List.append_nil]
  rfl

/-- Nothing stands in the way of the first stage. -/
theorem seedEquipment_ok (hready : s.Ready (n + 4)) (hstation : s.chargeBox? demoStation = none)
    (hfree : ¬ s.DemoCollides) :
    ∃ box card first second,
      (seedEquipment Schema.declared).run s =
        (.ok (first, second), s.beside (demoEquipment box card first second)) ∧
      (s.beside (demoEquipment box card first second)).Ready n ∧
      fitsInt64 first = true ∧ fitsInt64 second = true := by
  have hcard : ∀ tag ∈ s.tags, tag.idTag ≠ demoTag := fun tag htag hid =>
    hfree ⟨hstation, .inl ⟨tag, htag, hid⟩⟩
  have hplaces : ∀ c ∈ s.connectors, c.chargeBoxId = demoStation → c.number ≠ 1 ∧ c.number ≠ 2 :=
    fun c hc hbox => ⟨fun h => hfree ⟨hstation, .inr ⟨c, hc, hbox, .inl h⟩⟩,
      fun h => hfree ⟨hstation, .inr ⟨c, hc, hbox, .inr h⟩⟩⟩
  obtain ⟨box, hbox, hready₁, -⟩ :=
    hready.insert_ok demoBox_sound (not_repeats_demoBox hstation) (append_demoBox s)
  obtain ⟨card, hcard, hready₂, -⟩ := hready₁.insert_ok demoCard_sound (fun h => by
    obtain ⟨tag, htag, hid⟩ := repeats_demoCard.1 h
    simp only [beside, demoBoxRow, List.append_nil] at htag
    exact hcard tag htag hid) (append_demoCard _)
  obtain ⟨first, hfirst, hready₃, hfits⟩ := hready₂.insert_ok (demoConnector_sound rfl) (fun h => by
    obtain ⟨c, hc, hid, hnumber⟩ := repeats_demoConnector.1 h
    simp only [beside, demoBoxRow, demoCardRow, List.append_nil] at hc
    exact (hplaces c hc hid).1 hnumber) (append_demoConnector 1 _)
  obtain ⟨second, hsecond, hready₄, hfits'⟩ := hready₃.insert_ok (demoConnector_sound rfl) (fun h => by
    obtain ⟨c, hc, hid, hnumber⟩ := repeats_demoConnector.1 h
    simp only [beside, demoBoxRow, demoCardRow, demoConnectorRow, List.append_nil, List.mem_append,
      List.mem_singleton] at hc
    rcases hc with hold | rfl
    · exact (hplaces c hold hid).2 hnumber
    · exact absurd (show (1 : Int) = 2 from hnumber) (by decide)) (append_demoConnector 2 _)
  have hrows : (((s.beside (demoBoxRow box)).beside (demoCardRow card)).beside
      (demoConnectorRow 1 first)).beside (demoConnectorRow 2 second) =
      s.beside (demoEquipment box card first second) := by
    simp only [beside_assoc, demoEquipment]
  rw [hrows] at hsecond hready₄
  refine ⟨box, card, first, second, ?_, hready₄, hfits, hfits'⟩
  rw [seedEquipment, Session.run_bind_ok (Session.run_insert_ok hbox),
    Session.run_bind_ok (Session.run_insert_ok hcard),
    Session.run_bind_ok (Session.run_insert_ok hfirst),
    Session.run_bind_ok (Session.run_insert_ok hsecond)]
  rfl

/-- A collision ends the first stage, with some of its rows in the working store. -/
theorem seedEquipment_error (hready : s.Ready (n + 4)) (hcollides : s.DemoCollides) :
    ∃ table columns working, (seedEquipment Schema.declared).run s =
      (.error (.write (.unique table columns)), working) := by
  obtain ⟨hstation, hrows⟩ := hcollides
  obtain ⟨box, hbox, hready₁, -⟩ :=
    hready.insert_ok demoBox_sound (not_repeats_demoBox hstation) (append_demoBox s)
  have hbox := Session.run_insert_ok hbox
  by_cases hcard : (s.beside (demoBoxRow box)).Repeats demoCard
  · obtain ⟨columns, hcard⟩ := hready₁.insert_error demoCard_sound hcard
    have hcard := Session.run_insert_error hcard
    exact ⟨_, columns, _, by
      rw [seedEquipment, Session.run_bind_ok hbox, Session.run_bind_error hcard]⟩
  obtain ⟨card, hcard', hready₂, -⟩ := hready₁.insert_ok demoCard_sound hcard (append_demoCard _)
  have hcard' := Session.run_insert_ok hcard'
  by_cases hfirst : ((s.beside (demoBoxRow box)).beside (demoCardRow card)).Repeats (demoConnector 1)
  · obtain ⟨columns, hfirst⟩ := hready₂.insert_error (demoConnector_sound rfl) hfirst
    have hfirst := Session.run_insert_error hfirst
    exact ⟨_, columns, _, by
      rw [seedEquipment, Session.run_bind_ok hbox, Session.run_bind_ok hcard',
        Session.run_bind_error hfirst]⟩
  obtain ⟨first, hfirst', hready₃, -⟩ :=
    hready₂.insert_ok (demoConnector_sound rfl) hfirst (append_demoConnector 1 _)
  have hfirst' := Session.run_insert_ok hfirst'
  -- the tag and the first connector are new, so it is the second one
  have hsecond : (((s.beside (demoBoxRow box)).beside (demoCardRow card)).beside
      (demoConnectorRow 1 first)).Repeats (demoConnector 2) := by
    rw [repeats_demoCard] at hcard
    rw [repeats_demoConnector] at hfirst ⊢
    simp only [beside, demoBoxRow, demoCardRow, demoConnectorRow, List.append_nil,
      List.mem_append] at hcard hfirst ⊢
    rcases hrows with hknown | ⟨c, hc, hid, hnumber | hnumber⟩
    · exact absurd hknown hcard
    · exact absurd ⟨c, hc, hid, hnumber⟩ hfirst
    · exact ⟨c, .inl hc, hid, hnumber⟩
  obtain ⟨columns, hsecond⟩ := hready₃.insert_error (demoConnector_sound rfl) hsecond
  have hsecond := Session.run_insert_error hsecond
  exact ⟨_, columns, _, by
    rw [seedEquipment, Session.run_bind_ok hbox, Session.run_bind_ok hcard',
      Session.run_bind_ok hfirst', Session.run_bind_error hsecond]⟩

/-- Nothing stands in the way of the second stage. -/
theorem seedSessions_ok (hready : s.Ready (n + 2)) (times : DemoTimes) {first second : Int}
    (hfirst : fitsInt64 first = true) (hsecond : fitsInt64 second = true) :
    ∃ finished active,
      (seedSessions Schema.declared times first second).run s =
        (.ok (finished, active), s.beside (demoSessions times first second finished active)) ∧
      (s.beside (demoSessions times first second finished active)).Ready n ∧
      fitsInt64 finished = true ∧ fitsInt64 active = true := by
  obtain ⟨finished, hfinished, hready₁, hfits⟩ := hready.insert_ok (demoFinished_sound times hfirst)
    (not_repeats rfl rfl) (append_demoFinished times first s)
  obtain ⟨active, hactive, hready₂, hfits'⟩ := hready₁.insert_ok (demoActive_sound times hsecond)
    (not_repeats rfl rfl) (append_demoActive times second _)
  rw [beside_assoc] at hactive hready₂
  refine ⟨finished, active, ?_, hready₂, hfits, hfits'⟩
  rw [seedSessions, Session.run_bind_ok (Session.run_insert_ok hfinished),
    Session.run_bind_ok (Session.run_insert_ok hactive)]
  rfl

/-- A row names what its sample names. -/
def DemoSample.NamedBy (sample : DemoSample) (m : MeterValue) : Prop :=
  m.connectorPk = sample.connector ∧ m.transactionPk = sample.transaction

/-- Nothing stands in the way of samples. -/
theorem insertAll_samples {samples : List DemoSample} (hready : s.Ready (samples.length + n))
    (hfits : ∀ sample ∈ samples, sample.Fits) :
    ∃ keys rows, s.insertAll Schema.declared (samples.map DemoSample.draft) =
        .ok (keys, s.beside { meterValues := rows }) ∧
      (s.beside { meterValues := rows }).Ready n ∧
      List.Forall₂ DemoSample.NamedBy samples rows := by
  induction samples generalizing s with
  | nil =>
    have hempty : s.beside { meterValues := [] } = s := by
      simp only [beside, List.append_nil]
    rw [List.length_nil, Nat.zero_add] at hready
    exact ⟨[], [], by rw [hempty]; rfl, hempty.symm ▸ hready, .nil⟩
  | cons sample rest ih =>
    have hready : s.Ready (rest.length + n + 1) := by
      rw [List.length_cons, Nat.add_right_comm] at hready
      exact hready
    obtain ⟨hfit, hrest⟩ := List.forall_mem_cons.1 hfits
    obtain ⟨key, hinsert, hready₁, -⟩ :=
      hready.insert_ok (DemoSample.draft_sound hfit) (not_repeats rfl rfl) (append_demoSample sample s)
    obtain ⟨keys, rows, hinserts, hready₂, hnamed⟩ := ih hready₁ hrest
    rw [beside_assoc] at hinserts hready₂
    refine ⟨key :: keys, sample.row key :: rows, ?_, hready₂, .cons ⟨rfl, rfl⟩ hnamed⟩
    rw [List.map_cons, insertAll, hinsert]
    simp only [bind, Except.bind, hinserts]
    rfl

end Stages

/-! ## Times -/

/-- An instant can be moved by minutes within the calendar. -/
theorem Instant.plusMinutes_ok {i : Instant} {minutes : Int}
    (hpos : 0 ≤ i.ticks + minutes * microsPerMinute)
    (hlt : i.ticks + minutes * microsPerMinute < (dayCount * microsPerDay : Nat)) :
    ∃ moved, i.plusMinutes minutes = .ok moved ∧
      (moved.ticks : Int) = i.ticks + minutes * microsPerMinute := by
  obtain ⟨w, hw⟩ := Option.isSome_iff_exists.1 (WallClock.ofTicks_isSome hpos hlt)
  have hshift : i.utc.shift? (minutes * microsPerMinute) = some w := hw
  refine ⟨⟨w⟩, ?_, WallClock.ofTicks?_eq_some.1 hw⟩
  rw [plusMinutes, shift?, hshift]
  rfl

/-- Times near an instant of an ordinary year can be moved back by a day and two hours, and ahead by
an hour. -/
theorem Instant.InOrdinaryYear.plusMinutes_ok {now : Instant} (h : now.InOrdinaryYear) (i : Instant)
    (minutes : Int) (hback : (now.ticks : Int) ≤ i.ticks + 2 * microsPerDay)
    (hahead : i.ticks ≤ now.ticks) (hmin : -1560 ≤ minutes) (hmax : minutes ≤ 60) :
    ∃ moved, i.plusMinutes minutes = .ok moved ∧
      (moved.ticks : Int) = i.ticks + minutes * microsPerMinute := by
  obtain ⟨hlow, hhigh⟩ := h.day_bounds
  have hday : now.day.number = now.ticks / microsPerDay := rfl
  rw [hday] at hlow hhigh
  apply Instant.plusMinutes_ok
  · simp only [microsPerMinute, microsPerDay, dayCount] at *
    omega
  · simp only [microsPerMinute, microsPerDay, dayCount] at *
    omega

/-- In an ordinary year the demonstration has all of its times. -/
theorem ofClock_ok {clock : Stamp} {now : Instant} (hnow : clock.instant = .ok now)
    (hyear : now.InOrdinaryYear) :
    ∃ times, DemoTimes.ofClock clock = .ok times ∧ ∀ minutes, -30 ≤ minutes → minutes ≤ 60 →
      (∃ moved, times.finishedStart.plusMinutes minutes = .ok moved) ∧
        ∃ moved, times.now.plusMinutes minutes = .ok moved := by
  have hwhole : now.wholeSecond.ticks = now.ticks - now.ticks % microsPerSecond := rfl
  have hmove := hyear.plusMinutes_ok
  simp only [microsPerSecond, microsPerMinute, microsPerDay] at hwhole hmove
  obtain ⟨start, hstart, hstartTicks⟩ := hmove now.wholeSecond (-(24 + 2) * 60) (by omega) (by omega)
    (by decide) (by decide)
  obtain ⟨stop, hstop, -⟩ := hmove start 60 (by omega) (by omega) (by decide) (by decide)
  obtain ⟨active, hactive, -⟩ := hmove now.wholeSecond (-45) (by omega) (by omega) (by decide)
    (by decide)
  refine ⟨⟨now.wholeSecond, start, stop, active⟩, ?_, fun minutes hmin hmax => ⟨?_, ?_⟩⟩
  · refine bind_eq_ok.2 ⟨now, mapError_eq_ok.2 hnow, ?_⟩
    refine bind_eq_ok.2 ⟨start, hstart, ?_⟩
    refine bind_eq_ok.2 ⟨stop, hstop, ?_⟩
    exact bind_eq_ok.2 ⟨active, hactive, rfl⟩
  · obtain ⟨moved, hmoved, -⟩ := hmove start minutes (by omega) (by omega) (by omega) hmax
    exact ⟨moved, hmoved⟩
  · obtain ⟨moved, hmoved, -⟩ := hmove now.wholeSecond minutes (by omega) (by omega) (by omega) hmax
    exact ⟨moved, hmoved⟩

/-- The keys of the connector and, if any, of the session of the sample are among these. -/
def DemoSample.Names (sample : DemoSample) (connectors sessions : List Int) : Prop :=
  sample.connector ∈ connectors ∧ ∀ pk ∈ sample.transaction, pk ∈ sessions

/-- There are six samples, and they name the connectors and the sessions. -/
theorem demoSamples_ok {times : DemoTimes} (h : ∀ minutes, -30 ≤ minutes → minutes ≤ 60 →
      (∃ moved, times.finishedStart.plusMinutes minutes = .ok moved) ∧
        ∃ moved, times.now.plusMinutes minutes = .ok moved) (first second finished active : Int) :
    ∃ samples, demoSamples times first second finished active = .ok samples ∧
      samples.length = 6 ∧ ∀ sample ∈ samples, sample.Names [first, second] [finished, active] := by
  obtain ⟨a, ha⟩ := (h 15 (by decide) (by decide)).1
  obtain ⟨b, hb⟩ := (h 30 (by decide) (by decide)).1
  obtain ⟨c, hc⟩ := (h 45 (by decide) (by decide)).1
  obtain ⟨d, hd⟩ := (h 60 (by decide) (by decide)).1
  obtain ⟨e, he⟩ := (h (-30) (by decide) (by decide)).2
  obtain ⟨f, hf⟩ := (h (-15) (by decide) (by decide)).2
  refine ⟨[⟨first, some finished, a, "3200"⟩, ⟨first, none, b, "5600"⟩,
    ⟨first, some finished, c, "8400"⟩, ⟨first, some finished, d, "8400"⟩,
    ⟨second, some active, e, "1900"⟩, ⟨second, none, f, "3300"⟩], ?_, rfl, ?_⟩
  · exact bind_eq_ok.2 ⟨a, ha, bind_eq_ok.2 ⟨b, hb, bind_eq_ok.2 ⟨c, hc, bind_eq_ok.2 ⟨d, hd,
      bind_eq_ok.2 ⟨e, he, bind_eq_ok.2 ⟨f, hf, rfl⟩⟩⟩⟩⟩⟩
  · simp [DemoSample.Names]

/-! ## The whole demonstration -/

open Store

variable {s : Store} {clock : Stamp}

/-- A station that is there ends the session at once. -/
theorem seed_run_known (schema : Schema) (clock : Stamp)
    (hstation : (s.chargeBox? demoStation).isSome = true) :
    (seed schema clock).run s = (.ok (), s) := by
  have hget : (get : Session Store).run s = (.ok s, s) := rfl
  rw [seed, Session.run_bind_ok hget, if_pos hstation]
  rfl

/-- A collision fails the session. -/
theorem seed_run_error {n : Nat} (hready : s.Ready (n + 4)) (hcollides : s.DemoCollides) :
    ∃ table columns working, (seed Schema.declared clock).run s =
      (.error (.write (.unique table columns)), working) := by
  have hget : (get : Session Store).run s = (.ok s, s) := rfl
  obtain ⟨table, columns, working, hequipment⟩ := seedEquipment_error hready hcollides
  refine ⟨table, columns, working, ?_⟩
  rw [seed, Session.run_bind_ok hget, hcollides.1, if_neg (by decide),
    Session.run_bind_error hequipment]

/-- The rows of all stages are the demonstration. -/
theorem isDemo_of_named {times : DemoTimes} {box card first second finished active : Int}
    {samples : List DemoSample} {rows : List MeterValue} (hlength : samples.length = 6)
    (hnames : ∀ sample ∈ samples, sample.Names [first, second] [finished, active])
    (hnamed : List.Forall₂ DemoSample.NamedBy samples rows) :
    ((demoEquipment box card first second).beside
      ((demoSessions times first second finished active).beside { meterValues := rows })).IsDemo := by
  refine ⟨rfl, rfl, rfl, rfl, hnamed.length_eq.symm.trans hlength, referencesResolve_of ?_ ?_ ?_⟩
  · intro c hc
    refine ⟨⟨box, demoStation, some "Demo station"⟩, List.mem_singleton_self _, ?_⟩
    rcases List.mem_pair.1 hc with rfl | rfl <;> rfl
  · intro t ht
    rcases List.mem_pair.1 ht with rfl | rfl
    · exact ⟨⟨_, List.mem_cons_self, rfl⟩, _, List.mem_singleton_self _, rfl⟩
    · exact ⟨⟨_, List.mem_cons_of_mem _ List.mem_cons_self, rfl⟩, _, List.mem_singleton_self _, rfl⟩
  · intro m hm
    obtain ⟨sample, hsample, hconnector, hsession⟩ := forall₂_mem_right hnamed hm
    obtain ⟨hknown, hknown'⟩ := hnames sample hsample
    rw [← hconnector] at hknown
    rw [← hsession] at hknown'
    refine ⟨?_, fun pk hpk => ?_⟩
    · rcases List.mem_pair.1 hknown with h | h
      · exact ⟨_, List.mem_cons_self, h.symm⟩
      · exact ⟨_, List.mem_cons_of_mem _ List.mem_cons_self, h.symm⟩
    · rcases List.mem_pair.1 (hknown' pk hpk) with h | h
      · exact ⟨_, List.mem_cons_self, h.symm⟩
      · exact ⟨_, List.mem_cons_of_mem _ List.mem_cons_self, h.symm⟩

/-- Without a collision the session adds the demonstration. -/
theorem seed_run_ok {now : Instant} (hready : s.Ready 12) (hnow : clock.instant = .ok now)
    (hyear : now.InOrdinaryYear) (hstation : s.chargeBox? demoStation = none)
    (hfree : ¬ s.DemoCollides) :
    ∃ added, (seed Schema.declared clock).run s = (.ok (), s.beside added) ∧
      (s.beside added).Satisfies Schema.declared ∧ added.IsDemo := by
  have hget : (get : Session Store).run s = (.ok s, s) := rfl
  obtain ⟨times, htimes, hmoves⟩ := ofClock_ok hnow hyear
  obtain ⟨box, card, first, second, hequipment, hready, hfirst, hsecond⟩ :=
    seedEquipment_ok (n := 8) hready hstation hfree
  obtain ⟨finished, active, hsessions, hready, hfinished, hactive⟩ :=
    seedSessions_ok (n := 6) hready times hfirst hsecond
  obtain ⟨samples, hsamples, hlength, hnames⟩ := demoSamples_ok hmoves first second finished active
  have hfits : ∀ sample ∈ samples, sample.Fits := by
    intro sample hsample
    obtain ⟨hconnector, hsession⟩ := hnames sample hsample
    refine ⟨?_, fun pk hpk => ?_⟩
    · rcases List.mem_pair.1 hconnector with h | h
      · exact h ▸ hfirst
      · exact h ▸ hsecond
    · rcases List.mem_pair.1 (hsession pk hpk) with h | h
      · exact h ▸ hfinished
      · exact h ▸ hactive
  obtain ⟨keys, rows, hinserts, hready, hnamed⟩ :=
    insertAll_samples (n := 0) (hlength.symm ▸ hready) hfits
  have hinserts := Session.run_insertAll_ok hinserts
  rw [seed, Session.run_bind_ok hget, hstation, if_neg (by decide), Session.run_bind_ok hequipment]
  dsimp only
  rw [Session.run_bind_ok (Session.run_ofExcept_ok htimes), Session.run_bind_ok hsessions]
  dsimp only
  rw [Session.run_bind_ok (Session.run_ofExcept_ok hsamples), Session.run_bind_ok hinserts]
  simp only [beside_assoc] at hready ⊢
  exact ⟨_, rfl, hready.satisfies, isDemo_of_named hlength hnames hnamed⟩

/-- The demonstration is added as a whole or not at all, and once.

* Its session fails just when the station is not there but other rows of it are.  It is an integrity
  error then, and the store is as it was.
* Otherwise a station that is there leaves the store as it was.  A station that is not there is
  added with the other rows of the demonstration, behind the rows that were there before.
* After a session that did not fail, another one changes nothing, whatever its clock shows. -/
theorem seed_all_or_nothing {now : Instant} (hs : s.Satisfies Schema.declared)
    (hfit : s.NumbersFit) (hroom : s.HasRoom 12) (hnow : clock.instant = .ok now)
    (hyear : now.InOrdinaryYear) :
    (s.DemoCollides → ∃ e, (seed Schema.declared clock).scope s = (.error e, s) ∧
      e.kind = "IntegrityError") ∧
    (¬ s.DemoCollides → ∃ s', (seed Schema.declared clock).scope s = (.ok (), s') ∧
      s'.Satisfies Schema.declared ∧
      (s.chargeBox? demoStation ≠ none → s' = s) ∧
      (s.chargeBox? demoStation = none → ∃ added, s' = s.beside added ∧ added.IsDemo) ∧
      ∀ again, (seed Schema.declared again).scope s' = (.ok (), s')) := by
  have hready : s.Ready 12 := ⟨hs, hfit, hroom⟩
  have hagain : ∀ s' : Store, (s'.chargeBox? demoStation).isSome = true → ∀ again,
      (seed Schema.declared again).scope s' = (.ok (), s') := fun s' hthere again =>
    Session.scope_of_ok (seed_run_known Schema.declared again hthere)
  constructor
  · intro hcollides
    obtain ⟨table, columns, working, hrun⟩ := seed_run_error (n := 8) hready hcollides
    exact ⟨_, Session.scope_of_error hrun, rfl⟩
  · intro hfree
    cases hstation : s.chargeBox? demoStation with
    | some box =>
      have hthere : (s.chargeBox? demoStation).isSome = true := by
        rw [hstation]
        rfl
      exact ⟨s, hagain s hthere clock, hs, fun _ => rfl, nofun, hagain s hthere⟩
    | none =>
      obtain ⟨added, hrun, hkeeps, hdemo⟩ := seed_run_ok hready hnow hyear hstation hfree
      refine ⟨_, Session.scope_of_ok hrun, hkeeps, fun h => absurd rfl h,
        fun _ => ⟨added, rfl, hdemo⟩, hagain _ ?_⟩
      obtain ⟨box, hbox, hid⟩ := List.map_eq_singleton_iff.1 hdemo.chargeBoxes
      refine List.find?_isSome.2 ⟨box, List.mem_append_right _ ?_, beq_iff_eq.2 hid⟩
      rw [hbox]
      exact List.mem_singleton_self _

/-- The small store takes the demonstration at the beginning of 2026.  With the tag of the
demonstration in it, it does not. -/
theorem seed_small :
    (∃ s', (seed Schema.declared ⟨newYear2026.utc, none⟩).scope Store.small = (.ok (), s') ∧
      (∃ added, s' = Store.small.beside added ∧ added.IsDemo) ∧
      ∀ again, (seed Schema.declared again).scope s' = (.ok (), s')) ∧
    ∃ e, (seed Schema.declared ⟨newYear2026.utc, none⟩).scope (Store.small.beside (demoCardRow 5)) =
        (.error e, Store.small.beside (demoCardRow 5)) ∧ e.kind = "IntegrityError" := by
  have hnow : (⟨newYear2026.utc, none⟩ : Stamp).instant = .ok newYear2026 := rfl
  have hyear : newYear2026.InOrdinaryYear := by decide
  have hfit : Store.small.NumbersFit :=
    run_smallWrites ▸ run_numbersFit empty_numbersFit smallWrites
  have hfit' : (Store.small.beside (demoCardRow 5)).NumbersFit := by
    intro table
    cases table <;> decide
  have hroom : Store.small.HasRoom 12 := by
    intro table
    cases table <;> decide
  have hroom' : (Store.small.beside (demoCardRow 5)).HasRoom 12 := by
    intro table
    cases table <;> decide
  constructor
  · obtain ⟨s', hrun, -, -, hnew, hagain⟩ :=
      (seed_all_or_nothing small_satisfies hfit hroom hnow hyear).2 (by decide)
    exact ⟨s', hrun, hnew rfl, hagain⟩
  · exact (seed_all_or_nothing (by decide) hfit' hroom' hnow hyear).1 (by decide)

end ChargingReport
