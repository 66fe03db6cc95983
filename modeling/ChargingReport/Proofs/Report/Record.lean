import ChargingReport.Report.Record
import ChargingReport.Proofs.Calendar.Clock
import ChargingReport.Proofs.Calendar.Zone
import ChargingReport.Proofs.Except
import ChargingReport.Proofs.Store.Constraints

/-!
# Records of stored sessions

* `TransactionRecord.Of` says what the record of a listed row holds.
* `ReportContext.Convertible` says that a clock of the display zone has a reading at an instant.  A
  row whose times are convertible has a record, if the clock instant is convertible too
  (`ReportContext.record_ok`).
* `ReportContext.records_ok` is the same for the rows of a query.
* In UTC every time is convertible (`ReportContext.storedTimes_utc`).
* `ReportContext.tokyo` is a report on the small store, for a look at single cases.
-/

namespace ChargingReport

/-- The record shows the row: its own columns, the keys of its station and tag, and its times as
they are displayed. -/
structure TransactionRecord.Of (ctx : ReportContext) (row : ListedRow) (r : TransactionRecord) :
    Prop where
  pk : r.pk = row.transaction.pk
  chargeBoxId : r.chargeBoxId = row.connector.chargeBoxId
  connectorNumber : r.connectorNumber = row.connector.number
  idTag : r.idTag = row.transaction.idTag
  start : r.start = row.transaction.start
  startDisplay : ctx.display (some row.transaction.start) = .ok r.startDisplay
  startValue : r.startValue = row.transaction.startValue
  stop : r.stop = row.transaction.stop
  stopDisplay : ctx.display row.transaction.stop = .ok r.stopDisplay
  stopValue : r.stopValue = row.transaction.stopValue
  chargeBoxPk : r.chargeBoxPk = row.chargeBox.pk
  tagPk : r.tagPk = row.tag.pk

namespace ReportContext

/-- The display zone exists, and its clocks have a reading at the instant. -/
def Convertible (ctx : ReportContext) (i : Instant) : Prop :=
  ∃ zone, Zone.ofKey ctx.displayZone = .ok zone ∧ (zone.local? i).isSome = true

/-- The clocks of the display zone, if it exists, have a reading at the instant. -/
def ZoneReads (ctx : ReportContext) (now : Instant) : Prop :=
  ∀ zone, Zone.ofKey ctx.displayZone = .ok zone → (zone.local? now).isSome = true

/-- The times of all stored sessions are convertible. -/
def StoredTimesConvertible (ctx : ReportContext) (s : Store) : Prop :=
  ∀ t ∈ s.transactions, ctx.Convertible t.start ∧ ∀ stop, t.stop = some stop → ctx.Convertible stop

variable {ctx : ReportContext} {now : Instant}

/-- A clock in an ordinary year is convertible in every zone that there is. -/
theorem zoneReads_of_ordinary (h : now.InOrdinaryYear) : ctx.ZoneReads now :=
  fun _ hzone => Zone.local_isSome (Zone.ofKey_near hzone) h

/-- A query reads the store if the numbers in its conditions can be stored. -/
theorem read_eq_ok {s : Store} {conditions : List Condition} :
    ctx.read conditions = .ok s ↔ ctx.store = some s ∧ conditions.all Condition.fits = true := by
  unfold read
  constructor
  · intro h
    split at h
    · cases h
    · rename_i store hstore
      split at h
      · rename_i hfits
        cases h
        exact ⟨hstore, hfits⟩
      · cases h
  · rintro ⟨hstore, hfits⟩
    simp only [hstore, hfits, if_true]

/-- A query does not read a store if a number in its conditions cannot be stored. -/
theorem read_integerRange {s : Store} {conditions : List Condition} (hstore : ctx.store = some s)
    (hfits : conditions.all Condition.fits = false) :
    ctx.read conditions = .error (.write .integerRange) := by
  unfold read
  rw [hstore, hfits]
  rfl

theorem today_ok (hnow : ctx.clock.instant = .ok now) : ctx.today = .ok now.day := by
  rw [today, Stamp.utcDay, hnow]
  rfl

/-! ## One record -/

theorem instant_stamp (i : Instant) : i.stamp.instant? = some i :=
  Stamp.instant?_eq_some.2 (Int.add_zero _)

theorem stamp_instant (i : Instant) : i.stamp.instant = .ok i := by
  rw [Stamp.instant, instant_stamp]

theorem instant?_of_instant {s : Stamp} {i : Instant} (h : s.instant = .ok i) :
    s.instant? = some i := by
  unfold Stamp.instant at h
  split at h
  · rename_i found hfound
    cases h
    exact hfound
  · cases h

theorem display_ok (hnow : ctx.clock.instant = .ok now) (hclock : ctx.ZoneReads now) {i : Instant}
    (hi : ctx.Convertible i) : ∃ text, ctx.display (some i) = .ok text := by
  obtain ⟨zone, hzone, hshown⟩ := hi
  obtain ⟨shown, hshown⟩ := Option.isSome_iff_exists.1 hshown
  obtain ⟨today, htoday⟩ := Option.isSome_iff_exists.1 (hclock zone hzone)
  refine ⟨phrase today.day shown, ?_⟩
  unfold display displayStamp
  simp only [Option.map_some, hzone, instant?_of_instant hnow, instant_stamp, displayIn?, hshown,
    htoday, bind, Option.bind, pure, Except.mapError]

/-- An instant that is shown is convertible, and so is the instant of the clock. -/
theorem display_inv {i : Instant} {text : String} (h : ctx.display (some i) = .ok text) :
    ctx.Convertible i ∧ ∃ now, ctx.clock.instant = .ok now ∧ ctx.ZoneReads now := by
  have hshown : displayStamp ctx.displayZone ctx.clock (some i.stamp) = .ok text :=
    mapError_eq_ok.1 h
  unfold displayStamp at hshown
  simp only at hshown
  split at hshown
  · cases hshown
  · rename_i zone hzone
    split at hshown
    · rename_i found hfound
      simp only [Option.bind_eq_bind, Option.bind_eq_some_iff] at hfound
      obtain ⟨now, hnow, shown, hi, hfound⟩ := hfound
      rw [instant_stamp] at hi
      cases hi
      simp only [displayIn?, Option.bind_eq_bind, Option.bind_eq_some_iff] at hfound
      obtain ⟨shownLocal, hshownLocal, nowLocal, hnowLocal, -⟩ := hfound
      refine ⟨⟨zone, hzone, Option.isSome_iff_exists.2 ⟨_, hshownLocal⟩⟩, now, ?_, ?_⟩
      · rw [Stamp.instant, hnow]
      · intro zone' hzone'
        cases hzone.symm.trans hzone'
        exact Option.isSome_iff_exists.2 ⟨_, hnowLocal⟩
    · cases hshown

theorem record_spec {row : ListedRow} {r : TransactionRecord} (h : ctx.record row = .ok r) :
    r.Of ctx row := by
  obtain ⟨startText, hstart, h⟩ := bind_eq_ok.1 h
  obtain ⟨stopText, hstop, h⟩ := bind_eq_ok.1 h
  cases h
  exact ⟨rfl, rfl, rfl, rfl, rfl, hstart, rfl, rfl, hstop, rfl, rfl, rfl⟩

theorem record_ok (hnow : ctx.clock.instant = .ok now) (hclock : ctx.ZoneReads now)
    {row : ListedRow} (hstart : ctx.Convertible row.transaction.start)
    (hstop : ∀ stop, row.transaction.stop = some stop → ctx.Convertible stop) :
    ∃ r, ctx.record row = .ok r := by
  obtain ⟨startText, hstartText⟩ := display_ok hnow hclock hstart
  have hdisplay : ∃ text, ctx.display row.transaction.stop = .ok text := by
    cases hrow : row.transaction.stop with
    | none => exact ⟨"", rfl⟩
    | some stop => exact display_ok hnow hclock (hstop stop hrow)
  obtain ⟨stopText, hstopText⟩ := hdisplay
  simp only [record]
  rw [hstartText, hstopText]
  exact ⟨_, rfl⟩

/-! ## The records of some rows -/

/-- Rows of stored sessions have records, one for each of them and in the same order. -/
theorem records_ok {s : Store} (hnow : ctx.clock.instant = .ok now) (hclock : ctx.ZoneReads now)
    (htimes : ctx.StoredTimesConvertible s) {rows : List ListedRow}
    (hrows : ∀ row ∈ rows, row.transaction ∈ s.transactions) :
    ∃ records, rows.mapM ctx.record = .ok records ∧
      List.Forall₂ (TransactionRecord.Of ctx) rows records := by
  obtain ⟨records, hmap, hall⟩ := exists_mapM_ok fun row hrow => by
    obtain ⟨hstart, hstop⟩ := htimes row.transaction (hrows row hrow)
    exact record_ok hnow hclock hstart hstop
  exact ⟨records, hmap, hall.imp fun _ _ => record_spec⟩

/-! ## UTC -/

section Utc

variable (hzone : ctx.displayZone = "UTC")
include hzone

theorem convertible_utc (i : Instant) : ctx.Convertible i := by
  refine ⟨Zone.utc, ?_, ?_⟩
  · rw [hzone]
    exact ofKey_utc
  · rw [Zone.local_utc]
    rfl

theorem zoneReads_utc (now : Instant) : ctx.ZoneReads now := by
  intro zone hkey
  rw [hzone, ofKey_utc] at hkey
  cases hkey
  rw [Zone.local_utc]
  rfl

/-- In UTC all stored times can be shown. -/
theorem storedTimes_utc (s : Store) : ctx.StoredTimesConvertible s :=
  fun t _ => ⟨convertible_utc hzone t.start, fun stop _ => convertible_utc hzone stop⟩

end Utc

/-! ## A report in Tokyo -/

/-- A report on the small store, made in Tokyo. -/
def tokyo (clock : Instant) (batchSize : Nat := 1) : ReportContext :=
  { store := some Store.small, clock := clock.stamp, displayZone := "Asia/Tokyo"
    batchSize := batchSize }

theorem ofKey_tokyo : Zone.ofKey "Asia/Tokyo" = .ok (Zone.fixed 32400) := by
  simp [Zone.ofKey, zoneTable, List.lookup_cons, splitAtChar, isNormalPath]

theorem tokyo_instant (clock : Instant) (batchSize : Nat) :
    (tokyo clock batchSize).clock.instant = .ok clock :=
  stamp_instant clock

theorem tokyo_storedTimes (clock : Instant) (batchSize : Nat) :
    (tokyo clock batchSize).StoredTimesConvertible Store.small := by
  intro t ht
  cases List.mem_singleton.1 ht
  refine ⟨⟨_, ofKey_tokyo, by decide⟩, fun stop hstop => ?_⟩
  cases hstop
  exact ⟨_, ofKey_tokyo, by decide⟩

end ReportContext

end ChargingReport
