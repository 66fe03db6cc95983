import ChargingReport.Calendar.Zone
import ChargingReport.Proofs.Calendar.Civil
import ChargingReport.Proofs.Calendar.Clock

/-!
# Clocks of the zones

No zone of the table is more than fourteen hours away from UTC.  Hence every clock of the table has
a reading at an instant that does not lie in the first or the last year of the calendar.  A clock in
UTC has one at every instant (`Zone.local_utc`).
-/

namespace ChargingReport

/-- The seconds are at most fourteen hours, ahead or behind. -/
def IsOffset (seconds : Int) : Prop := -50400 ≤ seconds ∧ seconds ≤ 50400

instance (seconds : Int) : Decidable (IsOffset seconds) := by
  unfold IsOffset
  infer_instance

/-- The clocks of the zone are at most fourteen hours away from UTC. -/
def Zone.Near (z : Zone) : Prop := ∀ i, IsOffset (z.offset i)

/-- The year of the instant in UTC is neither the first nor the last of the calendar. -/
def Instant.InOrdinaryYear (i : Instant) : Prop :=
  2 ≤ i.day.civil.year ∧ i.day.civil.year ≤ 9998

instance (i : Instant) : Decidable i.InOrdinaryYear := by
  unfold Instant.InOrdinaryYear
  infer_instance

/-! ## Offsets -/

theorem IsOffset.ite {p : Prop} [Decidable p] {a b : Int} (ha : IsOffset a) (hb : IsOffset b) :
    IsOffset (if p then a else b) := by
  split
  · exact ha
  · exact hb

theorem Zone.near_mk {offset : Instant → Int} (h : ∀ i, IsOffset (offset i)) : Zone.Near ⟨offset⟩ :=
  h

theorem Zone.fixed_near {seconds : Int} (h : IsOffset seconds) : (Zone.fixed seconds).Near :=
  fun _ => h

/-- A summer time has one of its two offsets at every instant. -/
theorem SummerTime.isOffset {rule : SummerTime} (hstandard : IsOffset rule.standard)
    (hsummer : IsOffset rule.summer) (i : Instant) : IsOffset (rule.offset i) :=
  hsummer.ite hstandard

/-- A zone with summer time, given by its two offsets. -/
theorem SummerTime.zone_near {rule : SummerTime} (hstandard : IsOffset rule.standard)
    (hsummer : IsOffset rule.summer) : rule.zone.Near :=
  isOffset hstandard hsummer

theorem newYorkOffset_near : Zone.Near ⟨newYorkOffset⟩ := by
  refine Zone.near_mk fun i => ?_
  have hmean : IsOffset (-17762) := by decide
  have hsummer : IsOffset (newYorkSummer.offset i) := SummerTime.isOffset (by decide) (by decide) i
  rw [newYorkOffset]
  exact hmean.ite hsummer

theorem saoPauloOffset_near : Zone.Near ⟨saoPauloOffset⟩ := by
  refine Zone.near_mk fun i => ?_
  have hwinter : IsOffset (-10800) := by decide
  have hsummer : IsOffset (-7200) := by decide
  simp only [saoPauloOffset]
  exact hwinter.ite (SummerTime.isOffset hwinter hsummer i)

theorem apiaOffset_near : Zone.Near ⟨apiaOffset⟩ := by
  refine Zone.near_mk fun i => ?_
  have hwest : IsOffset (-39600) := by decide
  have hwestSummer : IsOffset (-36000) := by decide
  have heast : IsOffset 46800 := by decide
  have heastSummer : IsOffset (apiaSummer.offset i) :=
    SummerTime.isOffset (by decide) (by decide) i
  simp only [apiaOffset]
  exact hwest.ite (hwestSummer.ite (hwest.ite (hwestSummer.ite (heastSummer.ite heast))))

theorem zoneTable_near : ∀ entry ∈ zoneTable, entry.2.Near := by
  simp only [zoneTable, List.mem_cons, List.not_mem_nil, or_false, forall_eq_or_imp, forall_eq]
  refine ⟨Zone.fixed_near ?_, Zone.fixed_near ?_, Zone.fixed_near ?_, Zone.fixed_near ?_,
    Zone.fixed_near ?_, Zone.fixed_near ?_, Zone.fixed_near ?_, Zone.fixed_near ?_,
    Zone.fixed_near ?_, apiaOffset_near, saoPauloOffset_near, SummerTime.zone_near ?_ ?_,
    SummerTime.zone_near ?_ ?_, newYorkOffset_near, SummerTime.zone_near ?_ ?_,
    SummerTime.zone_near ?_ ?_, SummerTime.zone_near ?_ ?_, SummerTime.zone_near ?_ ?_⟩
  all_goals decide

theorem Zone.ofKey_near {key : String} {zone : Zone} (h : Zone.ofKey key = .ok zone) :
    zone.Near := by
  unfold ofKey at h
  simp only at h
  split at h
  · cases h
  · split at h
    · cases h
    · split at h
      · cases h
      · split at h
        · rename_i found hfound
          cases h
          obtain ⟨before, after, htable, -⟩ := List.lookup_eq_some_iff.1 hfound
          exact zoneTable_near (key, zone) (by rw [htable]; simp)
        · cases h

/-! ## Readings -/

/-- An ordinary year begins a year after the calendar does, and ends a year before it. -/
theorem Instant.InOrdinaryYear.day_bounds {i : Instant} (h : i.InOrdinaryYear) :
    365 ≤ i.day.number ∧ i.day.number + 365 < dayCount := by
  have hnumber := i.day.number_civil
  have hday := CivilDate.dayOfYear_lt i.day.civil_valid
  have hsucc := daysBeforeYear_succ i.day.civil_valid.1
  obtain ⟨hyear, hyearLast⟩ := h
  have hfirst : daysBeforeYear 2 ≤ daysBeforeYear i.day.civil.year :=
    daysBeforeYear_le (by decide) hyear
  have hlast : daysBeforeYear (i.day.civil.year + 1) ≤ daysBeforeYear 9999 :=
    daysBeforeYear_le (by omega) (by omega)
  have htwo : daysBeforeYear 2 = 365 := rfl
  have hend : daysBeforeYear 9999 + 365 = dayCount := rfl
  unfold CivilDate.number at hnumber
  omega

theorem WallClock.ofTicks_isSome {n : Int} (hpos : 0 ≤ n) (hlt : n < dayCount * microsPerDay) :
    (WallClock.ofTicks? n).isSome = true := by
  obtain ⟨k, rfl⟩ := Int.eq_ofNat_of_zero_le hpos
  have hk : k < dayCount * microsPerDay := by omega
  show (if h : k < dayCount * microsPerDay then some (⟨k, h⟩ : WallClock) else none).isSome = true
  rw [dif_pos hk]
  rfl

theorem Zone.local_isSome {z : Zone} {i : Instant} (hz : z.Near) (hi : i.InOrdinaryYear) :
    (z.local? i).isSome = true := by
  obtain ⟨hlow, hhigh⟩ := hz i
  obtain ⟨hfirst, hlast⟩ := hi.day_bounds
  have hday : i.day.number = i.utc.ticks / microsPerDay := rfl
  unfold local? WallClock.shift?
  apply WallClock.ofTicks_isSome
  · unfold microsPerDay microsPerSecond at *
    omega
  · unfold dayCount microsPerDay microsPerSecond at *
    omega

/-! ## UTC -/

theorem ofKey_utc : Zone.ofKey "UTC" = .ok Zone.utc := by
  simp [Zone.ofKey, zoneTable, splitAtChar, isNormalPath]

/-- Clocks in UTC have a reading at every instant. -/
theorem Zone.local_utc (i : Instant) : Zone.utc.local? i = some i.utc := by
  show i.utc.shift? (0 * microsPerSecond) = some i.utc
  rw [WallClock.shift?_eq_some, Int.zero_mul, Int.add_zero]

end ChargingReport
