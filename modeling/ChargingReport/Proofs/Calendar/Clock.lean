import ChargingReport.Calendar.Clock
import Mathlib.Data.Option.Basic

/-!
# Readings, stamps and instants by their microseconds

* `WallClock.ofTicks?_eq_some` is the reading with a number of microseconds.
* `Stamp.instant?_eq_some` says at which instant a stamp is: its reading is later than the instant by
  its offset.
-/

namespace ChargingReport

theorem Instant.ext_ticks {a b : Instant} (h : a.ticks = b.ticks) : a = b := by
  obtain ⟨⟨a, ha⟩⟩ := a
  obtain ⟨⟨b, hb⟩⟩ := b
  simpa [ticks] using h

theorem WallClock.ofTicks?_eq_some {n : Int} {w : WallClock} :
    ofTicks? n = some w ↔ (w.ticks : Int) = n := by
  constructor
  · intro h
    unfold ofTicks? at h
    split at h
    · split at h
      · cases h
        rfl
      · cases h
    · cases h
  · rintro rfl
    exact dif_pos w.inRange

theorem WallClock.shift?_eq_some {w shifted : WallClock} {micros : Int} :
    w.shift? micros = some shifted ↔ (shifted.ticks : Int) = w.ticks + micros :=
  ofTicks?_eq_some

theorem Instant.shift?_eq_some {i shifted : Instant} {micros : Int} :
    i.shift? micros = some shifted ↔ (shifted.ticks : Int) = i.ticks + micros := by
  constructor
  · intro h
    obtain ⟨w, hw, rfl⟩ := Option.map_eq_some_iff.1 h
    exact WallClock.shift?_eq_some.1 hw
  · intro h
    have hshift : i.utc.shift? micros = some shifted.utc := WallClock.shift?_eq_some.2 h
    rw [shift?, hshift]
    rfl

theorem Stamp.instant?_eq_some {s : Stamp} {i : Instant} :
    s.instant? = some i ↔ (i.ticks : Int) + s.offset.getD 0 = s.wall.ticks := by
  obtain ⟨wall, offset⟩ := s
  cases offset with
  | none =>
    show some (⟨wall⟩ : Instant) = some i ↔ (i.ticks : Int) + 0 = wall.ticks
    rw [Option.some_inj, Int.add_zero, Int.ofNat_inj]
    exact ⟨fun h => h ▸ rfl, fun h => Instant.ext_ticks h.symm⟩
  | some offset =>
    show (wall.shift? (-offset)).map Instant.mk = some i ↔ (i.ticks : Int) + offset = wall.ticks
    constructor
    · intro h
      obtain ⟨w, hw, rfl⟩ := Option.map_eq_some_iff.1 h
      have hticks : ((Instant.mk w).ticks : Int) = wall.ticks + -offset :=
        WallClock.shift?_eq_some.1 hw
      omega
    · intro h
      have hshift : wall.shift? (-offset) = some i.utc :=
        WallClock.shift?_eq_some.2 (by show (i.ticks : Int) = _; omega)
      rw [hshift]
      rfl

end ChargingReport
