import ChargingReport.Calendar.Iso
import ChargingReport.Proofs.Calendar.Column

/-!
# Written instants are read back

`Stamp.ofText_text` says that the text of an instant reads as its clock reading in UTC, to the
microsecond.  The lemmas before it are about the parts of the text, each with the rest of the text
behind it: the date, the clock time with its fraction, and the offset.
-/

namespace ChargingReport

/-! ## Parts of a text -/

theorem padded_two {n : Nat} (h : n < 100) :
    padded 2 n = [digitChar (n / 10), digitChar (n % 10)] := by
  rw [padded_succ n (by decide), padded_one (by omega)]
  rfl

theorem readTwo_padded {n : Nat} (h : n < 100) (rest : List Char) :
    readTwo (padded 2 n ++ rest) = some (n, rest) := by
  have hvalue := natOfChars_padded 2 n
  rw [padded_two h] at hvalue ⊢
  show (natOfChars? [digitChar (n / 10), digitChar (n % 10)]).map (·, rest) = some (n, rest)
  rw [hvalue]
  rfl

/-- A date that exists is read back. -/
theorem CivilDate.read_text {c : CivilDate} (hc : c.Valid) (rest : List Char) :
    CivilDate.read (c.text ++ rest) = some (c, rest) := by
  obtain ⟨hyear, hmonth, hday⟩ := hc.digits
  have htwo : powerOfTen 2 = 100 := rfl
  have hfour : powerOfTen 4 = 10000 := rfl
  have hy := natOfChars_padded 4 c.year
  have hm := natOfChars_padded 2 c.month
  have hd := natOfChars_padded 2 c.day
  rw [padded_two (by omega)] at hm hd
  rw [padded_succ _ (by decide), padded_succ _ (by decide), padded_two (by omega)] at hy
  rw [CivilDate.text_eq, padded_two (by omega), padded_two (by omega), padded_succ _ (by decide),
    padded_succ _ (by decide), padded_two (by omega)]
  simp only [List.cons_append, List.nil_append] at hy ⊢
  simp only [CivilDate.read, hy, hm, hd, Option.bind_eq_bind, Option.bind_some, Option.pure_def]

/-- The date of a day leads back to the day. -/
theorem Day.ofCivil_civil (d : Day) : Day.ofCivil? d.civil = some d := by
  rw [Day.ofCivil?, if_pos d.civil_valid, d.number_civil]
  show (if h : d.number < dayCount then some (⟨d.number, h⟩ : Day) else none) = some d
  rw [dif_pos d.inRange]

/-- Six digits of a fraction are so many microseconds. -/
theorem readFraction_padded {micros : Nat} (h : micros < powerOfTen 6) {rest : List Char}
    (hrest : ∀ c ∈ rest.head?, isDigitChar c = false) :
    readFraction ('.' :: (padded 6 micros ++ rest)) = some (micros, rest) := by
  have hlength := length_padded (by decide) h
  have hdigits := isDigitChar_padded 6 micros
  have htake : (padded 6 micros ++ rest).takeWhile isDigitChar = padded 6 micros := by
    rw [List.takeWhile_append_of_pos hdigits]
    cases rest with
    | nil => rw [List.takeWhile_nil, List.append_nil]
    | cons c rest =>
      rw [List.takeWhile_cons, hrest c rfl, if_neg Bool.false_ne_true, List.append_nil]
  have hdrop : (padded 6 micros ++ rest).dropWhile isDigitChar = rest := by
    rw [List.dropWhile_append_of_pos hdigits]
    cases rest with
    | nil => rfl
    | cons c rest => rw [List.dropWhile_cons, hrest c rfl, if_neg Bool.false_ne_true]
  have hmicros : fractionMicros (padded 6 micros) = micros := by
    simp only [fractionMicros]
    rw [List.take_of_length_le (Nat.le_of_eq hlength), hlength, Nat.sub_self, List.replicate_zero,
      List.append_nil, natOfChars_padded]
    rfl
  have hne : (padded 6 micros).isEmpty = false := by
    rw [List.isEmpty_eq_false_iff]
    intro hnil
    rw [hnil] at hlength
    exact absurd hlength (by decide)
  simp only [readFraction]
  rw [htake, hdrop, hmicros, hne]
  rfl

/-- The clock time of a reading is read back, whatever stands behind it, unless that goes on with a
point or a digit. -/
theorem readClock_text (w : WallClock) {rest : List Char}
    (hpoint : ∀ c ∈ rest.head?, c ≠ '.') (hdigit : ∀ c ∈ rest.head?, isDigitChar c = false) :
    readClock (padded 2 w.hour ++ ':' :: (padded 2 w.minute ++ ':' :: (padded 2 w.second ++
      ((if w.microsecond = 0 then [] else '.' :: padded 6 w.microsecond) ++ rest)))) =
      some (w.timeOfDay, rest) := by
  obtain ⟨htime, hhour, hminute, hsecond, hmicro⟩ := w.timeOfDay_eq
  have hfraction : readFraction
      ((if w.microsecond = 0 then [] else '.' :: padded 6 w.microsecond) ++ rest) =
        some (w.microsecond, rest) := by
    by_cases hzero : w.microsecond = 0
    · rw [if_pos hzero, hzero, List.nil_append]
      cases rest with
      | nil => rfl
      | cons c rest =>
        have hc : c ≠ '.' := hpoint c rfl
        simp [readFraction, hc]
    · rw [if_neg hzero, List.cons_append]
      exact readFraction_padded hmicro hdigit
  have hseconds : readSeconds (':' :: (padded 2 w.second ++
      ((if w.microsecond = 0 then [] else '.' :: padded 6 w.microsecond) ++ rest))) =
        some (w.second * microsPerSecond + w.microsecond, rest) := by
    simp only [readSeconds]
    rw [readTwo_padded (by omega)]
    simp only [Option.bind_eq_bind, Option.bind_some]
    rw [hfraction]
    rfl
  have hsum : w.hour * 3600000000 + w.minute * 60000000 +
      (w.second * microsPerSecond + w.microsecond) = w.timeOfDay := by
    rw [htime]
    unfold microsPerSecond
    omega
  unfold readClock
  rw [readTwo_padded (by omega)]
  simp only [Option.bind_eq_bind, Option.bind_some]
  rw [readTwo_padded (by omega)]
  simp only [Option.bind_some]
  rw [hseconds]
  simp only [Option.bind_some, Option.pure_def, hsum]

/-- The time of a reading on its day is the reading. -/
theorem WallClock.ofDayTime_eq (w : WallClock) : ofDayTime? w.day w.timeOfDay = some w := by
  have hday : w.timeOfDay < microsPerDay := Nat.mod_lt _ (by decide)
  have hticks : w.day.number * microsPerDay + w.timeOfDay = w.ticks := by
    show w.ticks / microsPerDay * microsPerDay + w.ticks % microsPerDay = w.ticks
    rw [Nat.mul_comm]
    exact Nat.div_add_mod _ _
  rw [ofDayTime?, if_pos hday, hticks]
  show (if h : w.ticks < dayCount * microsPerDay then some (⟨w.ticks, h⟩ : WallClock) else none) =
    some w
  rw [dif_pos w.inRange]

/-- The text of an instant is read back as its reading in UTC. -/
theorem Stamp.ofText_text (i : Instant) : Stamp.ofText? i.text = some ⟨i.utc, some 0⟩ := by
  have htext : i.text.toList = i.utc.day.civil.text ++ 'T' :: (padded 2 i.utc.hour ++
      ':' :: (padded 2 i.utc.minute ++ ':' :: (padded 2 i.utc.second ++
        ((if i.utc.microsecond = 0 then [] else '.' :: padded 6 i.utc.microsecond) ++
          ['+', '0', '0', ':', '0', '0'])))) := by
    rw [Instant.text, String.toList_ofList, WallClock.text]
    simp only [List.append_assoc, List.cons_append]
  have hoffset : readOffset ['+', '0', '0', ':', '0', '0'] = some (some 0) := by decide
  have hplus : ∀ c ∈ ['+', '0', '0', ':', '0', '0'].head?, c = '+' :=
    fun c hc => (Option.some.inj hc).symm
  -- the date, the clock time and the offset are read one behind the other
  unfold Stamp.ofText?
  rw [htext, CivilDate.read_text i.utc.day.civil_valid]
  simp only [Option.bind_eq_bind, Option.bind_some]
  rw [Day.ofCivil_civil]
  simp only [Option.bind_some]
  rw [readClock_text i.utc (fun c hc => by rw [hplus c hc]; decide)
    (fun c hc => by rw [hplus c hc]; decide)]
  simp only [Option.bind_some, hoffset, WallClock.ofDayTime_eq, Option.pure_def]

end ChargingReport
