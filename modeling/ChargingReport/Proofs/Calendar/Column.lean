import ChargingReport.Calendar.Column
import ChargingReport.Proofs.Calendar.Civil
import ChargingReport.Proofs.Calendar.Clock
import ChargingReport.Proofs.Text.Digits

/-!
# The order of column texts

A query compares the texts of times and days.  This module proves that this is the comparison of the
times and days themselves: the texts of a kind have one length, and stand in the order of what they
write.

* `padded_lt` is the reason: padded numbers of one width sort like the numbers.
* `Day.columnText_lt_iff` and `Instant.columnText_lt_iff` are the order of days and of times.
* `DayReading.day?` is the day that a database reads of a time, in terms of the calendar.  It is the
  day of the time, except for a last part of some days that is carried into the next day
  (`DayReading.carried`).
* `Instant.columnLe_iff`, `DayReading.columnDay_eq` and `columnTextLe_day_iff` are what the conditions
  of a query come down to.
-/

namespace ChargingReport

/-! ## Texts in lexicographic order -/

/-- A text with a lesser front of the same length is less, whatever follows. -/
theorem append_lt_of_lt {p q : List Char} (x y : List Char) (hlen : p.length = q.length)
    (h : p < q) : p ++ x < q ++ y := by
  induction p generalizing q with
  | nil =>
    cases q with
    | nil => exact absurd h (List.lt_irrefl _)
    | cons c q => simp at hlen
  | cons c p ih =>
    cases q with
    | nil => simp at hlen
    | cons e q =>
      simp only [List.length_cons, Nat.add_right_cancel_iff] at hlen
      rw [List.cons_append, List.cons_append, List.cons_lt_cons_iff]
      rcases List.cons_lt_cons_iff.1 h with hc | ⟨hc, hpq⟩
      · exact Or.inl hc
      · exact Or.inr ⟨hc, ih hlen hpq⟩

theorem cons_lt_cons {c : Char} {x y : List Char} (h : x < y) : c :: x < c :: y :=
  List.cons_lt_cons_iff.2 (Or.inr ⟨rfl, h⟩)

/-! ## Padded numbers -/

theorem digitChar_lt {a b : Nat} (h : a < b) (hb : b < 10) : digitChar a < digitChar b := by
  have hall : ∀ b < 10, ∀ a < b, digitChar a < digitChar b := by decide
  exact hall b hb a h

/-- Padded numbers of one width sort like the numbers.  A greater number has a greater front, or the
same front and a greater last digit. -/
theorem padded_lt {width a b : Nat} (hw : 1 ≤ width) (h : a < b) (hb : b < powerOfTen width) :
    padded width a < padded width b := by
  induction width, hw using Nat.le_induction generalizing a b with
  | base =>
    rw [powerOfTen_one] at hb
    rw [padded_one (by omega), padded_one hb]
    exact List.cons_lt_cons_iff.2 (Or.inl (digitChar_lt h (by omega)))
  | succ width hw ih =>
    rw [powerOfTen_succ] at hb
    rw [padded_succ a hw, padded_succ b hw]
    rcases Nat.lt_or_ge (a / 10) (b / 10) with hlt | hge
    · refine append_lt_of_lt _ _ ?_ (ih hlt (by omega))
      rw [length_padded hw (by omega), length_padded hw (by omega)]
    · have hfront : a / 10 = b / 10 := by omega
      rw [hfront]
      refine List.append_left_lt (List.cons_lt_cons_iff.2 (Or.inl ?_))
      exact digitChar_lt (by omega) (by omega)

/-- A text in which a padded number stands in front sorts by the number, and then by the rest. -/
theorem padded_append_lt {width a b : Nat} {x y : List Char} (hw : 1 ≤ width)
    (ha : a < powerOfTen width) (hb : b < powerOfTen width) (h : a < b ∨ a = b ∧ x < y) :
    padded width a ++ x < padded width b ++ y := by
  rcases h with hlt | ⟨rfl, hxy⟩
  · refine append_lt_of_lt _ _ ?_ (padded_lt hw hlt hb)
    rw [length_padded hw ha, length_padded hw hb]
  · exact List.append_left_lt hxy

/-! ## Days -/

theorem CivilDate.text_eq (c : CivilDate) :
    c.text = padded 4 c.year ++ '-' :: (padded 2 c.month ++ '-' :: padded 2 c.day) := by
  simp [CivilDate.text]

/-- The parts of a date that exists fit into four, two and two digits. -/
theorem CivilDate.Valid.digits {c : CivilDate} (h : c.Valid) :
    c.year < powerOfTen 4 ∧ c.month < powerOfTen 2 ∧ c.day < powerOfTen 2 := by
  obtain ⟨hy, hyl, hm, hml, hd, hdl⟩ := h
  have hmonth : daysInMonth c.year c.month ≤ 31 := by
    rw [daysInMonth_eq hm]
    have hall : ∀ leap : Bool, ∀ i < 12, (monthLengths leap).getD i 0 ≤ 31 := by decide
    exact hall _ _ (by omega)
  have hfour : powerOfTen 4 = 10000 := rfl
  have htwo : powerOfTen 2 = 100 := rfl
  omega

namespace Day

theorem length_columnText (d : Day) : d.columnText.length = columnDayLength := by
  obtain ⟨hy, hm, hd⟩ := d.civil_valid.digits
  simp only [columnText, CivilDate.text_eq, List.length_append, List.length_cons]
  rw [length_padded (by decide) hy, length_padded (by decide) hm, length_padded (by decide) hd]
  rfl

theorem columnText_lt {d e : Day} (h : d.number < e.number) : d.columnText < e.columnText := by
  obtain ⟨hy, hm, hd⟩ := d.civil_valid.digits
  obtain ⟨hy', hm', hd'⟩ := e.civil_valid.digits
  simp only [columnText, CivilDate.text_eq]
  refine padded_append_lt (by decide) hy hy' ?_
  refine (civil_lt h).imp_right (And.imp_right fun hmonth => cons_lt_cons ?_)
  refine padded_append_lt (by decide) hm hm' ?_
  exact hmonth.imp_right (And.imp_right fun hday => cons_lt_cons (padded_lt (by decide) hday hd'))

theorem ext_number {d e : Day} (h : d.number = e.number) : d = e := by
  obtain ⟨d, hd⟩ := d
  obtain ⟨e, he⟩ := e
  simpa using h

theorem columnText_lt_iff {d e : Day} : d.columnText < e.columnText ↔ d.number < e.number := by
  refine ⟨fun h => ?_, columnText_lt⟩
  rcases Nat.lt_trichotomy d.number e.number with hlt | heq | hgt
  · exact hlt
  · rw [ext_number heq] at h
    exact absurd h (List.lt_irrefl _)
  · exact absurd h (List.lt_asymm (columnText_lt hgt))

theorem columnText_inj {d e : Day} : d.columnText = e.columnText ↔ d = e := by
  refine ⟨fun h => ext_number ?_, fun h => h ▸ rfl⟩
  rcases Nat.lt_trichotomy d.number e.number with hlt | heq | hgt
  · have hless := columnText_lt hlt
    rw [h] at hless
    exact absurd hless (List.lt_irrefl _)
  · exact heq
  · have hless := columnText_lt hgt
    rw [h] at hless
    exact absurd hless (List.lt_irrefl _)

end Day

theorem columnTextLe_iff {x y : List Char} : columnTextLe x y = true ↔ ¬ y < x := by
  rw [columnTextLe, Bool.not_eq_true', decide_eq_false_iff_not]

/-- Days compare in a query as they follow each other. -/
theorem columnTextLe_day_iff {d e : Day} :
    columnTextLe d.columnText e.columnText = true ↔ d.number ≤ e.number := by
  rw [columnTextLe_iff, Day.columnText_lt_iff, Nat.not_lt]

/-! ## Times -/

namespace WallClock

/-- The time of day is made of its hour, minute, second and microsecond. -/
theorem timeOfDay_eq (w : WallClock) :
    w.timeOfDay = w.hour * 3600000000 + w.minute * 60000000 + w.second * 1000000 + w.microsecond ∧
      w.hour < 24 ∧ w.minute < 60 ∧ w.second < 60 ∧ w.microsecond < 1000000 := by
  have hday : w.timeOfDay < 86400000000 := Nat.mod_lt _ (by decide)
  unfold hour minute second microsecond microsPerSecond
  omega

/-- A later reading is on a later day, or it is later on the same day. -/
theorem day_lt_or_timeOfDay_lt {v w : WallClock} (h : v.ticks < w.ticks) :
    v.day.number < w.day.number ∨ v.day = w.day ∧ v.timeOfDay < w.timeOfDay := by
  simp only [day, timeOfDay, Day.mk.injEq, microsPerDay]
  omega

theorem columnText_lt {v w : WallClock} (h : v.ticks < w.ticks) : v.columnText < w.columnText := by
  unfold columnText
  rcases day_lt_or_timeOfDay_lt h with hday | ⟨hday, htime⟩
  · refine append_lt_of_lt _ _ ?_ (Day.columnText_lt hday)
    exact v.day.length_columnText.trans w.day.length_columnText.symm
  · obtain ⟨hv, hv1, hv2, hv3, hv4⟩ := v.timeOfDay_eq
    obtain ⟨hw, hw1, hw2, hw3, hw4⟩ := w.timeOfDay_eq
    have htwo : powerOfTen 2 = 100 := rfl
    have hsix : powerOfTen 6 = 1000000 := rfl
    rw [hday]
    refine List.append_left_lt (cons_lt_cons ?_)
    have horder : v.hour < w.hour ∨ v.hour = w.hour ∧ (v.minute < w.minute ∨
        v.minute = w.minute ∧ (v.second < w.second ∨
          v.second = w.second ∧ v.microsecond < w.microsecond)) := by omega
    refine padded_append_lt (by decide) (by omega) (by omega) ?_
    refine horder.imp_right (And.imp_right fun horder => cons_lt_cons ?_)
    refine padded_append_lt (by decide) (by omega) (by omega) ?_
    refine horder.imp_right (And.imp_right fun horder => cons_lt_cons ?_)
    refine padded_append_lt (by decide) (by omega) (by omega) ?_
    exact horder.imp_right (And.imp_right fun hmicro =>
      cons_lt_cons (padded_lt (by decide) hmicro (by omega)))

end WallClock

namespace Instant

/-- The texts of times stand in the order of the times. -/
theorem columnText_lt_iff {a b : Instant} : a.columnText < b.columnText ↔ a.ticks < b.ticks := by
  refine ⟨fun h => ?_, WallClock.columnText_lt⟩
  rcases Nat.lt_trichotomy a.ticks b.ticks with hlt | heq | hgt
  · exact hlt
  · rw [ext_ticks heq] at h
    exact absurd h (List.lt_irrefl _)
  · exact absurd h (List.lt_asymm (WallClock.columnText_lt hgt))

/-- Times compare in a query as they follow each other. -/
theorem columnLe_iff {a b : Instant} : a.columnLe b = true ↔ a.ticks ≤ b.ticks := by
  rw [columnLe, columnTextLe_iff, columnText_lt_iff, Nat.not_lt]

/-- The front of the text of a time is the day of the time. -/
theorem columnFront_eq (i : Instant) : i.columnFront = i.day.columnText := by
  have hlen := i.day.length_columnText
  unfold columnFront columnText WallClock.columnText
  exact List.take_left' hlen

/-- The earlier of two times is one of them, and it is not after either. -/
theorem earlier_spec (a b : Instant) :
    (earlier a b = a ∨ earlier a b = b) ∧ (earlier a b).ticks ≤ a.ticks ∧
      (earlier a b).ticks ≤ b.ticks := by
  have hle := columnLe_iff (a := a) (b := b)
  unfold earlier
  split
  · rename_i h
    exact ⟨Or.inl rfl, Nat.le_refl _, hle.1 h⟩
  · rename_i h
    have : ¬ a.ticks ≤ b.ticks := fun hab => h (hle.2 hab)
    exact ⟨Or.inr rfl, by omega, Nat.le_refl _⟩

private theorem foldl_earlier_spec (rest : List Instant) (i : Instant) :
    rest.foldl earlier i ∈ i :: rest ∧ ∀ k ∈ i :: rest, (rest.foldl earlier i).ticks ≤ k.ticks := by
  induction rest generalizing i with
  | nil => simp
  | cons j rest ih =>
    obtain ⟨hmem, hmin⟩ := ih (earlier i j)
    obtain ⟨hone, hi, hj⟩ := earlier_spec i j
    have hfirst := hmin _ List.mem_cons_self
    rw [List.foldl_cons]
    refine ⟨?_, fun k hk => ?_⟩
    · rcases List.mem_cons.1 hmem with heq | hrest
      · rw [heq]
        rcases hone with h | h <;> rw [h] <;> simp
      · simp [hrest]
    · rcases List.mem_cons.1 hk with rfl | hk
      · omega
      · rcases List.mem_cons.1 hk with rfl | hk
        · omega
        · exact hmin k (List.mem_cons_of_mem _ hk)

/-- The earliest of some times is one of them, and none is before it. -/
theorem earliest?_eq_some {times : List Instant} {i : Instant} (h : earliest? times = some i) :
    i ∈ times ∧ ∀ k ∈ times, i.ticks ≤ k.ticks := by
  cases times with
  | nil => simp [earliest?] at h
  | cons j rest =>
    simp only [earliest?, Option.some.injEq] at h
    subst h
    exact foldl_earlier_spec rest j

theorem earliest?_isSome {times : List Instant} (h : times ≠ []) :
    ∃ i, earliest? times = some i := by
  cases times with
  | nil => exact absurd rfl h
  | cons j rest => exact ⟨_, rfl⟩

end Instant

/-! ## Days of columns -/

namespace DayReading

/-- The number of microseconds at the end of a day that are read as the next day. -/
def carried : DayReading → Day → Nat
  | .front, _ => 0
  | .rounded, d => if d.civil.day ≤ 28 then 0 else halfMillisecond

/-- The day that is read of a time.  There is none behind the calendar. -/
def day? (days : DayReading) (i : Instant) : Option Day :=
  (i.shift? (days.carried i.day)).map Instant.day

/-- The number of the day that is read of a time, also behind the calendar. -/
def dayNumber (days : DayReading) (i : Instant) : Nat :=
  (i.ticks + days.carried i.day) / microsPerDay

theorem carried_le (days : DayReading) (d : Day) : days.carried d ≤ halfMillisecond := by
  unfold carried
  split
  · exact Nat.zero_le _
  · split
    · exact Nat.zero_le _
    · exact Nat.le_refl _

theorem day?_eq_some {days : DayReading} {i : Instant} {d : Day} :
    days.day? i = some d ↔ days.dayNumber i = d.number := by
  constructor
  · intro h
    obtain ⟨k, hshift, rfl⟩ := Option.map_eq_some_iff.1 h
    have hticks := Instant.shift?_eq_some.1 hshift
    rw [dayNumber, ← Int.ofNat_inj.1 (hticks.trans (Int.natCast_add _ _).symm)]
    rfl
  · intro h
    have hrange : i.ticks + days.carried i.day < dayCount * microsPerDay :=
      (Nat.div_lt_iff_lt_mul (by decide)).1 (lt_of_eq_of_lt h d.inRange)
    have hshift : i.shift? (days.carried i.day) = some ⟨⟨_, hrange⟩⟩ :=
      Instant.shift?_eq_some.2 (Int.natCast_add _ _)
    rw [day?, hshift, Option.map_some, Option.some_inj]
    exact Day.ext_number h

/-- No day is read before the day of the time. -/
theorem day_le_dayNumber (days : DayReading) (i : Instant) : i.day.number ≤ days.dayNumber i :=
  Nat.div_le_div_right (Nat.le_add_right _ _)

/-- A time that is not carried is read as on its own day. -/
theorem day?_of_carried {days : DayReading} {i : Instant} (h : days.carried i.day = 0) :
    days.day? i = some i.day := by
  rw [day?_eq_some, dayNumber, h]
  rfl

/-- A database that takes the front of the text reads the day of the time. -/
theorem day?_front (i : Instant) : front.day? i = some i.day := day?_of_carried rfl

/-- The text of the day that is read is the text of a day of the calendar. -/
theorem columnDay_eq (days : DayReading) (i : Instant) :
    days.columnDay i = (days.day? i).map Day.columnText := by
  cases days with
  | front => rw [columnDay, day?_front, Instant.columnFront_eq, Option.map_some]
  | rounded =>
    rw [columnDay]
    split
    · rename_i hearly
      have hcarried : rounded.carried i.day = 0 := if_pos hearly
      rw [day?_of_carried hcarried, Instant.columnFront_eq, Option.map_some]
    · rename_i hlate
      have hcarried : rounded.carried i.day = halfMillisecond := if_neg hlate
      have hfront : Instant.columnFront = Day.columnText ∘ Instant.day :=
        funext Instant.columnFront_eq
      rw [day?, hcarried, Option.map_map, hfront]

end DayReading

end ChargingReport
