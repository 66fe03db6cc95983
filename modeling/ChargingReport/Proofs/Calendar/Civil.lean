import ChargingReport.Calendar.Day
import Mathlib.Data.Nat.Init
import Mathlib.Tactic.ByContra

/-!
# Days and dates

A day is a number, and a date is a year, a month and a day of the month.  This module proves that the
two views agree: every day has a date that exists (`Day.civil_valid`), the date leads back to the
number (`Day.number_civil`), and a later day has a later date (`Day.civil_lt`).

There are four groups.

* Years.  `splitYear_days` and `splitYear_lt` say that `splitYear` finds the year of a day and the
  days from the first of that year.  Both go by the cycles of 400, 100, 4 and 1 years.
* Months.  `splitMonth_spec` says the same of `splitMonth` and the lengths of the months.
* Dates.  The number of a date grows with its year, then with its month, then with its day.
* Neighbours.  `CivilDate.next` is the date after a date as a calendar turns it over, and
  `Day.next_civil` says that it is the date of the next number.
-/

namespace ChargingReport

/-! ## Years -/

/-- The number of days in a year. -/
def yearLength (year : Nat) : Nat := if isLeapYear year then 366 else 365

/-- The year that stands in a cycle of 400, a cycle of 100 in that, a cycle of 4 in that, and a year
of that, each counted from zero. -/
def cycleYear (a b c d : Nat) : Nat := 400 * a + 100 * b + 4 * c + d + 1

/-- Every year stands in such cycles. -/
theorem exists_cycleYear {year : Nat} (h : 1 ≤ year) :
    ∃ a b c d, b ≤ 3 ∧ c ≤ 24 ∧ d ≤ 3 ∧ year = cycleYear a b c d := by
  refine ⟨(year - 1) / 400, (year - 1) % 400 / 100, (year - 1) % 100 / 4, (year - 1) % 4, ?_⟩
  unfold cycleYear
  omega

section Cycles

variable {a b c d : Nat} (hb : b ≤ 3) (hc : c ≤ 24) (hd : d ≤ 3)
include hb hc hd

theorem daysBeforeYear_cycleYear :
    daysBeforeYear (cycleYear a b c d) = 146097 * a + 36524 * b + 1461 * c + 365 * d := by
  have h4 : (400 * a + 100 * b + 4 * c + d) / 4 = 100 * a + 25 * b + c := by omega
  have h100 : (400 * a + 100 * b + 4 * c + d) / 100 = 4 * a + b := by omega
  have h400 : (400 * a + 100 * b + 4 * c + d) / 400 = a := by omega
  unfold daysBeforeYear cycleYear
  rw [Nat.add_sub_cancel, h4, h100, h400]
  omega

/-- The last year of a cycle of four is a leap year, unless it ends a cycle of 100 that does not end
a cycle of 400. -/
theorem isLeapYear_cycleYear :
    isLeapYear (cycleYear a b c d) = true ↔ d = 3 ∧ (c ≠ 24 ∨ b = 3) := by
  simp only [isLeapYear, cycleYear, Bool.and_eq_true, Bool.or_eq_true, beq_iff_eq, bne_iff_ne]
  omega

theorem yearLength_cycleYear :
    yearLength (cycleYear a b c d) = if d = 3 ∧ (c ≠ 24 ∨ b = 3) then 366 else 365 := by
  unfold yearLength
  simp only [isLeapYear_cycleYear hb hc hd]

end Cycles

/-- The day number of a first of January grows by the length of the year before. -/
theorem daysBeforeYear_succ {year : Nat} (h : 1 ≤ year) :
    daysBeforeYear (year + 1) = daysBeforeYear year + yearLength year := by
  obtain ⟨a, b, c, d, hb, hc, hd, rfl⟩ := exists_cycleYear h
  have hpos : 1 ≤ cycleYear a b c d + 1 := Nat.le_add_left _ _
  obtain ⟨a', b', c', d', hb', hc', hd', hnext⟩ := exists_cycleYear hpos
  rw [hnext, daysBeforeYear_cycleYear hb' hc' hd', daysBeforeYear_cycleYear hb hc hd,
    yearLength_cycleYear hb hc hd]
  unfold cycleYear at hnext
  split <;> omega

theorem daysBeforeYear_le {a b : Nat} (ha : 1 ≤ a) (h : a ≤ b) :
    daysBeforeYear a ≤ daysBeforeYear b := by
  induction b, h using Nat.le_induction with
  | base => exact Nat.le_refl _
  | succ b hab ih =>
    rw [daysBeforeYear_succ (by omega)]
    omega

/-- `splitYear` finds the cycles and the year of a day.  A day 366 is in the last year of a cycle of
four, and of the cycles of 100 only the last one ends with such a day. -/
theorem splitYear_cycles (n : Nat) :
    ∃ a b c d r, b ≤ 3 ∧ c ≤ 24 ∧ d ≤ 3 ∧ splitYear n = (cycleYear a b c d, r) ∧
      n = 146097 * a + 36524 * b + 1461 * c + 365 * d + r ∧
      (r < 365 ∨ r = 365 ∧ d = 3 ∧ (c ≠ 24 ∨ b = 3)) := by
  generalize ha : n / 146097 = a
  generalize hr400 : n % 146097 = r400
  generalize hb : min 3 (r400 / 36524) = b
  generalize hc : (r400 - 36524 * b) / 1461 = c
  generalize hr4 : (r400 - 36524 * b) % 1461 = r4
  generalize hd : min 3 (r4 / 365) = d
  refine ⟨a, b, c, d, r4 - 365 * d, by omega, by omega, by omega, ?_, by omega, by omega⟩
  subst ha hr400 hb hc hr4 hd
  rfl

/-- The year of a day begins so many days before the day. -/
theorem splitYear_days (n : Nat) : daysBeforeYear (splitYear n).1 + (splitYear n).2 = n := by
  obtain ⟨a, b, c, d, r, hb, hc, hd, heq, hn, -⟩ := splitYear_cycles n
  rw [heq, daysBeforeYear_cycleYear hb hc hd]
  omega

/-- The year of a day is not over on the day. -/
theorem splitYear_lt (n : Nat) : (splitYear n).2 < yearLength (splitYear n).1 := by
  obtain ⟨a, b, c, d, r, hb, hc, hd, heq, -, hr⟩ := splitYear_cycles n
  rw [heq, yearLength_cycleYear hb hc hd]
  split <;> omega

theorem splitYear_pos (n : Nat) : 1 ≤ (splitYear n).1 := by
  obtain ⟨a, b, c, d, r, -, -, -, heq, -⟩ := splitYear_cycles n
  rw [heq]
  unfold cycleYear
  omega

/-- The calendar ends with the year 9999. -/
theorem splitYear_le {n : Nat} (h : n < dayCount) : (splitYear n).1 ≤ 9999 := by
  have hdays := splitYear_days n
  by_contra hgt
  have hle : daysBeforeYear 10000 ≤ daysBeforeYear (splitYear n).1 :=
    daysBeforeYear_le (by omega) (by omega)
  have hend : daysBeforeYear 10000 = dayCount := by decide
  omega

/-! ## Months -/

theorem sumOf_monthLengths (year : Nat) :
    sumOf (monthLengths (isLeapYear year)) = yearLength year := by
  unfold yearLength
  cases isLeapYear year <;> rfl

/-- `splitMonth` finds the month of a day, by the lengths of the months. -/
theorem splitMonth_spec (lengths : List Nat) (n : Nat) (h : n < sumOf lengths) :
    1 ≤ (splitMonth lengths n).1 ∧ (splitMonth lengths n).1 ≤ lengths.length ∧
      1 ≤ (splitMonth lengths n).2 ∧
      (splitMonth lengths n).2 ≤ lengths.getD ((splitMonth lengths n).1 - 1) 0 ∧
      sumOf (lengths.take ((splitMonth lengths n).1 - 1)) + ((splitMonth lengths n).2 - 1) = n := by
  induction lengths generalizing n with
  | nil => simp [sumOf] at h
  | cons length rest ih =>
    simp only [sumOf] at h
    by_cases hn : n < length
    · simp only [splitMonth, if_pos hn, List.length_cons, List.take_zero, sumOf,
        List.getD_cons_zero, Nat.sub_self]
      omega
    · have hrest := ih (n - length) (by omega)
      simp only [splitMonth, if_neg hn]
      obtain ⟨hm, hml, hd, hdl, hsum⟩ := hrest
      obtain ⟨m, hm'⟩ : ∃ m, (splitMonth rest (n - length)).1 = m + 1 :=
        ⟨(splitMonth rest (n - length)).1 - 1, by omega⟩
      rw [hm'] at hml hdl hsum ⊢
      simp only [Nat.add_sub_cancel, List.length_cons, List.getD_cons_succ, List.take_succ_cons,
        sumOf] at hml hdl hsum ⊢
      omega

/-- The days before a later month include all of an earlier one. -/
theorem sumOf_take_add_le (lengths : List Nat) {i j : Nat} (h : i < j) (hj : j ≤ lengths.length) :
    sumOf (lengths.take i) + lengths.getD i 0 ≤ sumOf (lengths.take j) := by
  induction lengths generalizing i j with
  | nil => simp at hj; omega
  | cons length rest ih =>
    obtain ⟨j, rfl⟩ : ∃ k, j = k + 1 := ⟨j - 1, by omega⟩
    cases i with
    | zero =>
      simp only [List.take_zero, sumOf, List.getD_cons_zero, List.take_succ_cons]
      omega
    | succ i =>
      simp only [List.length_cons] at hj
      have := ih (i := i) (j := j) (by omega) (by omega)
      simp only [List.take_succ_cons, sumOf, List.getD_cons_succ]
      omega

/-! ## Dates -/

theorem daysInMonth_eq {year month : Nat} (h : 1 ≤ month) :
    daysInMonth year month = (monthLengths (isLeapYear year)).getD (month - 1) 0 := by
  unfold daysInMonth
  rw [if_neg (by omega)]

namespace Day

/-- The date of a day, by the year and the month that it falls in. -/
theorem exists_civil_eq (d : Day) : ∃ year rest month day,
    splitYear d.number = (year, rest) ∧
      splitMonth (monthLengths (isLeapYear year)) rest = (month, day) ∧
      d.civil = ⟨year, month, day⟩ := by
  refine ⟨_, _, _, _, rfl, rfl, ?_⟩
  unfold civil
  rfl

/-- The month and the day of the month in the date of a day, as `splitMonth` finds them. -/
theorem splitMonth_civil {d : Day} {year rest month day : Nat}
    (hyear : splitYear d.number = (year, rest))
    (hmonth : splitMonth (monthLengths (isLeapYear year)) rest = (month, day)) :
    1 ≤ month ∧ month ≤ 12 ∧ 1 ≤ day ∧ day ≤ daysInMonth year month ∧
      daysBeforeMonth year month + (day - 1) = rest := by
  have hlt := splitYear_lt d.number
  rw [hyear] at hlt
  have hspec := splitMonth_spec (monthLengths (isLeapYear year)) rest
    (by rw [sumOf_monthLengths]; exact hlt)
  rw [hmonth] at hspec
  obtain ⟨hm, hml, hd, hdl, hsum⟩ := hspec
  refine ⟨hm, hml, hd, ?_, hsum⟩
  rw [daysInMonth_eq hm]
  exact hdl

/-- The date of a day exists. -/
theorem civil_valid (d : Day) : d.civil.Valid := by
  obtain ⟨year, rest, month, day, hyear, hmonth, hcivil⟩ := d.exists_civil_eq
  obtain ⟨hm, hml, hd, hdl, -⟩ := splitMonth_civil hyear hmonth
  have hpos := splitYear_pos d.number
  have hle := splitYear_le d.inRange
  rw [hyear] at hpos hle
  rw [hcivil]
  exact ⟨hpos, hle, hm, hml, hd, hdl⟩

/-- The date of a day leads back to its number. -/
theorem number_civil (d : Day) : d.civil.number = d.number := by
  obtain ⟨year, rest, month, day, hyear, hmonth, hcivil⟩ := d.exists_civil_eq
  obtain ⟨-, -, -, -, hsum⟩ := splitMonth_civil hyear hmonth
  have hdays := splitYear_days d.number
  rw [hyear] at hdays
  rw [hcivil]
  show daysBeforeYear year + daysBeforeMonth year month + (day - 1) = d.number
  simp only [← hsum] at hdays
  omega

end Day

namespace CivilDate

/-- The days from the first of January to a date that exists are fewer than its year has. -/
theorem dayOfYear_lt {c : CivilDate} (h : c.Valid) :
    daysBeforeMonth c.year c.month + (c.day - 1) < yearLength c.year := by
  obtain ⟨-, -, hm, hml, hd, hdl⟩ := h
  rw [daysInMonth_eq hm] at hdl
  have hle := sumOf_take_add_le (monthLengths (isLeapYear c.year))
    (i := c.month - 1) (j := 12) (by omega) (by simp [monthLengths])
  have hall : sumOf ((monthLengths (isLeapYear c.year)).take 12) = yearLength c.year := by
    rw [List.take_of_length_le (by simp [monthLengths]), sumOf_monthLengths]
  unfold daysBeforeMonth
  omega

/-- A date of an earlier year is earlier. -/
theorem number_lt_of_year_lt {c e : CivilDate} (h : c.Valid) (hlt : c.year < e.year) :
    c.number < e.number := by
  have hday := dayOfYear_lt h
  have hsucc := daysBeforeYear_succ h.1
  have hmono := daysBeforeYear_le (a := c.year + 1) (b := e.year) (by omega) hlt
  unfold number
  omega

/-- A date of an earlier month of the same year is earlier. -/
theorem number_lt_of_month_lt {c e : CivilDate} (hc : c.Valid) (he : e.Valid)
    (hy : c.year = e.year) (hlt : c.month < e.month) : c.number < e.number := by
  obtain ⟨-, -, hm, -, hd, hdl⟩ := hc
  obtain ⟨-, -, -, heml, -, -⟩ := he
  rw [daysInMonth_eq hm] at hdl
  have hle := sumOf_take_add_le (monthLengths (isLeapYear c.year))
    (i := c.month - 1) (j := e.month - 1) (by omega) (by simp [monthLengths]; omega)
  unfold number daysBeforeMonth
  rw [← hy]
  omega

end CivilDate

/-- A later day has a later year, or a later month of the same year, or a later day of the same
month. -/
theorem Day.civil_lt {d e : Day} (h : d.number < e.number) :
    d.civil.year < e.civil.year ∨ d.civil.year = e.civil.year ∧
      (d.civil.month < e.civil.month ∨ d.civil.month = e.civil.month ∧
        d.civil.day < e.civil.day) := by
  rw [← d.number_civil, ← e.number_civil] at h
  rcases Nat.lt_trichotomy d.civil.year e.civil.year with hy | hy | hy
  · exact Or.inl hy
  · refine Or.inr ⟨hy, ?_⟩
    rcases Nat.lt_trichotomy d.civil.month e.civil.month with hm | hm | hm
    · exact Or.inl hm
    · refine Or.inr ⟨hm, ?_⟩
      unfold CivilDate.number at h
      rw [hy, hm] at h
      omega
    · have := CivilDate.number_lt_of_month_lt e.civil_valid d.civil_valid hy.symm hm
      omega
  · have := CivilDate.number_lt_of_year_lt e.civil_valid hy
    omega

/-! ## Neighbours -/

namespace CivilDate

/-- The date after a date.  After the last day of a month comes the first of the next month, and
after the last month the first of January. -/
def next (c : CivilDate) : CivilDate :=
  if c.day < daysInMonth c.year c.month then ⟨c.year, c.month, c.day + 1⟩
  else if c.month < 12 then ⟨c.year, c.month + 1, 1⟩
  else ⟨c.year + 1, 1, 1⟩

/-- Dates that exist are told apart by their numbers. -/
theorem eq_of_number {c e : CivilDate} (hc : c.Valid) (he : e.Valid) (h : c.number = e.number) :
    c = e := by
  have hyear : c.year = e.year := by
    rcases Nat.lt_trichotomy c.year e.year with hlt | heq | hgt
    · have := number_lt_of_year_lt hc hlt
      omega
    · exact heq
    · have := number_lt_of_year_lt he hgt
      omega
  have hmonth : c.month = e.month := by
    rcases Nat.lt_trichotomy c.month e.month with hlt | heq | hgt
    · have := number_lt_of_month_lt hc he hyear hlt
      omega
    · exact heq
    · have := number_lt_of_month_lt he hc hyear.symm hgt
      omega
  obtain ⟨-, -, -, -, hcd, -⟩ := hc
  obtain ⟨-, -, -, -, hed, -⟩ := he
  obtain ⟨year, month, day⟩ := c
  obtain ⟨year', month', day'⟩ := e
  simp only at hyear hmonth hcd hed
  subst hyear hmonth
  simp only [number] at h
  simp only [CivilDate.mk.injEq, true_and]
  omega

/-- The days before a month are those before the month in front of it, and its days. -/
theorem daysBeforeMonth_succ {year month : Nat} (hlt : month < 12) :
    daysBeforeMonth year (month + 1) = daysBeforeMonth year month + daysInMonth year month := by
  have hall : ∀ leap : Bool, ∀ m < 12, sumOf ((monthLengths leap).take m) =
      sumOf ((monthLengths leap).take (m - 1)) + if m = 0 then 0 else
        (monthLengths leap).getD (m - 1) 0 := by
    decide
  exact hall (isLeapYear year) month hlt

/-- The last month ends with its year. -/
theorem yearLength_eq (year : Nat) :
    yearLength year = daysBeforeMonth year 12 + daysInMonth year 12 := by
  unfold yearLength daysBeforeMonth daysInMonth
  cases isLeapYear year <;> rfl

theorem daysInMonth_pos {year month : Nat} (hm : 1 ≤ month) (hle : month ≤ 12) :
    1 ≤ daysInMonth year month := by
  have hall : ∀ leap : Bool, ∀ m < 12, 1 ≤ (monthLengths leap).getD m 0 := by decide
  rw [daysInMonth_eq hm]
  exact hall _ _ (by omega)

theorem number_next {c : CivilDate} (h : c.Valid) : c.next.number = c.number + 1 := by
  obtain ⟨hy, -, hm, hml, hd, hdl⟩ := h
  unfold next
  by_cases hday : c.day < daysInMonth c.year c.month
  · rw [if_pos hday]
    show daysBeforeYear c.year + daysBeforeMonth c.year c.month + (c.day + 1 - 1) = _
    unfold number
    omega
  · rw [if_neg hday]
    by_cases hmonth : c.month < 12
    · rw [if_pos hmonth]
      show daysBeforeYear c.year + daysBeforeMonth c.year (c.month + 1) + (1 - 1) = _
      rw [daysBeforeMonth_succ hmonth]
      unfold number
      omega
    · rw [if_neg hmonth]
      have hlast : c.month = 12 := by omega
      have hlength := yearLength_eq c.year
      show daysBeforeYear (c.year + 1) + 0 + (1 - 1) = _
      rw [daysBeforeYear_succ hy]
      unfold number
      rw [hlast] at hday hdl ⊢
      omega

/-- The calendar has a date after every date but its last. -/
theorem next_valid {c : CivilDate} (h : c.Valid) (hlt : c.number + 1 < dayCount) : c.next.Valid := by
  have hnumber := number_next h
  obtain ⟨hy, hyl, hm, hml, hd, hdl⟩ := h
  unfold next at hnumber ⊢
  by_cases hday : c.day < daysInMonth c.year c.month
  · rw [if_pos hday]
    exact ⟨hy, hyl, hm, hml, Nat.le_add_left _ _, hday⟩
  · rw [if_neg hday] at hnumber ⊢
    by_cases hmonth : c.month < 12
    · rw [if_pos hmonth]
      exact ⟨hy, hyl, Nat.le_add_left _ _, hmonth, Nat.le_refl _,
        daysInMonth_pos (Nat.le_add_left _ _) hmonth⟩
    · rw [if_neg hmonth] at hnumber ⊢
      have hend : daysBeforeYear 10000 = dayCount := by decide
      have hyear : c.year + 1 < 10000 := by
        by_contra hge
        have hle := daysBeforeYear_le (a := 10000) (b := c.year + 1) (by decide) (by omega)
        have hfirst : daysBeforeYear (c.year + 1) + 0 + (1 - 1) = c.number + 1 := hnumber
        omega
      exact ⟨Nat.le_add_left _ _, Nat.le_of_lt_succ hyear, Nat.le_refl _, Nat.le_add_left 1 11,
        Nat.le_refl _, daysInMonth_pos (Nat.le_refl _) (Nat.le_add_left 1 11)⟩

end CivilDate

namespace Day

/-- Days with one date are one day. -/
theorem civil_inj {d e : Day} : d.civil = e.civil ↔ d.number = e.number := by
  constructor
  · intro h
    rw [← d.number_civil, ← e.number_civil, h]
  · intro h
    rw [← d.number_civil, ← e.number_civil] at h
    exact CivilDate.eq_of_number d.civil_valid e.civil_valid h

/-- The date after the date of a day is the date of the next day. -/
theorem next_civil {d e : Day} : d.civil.next = e.civil ↔ d.number + 1 = e.number := by
  have hnext := CivilDate.number_next d.civil_valid
  rw [d.number_civil] at hnext
  constructor
  · intro h
    rw [← hnext, h, e.number_civil]
  · intro h
    have hlt : d.civil.number + 1 < dayCount := by
      rw [d.number_civil, h]
      exact e.inRange
    refine CivilDate.eq_of_number (CivilDate.next_valid d.civil_valid hlt) e.civil_valid ?_
    rw [hnext, h, e.number_civil]

end Day

end ChargingReport
