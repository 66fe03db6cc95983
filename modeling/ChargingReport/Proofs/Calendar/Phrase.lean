import ChargingReport.Calendar.Display
import ChargingReport.Proofs.Calendar.Civil
import ChargingReport.Proofs.Text.Digits

/-!
# What a displayed instant tells

A displayed instant is a day in words, or a date, and a clock time.  This module says how much of the
instant can be read off it: the minute of the local clock, and nothing below it.

There are four groups.

* Parts of a text.  A text can be cut at the first separator in only one way (`eq_of_append_sep`), so
  numbers between separators are told apart, padded or not (`displayText_inj`, `clockText_inj`).
* Days.  `dayPhrase_inj` tells days apart across the three words and the dates.  A date has a hyphen,
  and a word has none.
* Clock times.  `WallClock.SameMinute` says that two readings show the same date, hour and minute.
* The whole text.  `phrase_inj` puts day and clock time together, and `Describes` says what a text
  tells of a reading.

`display_tells_minute` is the result, for any zone and for the neighbours of a day as a calendar has
them.
-/

namespace ChargingReport

/-! ## Parts of a text -/

/-- What stands before the first separator, and what stands behind it. -/
theorem eq_of_append_sep {α : Type} {sep : α} {x y p q : List α} (hx : sep ∉ x) (hy : sep ∉ y)
    (h : x ++ sep :: p = y ++ sep :: q) : x = y ∧ p = q := by
  induction x generalizing y with
  | nil =>
    cases y with
    | nil => exact ⟨rfl, (List.cons.inj h).2⟩
    | cons c y => exact absurd ((List.cons.inj h).1 ▸ List.mem_cons_self) hy
  | cons c x ih =>
    cases y with
    | nil => exact absurd ((List.cons.inj h).1 ▸ List.mem_cons_self) hx
    | cons e y =>
      obtain ⟨rfl, htail⟩ := List.cons.inj h
      obtain ⟨rfl, hrest⟩ := ih (mt (List.mem_cons_of_mem _) hx) (mt (List.mem_cons_of_mem _) hy) htail
      exact ⟨rfl, hrest⟩

theorem natText_inj {m n : Nat} (h : natText m = natText n) : m = n := by
  have hread := natOfChars_natText m
  rw [h, natOfChars_natText] at hread
  exact (Option.some.inj hread).symm

theorem padded_inj {width m n : Nat} (h : padded width m = padded width n) : m = n := by
  have hread := natOfChars_padded width m
  rw [h, natOfChars_padded] at hread
  exact (Option.some.inj hread).symm

/-- A character that is no digit is not in a padded number. -/
theorem notMem_padded {c : Char} (hc : isDigitChar c = false) (width n : Nat) :
    c ∉ padded width n := by
  intro hmem
  rw [isDigitChar_padded width n c hmem] at hc
  cases hc

theorem notMem_natText {c : Char} (hc : isDigitChar c = false) (n : Nat) : c ∉ natText n := by
  have hpadded := notMem_padded hc 0 n
  rwa [padded, Nat.zero_sub] at hpadded

/-! ## Days -/

namespace CivilDate

theorem displayText_eq (c : CivilDate) : c.displayText =
    natText c.year ++ '-' :: (padded 2 c.month ++ '-' :: padded 2 c.day) := by
  rw [displayText, List.append_assoc, List.cons_append]

/-- A date can be read off its text, with and without padding. -/
theorem displayText_inj {c e : CivilDate} (h : c.displayText = e.displayText) : c = e := by
  have hhyphen : isDigitChar '-' = false := by decide
  rw [displayText_eq, displayText_eq] at h
  obtain ⟨hyear, hrest⟩ := eq_of_append_sep (notMem_natText hhyphen _) (notMem_natText hhyphen _) h
  obtain ⟨hmonth, hday⟩ :=
    eq_of_append_sep (notMem_padded hhyphen _ _) (notMem_padded hhyphen _ _) hrest
  obtain ⟨year, month, day⟩ := c
  obtain ⟨year', month', day'⟩ := e
  rw [CivilDate.mk.injEq]
  exact ⟨natText_inj hyear, padded_inj hmonth, padded_inj hday⟩

theorem hyphen_mem_displayText (c : CivilDate) : '-' ∈ c.displayText :=
  List.mem_append_right _ List.mem_cons_self

theorem blank_notMem_displayText (c : CivilDate) : ' ' ∉ c.displayText := by
  have hblank : isDigitChar ' ' = false := by decide
  simp [displayText, notMem_natText hblank, notMem_padded hblank]

end CivilDate

section Days

variable (today day : Day)

/-- The day is today, a neighbour of today, or neither.  In each case it has its own words. -/
theorem dayPhrase_cases :
    day.number = today.number ∧ dayPhrase today day = "Today".toList ∨
    day.number + 1 = today.number ∧ dayPhrase today day = "Yesterday".toList ∨
    day.number = today.number + 1 ∧ dayPhrase today day = "Tomorrow".toList ∨
    (day.number ≠ today.number ∧ day.number + 1 ≠ today.number ∧
      day.number ≠ today.number + 1) ∧ dayPhrase today day = day.civil.displayText := by
  unfold dayPhrase
  by_cases htoday : day.number = today.number
  · rw [if_pos htoday]
    exact Or.inl ⟨htoday, rfl⟩
  · rw [if_neg htoday]
    by_cases hyesterday : day.number + 1 = today.number
    · rw [if_pos hyesterday]
      exact Or.inr (Or.inl ⟨hyesterday, rfl⟩)
    · rw [if_neg hyesterday]
      by_cases htomorrow : day.number = today.number + 1
      · rw [if_pos htomorrow]
        exact Or.inr (Or.inr (Or.inl ⟨htomorrow, rfl⟩))
      · rw [if_neg htomorrow]
        exact Or.inr (Or.inr (Or.inr ⟨⟨htoday, hyesterday, htomorrow⟩, rfl⟩))

/-- A word without a hyphen is not a date. -/
theorem displayText_ne {word : List Char} (hword : '-' ∉ word) (c : CivilDate) :
    c.displayText ≠ word :=
  fun h => hword (h ▸ c.hyphen_mem_displayText)

/-- Each word is said of one day. -/
theorem dayPhrase_words :
    (dayPhrase today day = "Today".toList ↔ day.number = today.number) ∧
    (dayPhrase today day = "Yesterday".toList ↔ day.number + 1 = today.number) ∧
    (dayPhrase today day = "Tomorrow".toList ↔ day.number = today.number + 1) := by
  rcases dayPhrase_cases today day with ⟨h, hp⟩ | ⟨h, hp⟩ | ⟨h, hp⟩ | ⟨⟨h, h', h''⟩, hp⟩ <;> rw [hp]
  · exact ⟨iff_of_true rfl h, iff_of_false (by decide) (by omega),
      iff_of_false (by decide) (by omega)⟩
  · exact ⟨iff_of_false (by decide) (by omega), iff_of_true rfl h,
      iff_of_false (by decide) (by omega)⟩
  · exact ⟨iff_of_false (by decide) (by omega), iff_of_false (by decide) (by omega),
      iff_of_true rfl h⟩
  · exact ⟨iff_of_false (displayText_ne (by decide) _) h,
      iff_of_false (displayText_ne (by decide) _) h',
      iff_of_false (displayText_ne (by decide) _) h''⟩

theorem blank_notMem_dayPhrase : ' ' ∉ dayPhrase today day := by
  rcases dayPhrase_cases today day with ⟨-, hp⟩ | ⟨-, hp⟩ | ⟨-, hp⟩ | ⟨-, hp⟩ <;> rw [hp]
  · decide
  · decide
  · decide
  · exact day.civil.blank_notMem_displayText

variable {today day}

/-- Different days are never said in the same words. -/
theorem dayPhrase_inj {other : Day} (h : dayPhrase today day = dayPhrase today other) :
    day.number = other.number := by
  obtain ⟨htoday, hyesterday, htomorrow⟩ := dayPhrase_words today other
  rcases dayPhrase_cases today day with ⟨hd, hp⟩ | ⟨hd, hp⟩ | ⟨hd, hp⟩ | ⟨hd, hp⟩ <;> rw [hp] at h
  · have := htoday.1 h.symm
    omega
  · have := hyesterday.1 h.symm
    omega
  · have := htomorrow.1 h.symm
    omega
  · rcases dayPhrase_cases today other with ⟨-, hq⟩ | ⟨-, hq⟩ | ⟨-, hq⟩ | ⟨-, hq⟩ <;> rw [hq] at h
    · exact absurd h (displayText_ne (by decide) _)
    · exact absurd h (displayText_ne (by decide) _)
    · exact absurd h (displayText_ne (by decide) _)
    · exact Day.civil_inj.1 (CivilDate.displayText_inj h)

end Days

/-! ## Clock times -/

namespace WallClock

theorem hour_lt (a : WallClock) : a.hour < 24 := by
  unfold hour timeOfDay microsPerDay
  omega

theorem minute_lt (a : WallClock) : a.minute < 60 := Nat.mod_lt _ (by decide)

theorem clockText_inj {a b : WallClock} (h : a.clockText = b.clockText) :
    a.hour = b.hour ∧ a.minute = b.minute := by
  have hcolon : isDigitChar ':' = false := by decide
  obtain ⟨hhour, hminute⟩ :=
    eq_of_append_sep (notMem_padded hcolon _ _) (notMem_padded hcolon _ _) h
  exact ⟨padded_inj hhour, padded_inj hminute⟩

/-- Two readings show the same date, hour and minute. -/
structure SameMinute (a b : WallClock) : Prop where
  year : a.day.civil.year = b.day.civil.year
  month : a.day.civil.month = b.day.civil.month
  day : a.day.civil.day = b.day.civil.day
  hour : a.hour = b.hour
  minute : a.minute = b.minute

theorem SameMinute.day_number {a b : WallClock} (h : a.SameMinute b) :
    a.day.number = b.day.number := by
  refine Day.civil_inj.1 ?_
  rw [CivilDate.mk.injEq]
  exact ⟨h.year, h.month, h.day⟩

end WallClock

/-! ## The whole text -/

/-- The text says a word for the day. -/
def SaysDay (word text : String) : Prop := ∃ time : String, text = word ++ " at " ++ time

/-- The text describes a reading, seen from today: it says `Today`, `Yesterday` or `Tomorrow` of
the day with that date, and it ends with the clock time. -/
structure Describes (today : Day) (a : WallClock) (text : String) : Prop where
  says_today : SaysDay "Today" text ↔ a.day.civil = today.civil
  says_yesterday : SaysDay "Yesterday" text ↔ a.day.civil.next = today.civil
  says_tomorrow : SaysDay "Tomorrow" text ↔ today.civil.next = a.day.civil
  clock : ∃ day : String,
    text = day ++ " at " ++ String.ofList (padded 2 a.hour ++ ':' :: padded 2 a.minute)
  hour_lt : a.hour < 24
  minute_lt : a.minute < 60

section Phrase

variable {today : Day} {a b : WallClock}

theorem phrase_toList : (phrase today a).toList =
    dayPhrase today a.day ++ ' ' :: ("at ".toList ++ a.clockText) := by
  rw [phrase, String.toList_ofList, List.append_assoc]
  rfl

theorem phrase_inj : phrase today a = phrase today b ↔ a.SameMinute b := by
  constructor
  · intro h
    have hchars := congrArg String.toList h
    rw [phrase_toList, phrase_toList] at hchars
    obtain ⟨hday, htime⟩ := eq_of_append_sep (blank_notMem_dayPhrase _ _)
      (blank_notMem_dayPhrase _ _) hchars
    obtain ⟨hhour, hminute⟩ := WallClock.clockText_inj (List.append_cancel_left htime)
    have hcivil := Day.civil_inj.2 (dayPhrase_inj hday)
    exact ⟨by rw [hcivil], by rw [hcivil], by rw [hcivil], hhour, hminute⟩
  · intro h
    have hday : dayPhrase today a.day = dayPhrase today b.day := by
      rw [dayPhrase, dayPhrase, h.day_number, Day.civil_inj.2 h.day_number]
    have htime : a.clockText = b.clockText := by
      rw [WallClock.clockText, WallClock.clockText, h.hour, h.minute]
    rw [phrase, phrase, hday, htime]

theorem saysDay_phrase {word : String} (hblank : ' ' ∉ word.toList) :
    SaysDay word (phrase today a) ↔ dayPhrase today a.day = word.toList := by
  constructor
  · rintro ⟨time, h⟩
    have hchars := congrArg String.toList h
    rw [phrase_toList, String.toList_append, String.toList_append, List.append_assoc] at hchars
    exact (eq_of_append_sep (blank_notMem_dayPhrase _ _) hblank hchars).1
  · intro h
    refine ⟨String.ofList a.clockText, ?_⟩
    rw [phrase, h, String.ofList_append, String.ofList_append, String.ofList_toList]
    rfl

theorem describes_phrase : Describes today a (phrase today a) := by
  obtain ⟨htoday, hyesterday, htomorrow⟩ := dayPhrase_words today a.day
  constructor
  · rw [saysDay_phrase (by decide), htoday, Day.civil_inj]
  · rw [saysDay_phrase (by decide), hyesterday, Day.next_civil]
  · rw [saysDay_phrase (by decide), htomorrow, Day.next_civil, eq_comm]
  · refine ⟨String.ofList (dayPhrase today a.day), ?_⟩
    rw [phrase, String.ofList_append, String.ofList_append]
    rfl
  · exact a.hour_lt
  · exact a.minute_lt

end Phrase

/-! ## Instants in a zone -/

section Zones

variable {zone : Zone} {now v w : Instant} {today a b : WallClock}

theorem displayIn_eq (hnow : zone.local? now = some today) (hv : zone.local? v = some a) :
    displayIn? zone now v = some (phrase today.day a) := by
  rw [displayIn?, hv, hnow]
  rfl

theorem displayStamp_eq {key : String} {reference stamp : Stamp} {text : String}
    (hkey : Zone.ofKey key = .ok zone) (hnow : reference.instant? = some now)
    (hv : stamp.instant? = some v) (htext : displayIn? zone now v = some text) :
    displayStamp key reference (some stamp) = .ok text := by
  simp only [displayStamp, hkey, hnow, hv, Option.bind_eq_bind, Option.bind_some, htext]

/-- A displayed instant tells the local minute.  Two instants are displayed by the same text just
when the local clock shows the same date, hour and minute at both, and each text describes what the
clock shows.  This holds for any zone, and what is displayed of a stamp in a zone of the table is
this text. -/
theorem display_tells_minute (hnow : zone.local? now = some today) (hv : zone.local? v = some a)
    (hw : zone.local? w = some b) :
    ∃ s t, displayIn? zone now v = some s ∧ displayIn? zone now w = some t ∧
      (s = t ↔ a.SameMinute b) ∧ Describes today.day a s ∧ Describes today.day b t ∧
      ∀ key reference stamp, Zone.ofKey key = .ok zone → reference.instant? = some now →
        stamp.instant? = some v → displayStamp key reference (some stamp) = .ok s :=
  ⟨phrase today.day a, phrase today.day b, displayIn_eq hnow hv, displayIn_eq hnow hw, phrase_inj,
    describes_phrase, describes_phrase,
    fun _ _ _ hkey hreference hstamp => displayStamp_eq hkey hreference hstamp (displayIn_eq hnow hv)⟩

end Zones

/-- A reading at a day number and a number of minutes and seconds. -/
def readingAt (day minutes seconds : Nat)
    (h : (day * 86400 + minutes * 60 + seconds) * microsPerSecond < dayCount * microsPerDay) :
    WallClock :=
  ⟨(day * 86400 + minutes * 60 + seconds) * microsPerSecond, h⟩

/-- Two instants in the last minute of a 29th of February in Tokyo, seen from the 1st of March. -/
theorem display_tells_minute_tokyo :
    ∃ s t, displayIn? (Zone.fixed 32400) ⟨readingAt 738944 930 0 (by decide)⟩
        ⟨readingAt 738944 899 0 (by decide)⟩ = some s ∧
      displayIn? (Zone.fixed 32400) ⟨readingAt 738944 930 0 (by decide)⟩
        ⟨readingAt 738944 899 59 (by decide)⟩ = some t ∧ s = t ∧ SaysDay "Yesterday" s := by
  have hnow : (Zone.fixed 32400).local? ⟨readingAt 738944 930 0 (by decide)⟩ =
      some (readingAt 738945 30 0 (by decide)) := by
    decide
  have hv : (Zone.fixed 32400).local? ⟨readingAt 738944 899 0 (by decide)⟩ =
      some (readingAt 738944 1439 0 (by decide)) := by
    decide
  have hw : (Zone.fixed 32400).local? ⟨readingAt 738944 899 59 (by decide)⟩ =
      some (readingAt 738944 1439 59 (by decide)) := by
    decide
  obtain ⟨s, t, hs, ht, hsame, hdescribes, -⟩ := display_tells_minute hnow hv hw
  refine ⟨s, t, hs, ht, hsame.2 ⟨?_, ?_, ?_, ?_, ?_⟩, hdescribes.says_yesterday.2 ?_⟩
  all_goals decide

end ChargingReport
