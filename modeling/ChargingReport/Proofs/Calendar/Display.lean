import ChargingReport.Calendar.Display
import ChargingReport.Proofs.Except

/-!
# Displayed instants

An instant that is displayed has a text with characters, and only a missing instant is shown as the
empty text (`displayStamp_eq_empty`).
-/

namespace ChargingReport

/-- A reading in words always has the word between day and clock time. -/
theorem phrase_ne_empty (today : Day) (shown : WallClock) : phrase today shown ≠ "" := by
  intro h
  rw [phrase, String.ofList_eq_empty_iff, List.append_eq_nil_iff, List.append_eq_nil_iff] at h
  exact absurd h.1.2 (by decide)

theorem displayIn_ne_empty {zone : Zone} {now shown : Instant} {text : String}
    (h : displayIn? zone now shown = some text) : text ≠ "" := by
  unfold displayIn? at h
  simp only [Option.bind_eq_bind, Option.bind_eq_some_iff, Option.pure_def, Option.some.injEq] at h
  obtain ⟨shownLocal, -, nowLocal, -, rfl⟩ := h
  exact phrase_ne_empty _ _

/-- What is shown is the empty text just when there is nothing to show. -/
theorem displayStamp_eq_empty {key : String} {now : Stamp} {shown : Option Stamp} {text : String}
    (h : displayStamp key now shown = .ok text) : text = "" ↔ shown = none := by
  cases shown with
  | none =>
    cases h
    exact ⟨fun _ => rfl, fun _ => rfl⟩
  | some stamp =>
    refine ⟨fun hempty => ?_, nofun⟩
    unfold displayStamp at h
    simp only at h
    split at h
    · cases h
    · rename_i zone _
      split at h
      · rename_i found hfound
        cases h
        simp only [Option.bind_eq_bind, Option.bind_eq_some_iff] at hfound
        obtain ⟨reference, -, instant, -, hdisplay⟩ := hfound
        exact absurd hempty (displayIn_ne_empty hdisplay)
      · cases h

end ChargingReport
