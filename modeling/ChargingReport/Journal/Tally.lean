import ChargingReport.Number.Arithmetic

/-!
# Tallies

A `Tally` counts how often each label came up. Labels that never came up count zero.
-/

namespace ChargingReport

/-- Counts by label, each label once. -/
abbrev Tally (κ : Type) := List (κ × Nat)

namespace Tally

variable {κ : Type} [DecidableEq κ]

/-- How often a label came up. -/
def count (tally : Tally κ) (label : κ) : Nat := (tally.lookup label).getD 0

/-- Counts a label `n` more times. -/
def add (tally : Tally κ) (label : κ) (n : Nat) : Tally κ :=
  match tally with
  | [] => [(label, n)]
  | (other, count) :: rest =>
    if other = label then (other, count + n) :: rest else (other, count) :: add rest label n

/-- All counts together. -/
def total (tally : Tally κ) : Nat := sumOf (tally.map Prod.snd)

theorem total_add (tally : Tally κ) (label : κ) (n : Nat) :
    (tally.add label n).total = tally.total + n := by
  induction tally with
  | nil => simp [add, total, sumOf]
  | cons entry rest ih =>
    obtain ⟨other, count⟩ := entry
    simp only [add]
    split
    · simp only [total, List.map_cons, sumOf]
      omega
    · simp only [total, List.map_cons, sumOf] at ih ⊢
      omega

end Tally

end ChargingReport
