/-!
# Powers and sums

Powers of two and ten and sums of lists, on natural numbers.
-/

namespace ChargingReport

/-- Two to a power. -/
def powerOfTwo (k : Nat) : Nat := Nat.pow 2 k

/-- Ten to a power. -/
def powerOfTen (k : Nat) : Nat := Nat.pow 10 k

theorem powerOfTwo_pos (k : Nat) : 0 < powerOfTwo k := Nat.pow_pos (by decide)

theorem powerOfTen_pos (k : Nat) : 0 < powerOfTen k := Nat.pow_pos (by decide)

/-- The sum of a list. -/
def sumOf : List Nat → Nat
  | [] => 0
  | n :: rest => n + sumOf rest

end ChargingReport
