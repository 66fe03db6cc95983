import ChargingReport.Number.Arithmetic

/-!
# Floating-point numbers of 64 bits

A number is kept exactly, as a sign, a whole significand and a power of two, so that rounding and
comparison are arithmetic on natural numbers.

* `Binary64.ofRatio` rounds a quotient to the nearest number; a tie goes to the even significand.
* `Binary64.ofDecimal` reads a decimal significand and exponent.
* `magnitude`, `floor?`, `isWhole` and `compareNat` look at the exact value.
-/

namespace ChargingReport

/-- A floating-point number. A finite one is `significand * 2 ^ exponent`, with
`significand < 2 ^ 53` and `-1074 ≤ exponent ≤ 971`. -/
inductive Binary64 where
  | finite (negative : Bool) (significand : Nat) (exponent : Int)
  | infinite (negative : Bool)
  | notANumber
deriving DecidableEq, Repr

namespace Binary64

/-- The quotient `num / den` as a quotient of `n * 2 ^ e`. -/
def scaledRatio (num den : Nat) (e : Int) : Nat × Nat :=
  match e with
  | .ofNat k => (num * powerOfTwo k, den)
  | .negSucc k => (num, den * powerOfTwo (k + 1))

/-- The nearest whole number to `num / den`; a half goes to the even neighbour. -/
def roundHalfEven (num den : Nat) : Nat :=
  let q := num / den
  let r := num % den
  if 2 * r < den then q
  else if den < 2 * r then q + 1
  else if q % 2 = 0 then q else q + 1

/-- The nearest whole number to `num / den`; a half goes away from zero. -/
def roundHalfUp (num den : Nat) : Nat := (2 * num + den) / (2 * den)

/-- The power of two that leaves 53 bits in front of the point, but not below the least one. -/
def ratioExponent (num den : Nat) : Int :=
  let guess : Int := (num.log2 : Int) - (den.log2 : Int) - 53
  let scaled := scaledRatio num den (-guess)
  let e := if scaled.1 / scaled.2 < powerOfTwo 53 then guess else guess + 1
  max e (-1074)

/-- The number nearest to `num / den`. -/
def ofRatio (negative : Bool) (num den : Nat) : Binary64 :=
  if num = 0 ∨ den = 0 then .finite negative 0 (-1074)
  else
    let e := ratioExponent num den
    let scaled := scaledRatio num den (-e)
    let m := roundHalfEven scaled.1 scaled.2
    if m = powerOfTwo 53 then
      if 971 ≤ e then .infinite negative else .finite negative (powerOfTwo 52) (e + 1)
    else if 971 < e then .infinite negative
    else .finite negative m e

/-- The number nearest to `significand * 10 ^ exponent`. An exponent far outside the range is
answered without computing the power. -/
def ofDecimal (negative : Bool) (significand : Nat) (exponent : Int) : Binary64 :=
  if significand = 0 then .finite negative 0 (-1074)
  else if 400 < exponent then .infinite negative
  else if exponent < -(400 + (significand.log2 : Int)) then .finite negative 0 (-1074)
  else match exponent with
    | .ofNat k => ofRatio negative (significand * powerOfTen k) 1
    | .negSucc k => ofRatio negative significand (powerOfTen (k + 1))

/-- The number nearest to an integer. -/
def ofInt (n : Int) : Binary64 := ofRatio (n < 0) n.natAbs 1

/-- The size of a finite number as a quotient of natural numbers. -/
def magnitude (significand : Nat) (exponent : Int) : Nat × Nat :=
  scaledRatio significand 1 exponent

theorem magnitude_den_pos (significand : Nat) (exponent : Int) :
    0 < (magnitude significand exponent).2 := by
  cases exponent with
  | ofNat k => exact Nat.one_pos
  | negSucc k => exact Nat.mul_pos Nat.one_pos (powerOfTwo_pos (k + 1))

/-- Whether the number is finite and has no fractional part. -/
def isWhole : Binary64 → Bool
  | .finite _ m e => (magnitude m e).1 % (magnitude m e).2 == 0
  | _ => false

/-- The greatest integer that is not above the number. -/
def floor? : Binary64 → Option Int
  | .finite negative m e =>
    let size := magnitude m e
    let signed : Int := if negative then -(size.1 : Int) else size.1
    some (Int.fdiv signed size.2)
  | _ => none

/-- Compares a number with a natural number. A NaN compares with nothing. -/
def compareNat (x : Binary64) (n : Nat) : Option Ordering :=
  match x with
  | .notANumber => none
  | .infinite true => some .lt
  | .infinite false => some .gt
  | .finite negative m e =>
    let size := magnitude m e
    if negative && m != 0 then some .lt
    else some (compare size.1 (n * size.2))

/-- Whether the number is at least zero. Negative zero is. -/
def isNonnegative (x : Binary64) : Bool :=
  match x.compareNat 0 with
  | some .lt => false
  | some _ => true
  | none => false

/-- Whether the number is at most one. -/
def isAtMostOne (x : Binary64) : Bool :=
  match x.compareNat 1 with
  | some .gt => false
  | some _ => true
  | none => false

end Binary64

end ChargingReport
