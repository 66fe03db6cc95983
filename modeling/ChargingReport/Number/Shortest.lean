import ChargingReport.Number.Binary64
import ChargingReport.Text.Digits

/-!
# The shortest text of a floating-point number

`shortestDigits` finds the fewest decimal digits that read back as the number, and of those the
digits nearest to it. It looks at the two neighbours of the number on the grid with one digit, then
on the grid with two, and so on. Seventeen digits always suffice.

`Binary64.text` writes the digits: positional notation for exponents from -4 to 15, scientific
notation outside, and always at least one digit behind the point in positional notation.
-/

namespace ChargingReport

namespace Binary64

/-- The number of decimal digits of a natural number. -/
def digitCount (n : Nat) : Nat := (natDigits n).length

/-- The least power of ten, counted from `tried`, that lifts `num / den` to at least one. -/
def liftExponent (num den : Nat) : Nat → Nat → Nat
  | 0, tried => tried
  | fuel + 1, tried =>
    if den ≤ num * powerOfTen tried then tried else liftExponent num den fuel (tried + 1)

/-- The exponent of the leading decimal digit of `num / den`. No finite number is below
`10 ^ -324`, so 330 steps are enough. -/
def decimalExponent (num den : Nat) : Int :=
  if den ≤ num then (digitCount (num / den) : Int) - 1
  else -(liftExponent num den 330 1 : Int)

/-- `num / den` as a multiple of `10 ^ grid`, rounded down, with the rest. -/
def onGrid (num den : Nat) (grid : Int) : Nat × Nat :=
  match grid with
  | .ofNat k => (num, den * powerOfTen k)
  | .negSucc k => (num * powerOfTen (k + 1), den)

/-- The quarter steps around `m * 2 ^ e` that still round to it: the lower end, the upper end, and
whether the ends belong to it. -/
def roundingInterval (m : Nat) (e : Int) : Nat × Nat × Bool :=
  let low := if m = powerOfTwo 52 ∧ -1074 < e then 4 * m - 1 else 4 * m - 2
  (low, 4 * m + 2, m % 2 == 0)

/-- Whether `c * 10 ^ grid` rounds to `m * 2 ^ e`. -/
def readsBack (m : Nat) (e : Int) (grid : Int) (c : Nat) : Bool :=
  let (low, high, closed) := roundingInterval m e
  let quarter := magnitude 1 e
  -- `c * 10 ^ grid` against `low * 2 ^ e / 4` and `high * 2 ^ e / 4`
  let (left, right) := match grid with
    | .ofNat k => (4 * c * powerOfTen k * quarter.2, quarter.1)
    | .negSucc k => (4 * c * quarter.2, quarter.1 * powerOfTen (k + 1))
  if closed then low * right ≤ left && left ≤ high * right
  else low * right < left && left < high * right

/-- The decimal on the grid that reads back, if one of the two neighbours does. Of two, the nearer
wins, and of two equally near ones the even one. -/
def neighbour? (m : Nat) (e : Int) (grid : Int) : Option Nat :=
  let size := magnitude m e
  let scaled := onGrid size.1 size.2 grid
  let below := scaled.1 / scaled.2
  let rest := scaled.1 % scaled.2
  let lower := readsBack m e grid below && below != 0
  let upper := readsBack m e grid (below + 1)
  match lower, upper with
  | false, false => none
  | true, false => some below
  | false, true => some (below + 1)
  | true, true =>
    if 2 * rest < scaled.2 then some below
    else if scaled.2 < 2 * rest then some (below + 1)
    else if below % 2 = 0 then some below else some (below + 1)

/-- The first grid, from `count` digits on, with a decimal that reads back. The answer is the
decimal and the exponent of its last digit. -/
def shortestFrom (m : Nat) (e : Int) (top : Int) : Nat → Nat → Nat × Int
  | 0, count => (0, top - count)
  | fuel + 1, count =>
    let grid := top - (count : Int) + 1
    match neighbour? m e grid with
    | some c => (c, grid)
    | none => shortestFrom m e top fuel (count + 1)

/-- Drops zeros at the end of a list of digits. -/
def dropTrailingZeros (digits : List Nat) : List Nat :=
  (digits.reverse.dropWhile (· == 0)).reverse

/-- The shortest digits of a positive number and the exponent of the first of them. -/
def shortestDigits (m : Nat) (e : Int) : List Nat × Int :=
  let size := magnitude m e
  let (c, grid) := shortestFrom m e (decimalExponent size.1 size.2) 17 1
  let digits := natDigits c
  (dropTrailingZeros digits, grid + (digits.length : Int) - 1)

/-- Digits with a point behind the first one, and the exponent with a sign and at least two digits. -/
def scientific (digits : List Nat) (exponent : Int) : List Char :=
  let front := digits.take 1
  let back := digits.drop 1
  let tail := if back.isEmpty then [] else '.' :: back.map digitChar
  let sign := if exponent < 0 then '-' else '+'
  front.map digitChar ++ tail ++ 'e' :: sign :: padded 2 exponent.natAbs

/-- Digits written out, with at least one digit on both sides of the point. -/
def positional (digits : List Nat) (exponent : Int) : List Char :=
  match exponent with
  | .ofNat k =>
    let whole := digits.take (k + 1)
    let back := digits.drop (k + 1)
    whole.map digitChar ++ List.replicate (k + 1 - whole.length) '0' ++
      '.' :: (if back.isEmpty then ['0'] else back.map digitChar)
  | .negSucc k => '0' :: '.' :: List.replicate k '0' ++ digits.map digitChar

/-- The shortest text that reads back as the number. -/
def text (x : Binary64) : String :=
  match x with
  | .notANumber => "nan"
  | .infinite negative => if negative then "-inf" else "inf"
  | .finite negative m e =>
    let sign := if negative then ['-'] else []
    let body :=
      if m = 0 then ['0', '.', '0']
      else
        let (digits, exponent) := shortestDigits m e
        if -4 ≤ exponent ∧ exponent < 16 then positional digits exponent
        else scientific digits exponent
    String.ofList (sign ++ body)

end Binary64

end ChargingReport
