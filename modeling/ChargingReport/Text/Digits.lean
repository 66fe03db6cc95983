/-!
# Decimal digits

Natural numbers and integers as text, and back.

* `natText` and `intText` write a number in base ten, without padding.
* `padded` writes a number with at least a given number of digits.
* `digitsValue` reads a list of digit values, the most significant first.

Only the ten ASCII digits count as digits.
-/

namespace ChargingReport

/-- The character of a digit value. Values above nine do not occur. -/
def digitChar (n : Nat) : Char := Char.ofNat ('0'.toNat + n)

/-- The digits of a number in base ten, the most significant first; zero is one digit. -/
def natDigits (n : Nat) : List Nat :=
  if n < 10 then [n] else natDigits (n / 10) ++ [n % 10]
termination_by n

/-- A natural number in base ten. -/
def natText (n : Nat) : List Char := (natDigits n).map digitChar

/-- An integer in base ten, with a minus sign when it is negative. -/
def intText (n : Int) : String :=
  match n with
  | .ofNat k => String.ofList (natText k)
  | .negSucc k => String.ofList ('-' :: natText (k + 1))

/-- A number with zeros in front until it has `width` digits. A longer number is not cut. -/
def padded (width n : Nat) : List Char :=
  let digits := natText n
  List.replicate (width - digits.length) '0' ++ digits

/-- The value of an ASCII digit. -/
def digitValue? (c : Char) : Option Nat :=
  if '0' ≤ c ∧ c ≤ '9' then some (c.toNat - '0'.toNat) else none

/-- Whether the character is an ASCII digit. -/
def isDigitChar (c : Char) : Bool := (digitValue? c).isSome

/-- The number that a list of digit values stands for. -/
def digitsValue (digits : List Nat) : Nat :=
  digits.foldl (fun value digit => value * 10 + digit) 0

/-- The number that a nonempty list of ASCII digits stands for. -/
def natOfChars? (cs : List Char) : Option Nat :=
  match cs with
  | [] => none
  | _ => (cs.mapM digitValue?).map digitsValue

end ChargingReport
