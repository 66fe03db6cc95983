import ChargingReport.Json
import ChargingReport.Text.Blank
import ChargingReport.Validation.Issue

/-!
# Integers from input

An integer comes as a number or as text. A number may be a floating-point number without fraction,
and a truth value counts as 0 or 1.

Text is an optional sign and digits, with white space around it. Single underscores may stand
between digits, and a point with zeros may follow. Zeros in front do not count towards the limit of
4300 digits, and between them underscores are free.
-/

namespace ChargingReport

/-- The most digits that an integer in text may have. -/
def integerDigitLimit : Nat := 4300

/-- Whether two underscores stand next to each other. -/
def hasDoubleUnderscore : List Char → Bool
  | '_' :: '_' :: _ => true
  | _ :: rest => hasDoubleUnderscore rest
  | [] => false

/-- The digits of an integer after its sign, without zeros in front and without underscores. -/
def integerDigits? (cs : List Char) : Option (List Char) :=
  let front := cs.takeWhile (· != '.')
  let back := cs.dropWhile (· != '.')
  let backFits := match back with
    | [] => true
    | _ :: zeros => !zeros.isEmpty && zeros.all (· == '0')
  let endsInDigit := match front.getLast? with
    | some c => isDigitChar c
    | none => false
  let startsInDigit := match front.head? with
    | some c => isDigitChar c
    | none => false
  let rest := if front.head? = some '0' then front.dropWhile (fun c => c == '0' || c == '_')
    else front
  if backFits && startsInDigit && endsInDigit && !hasDoubleUnderscore rest &&
      front.all (fun c => isDigitChar c || c == '_')
  then some (rest.filter isDigitChar)
  else none

/-- The sign of a number in text, and what follows it. -/
def splitSign (cs : List Char) : Bool × List Char :=
  match cs with
  | '+' :: rest => (false, rest)
  | '-' :: rest => (true, rest)
  | _ => (false, cs)

/-- An integer in text. -/
def readIntegerText (s : String) : Except Issue Int :=
  let (negative, rest) := splitSign (trimChars isWhiteSpace s.toList)
  match integerDigits? rest with
  | none => .error .integerText
  | some digits =>
    if integerDigitLimit < digits.length then .error .integerSize
    else
      let n : Int := (natOfChars? digits).getD 0
      .ok (if negative then -n else n)

/-- A floating-point number that stands for an integer of at most 64 bits. -/
def readIntegerFloat (x : Binary64) : Except Issue Int :=
  match x.floor? with
  | none => .error .notFinite
  | some n =>
    if !x.isWhole then .error .integerFraction
    else if -9223372036854775808 < n ∧ n < 9223372036854775808 then .ok n
    else .error .integerSize

/-- An integer from input. -/
def readInteger : Json → Except Issue Int
  | .int n => .ok n
  | .bool b => .ok (if b then 1 else 0)
  | .float x => readIntegerFloat x
  | .text s => readIntegerText s
  | _ => .error .integerType

end ChargingReport
