import ChargingReport.Validation.Integer

/-!
# Truth values, numbers, texts and paths from input

* A truth value also comes as 0 or 1, or as one of twelve words, in upper or lower case.
* A number also comes as text, with white space around it.
* A path is brought into a normal form: single slashes, no single dots, no slash at the end.
-/

namespace ChargingReport

/-! ## Truth values -/

/-- The words for true. -/
def trueWords : List String := ["1", "true", "yes", "t", "y", "on"]

/-- The words for false. -/
def falseWords : List String := ["0", "false", "no", "f", "n", "off"]

/-- A truth value in text. -/
def readBooleanText (s : String) : Except Issue Bool :=
  let word := s.map Char.toLower
  if trueWords.contains word then .ok true
  else if falseWords.contains word then .ok false
  else .error .booleanText

/-- A truth value as an integer. -/
def readBooleanInteger (n : Int) : Except Issue Bool :=
  if n = 1 then .ok true else if n = 0 then .ok false else .error .booleanText

/-- A truth value from input. -/
def readBoolean : Json → Except Issue Bool
  | .bool b => .ok b
  | .int n => readBooleanInteger n
  | .text s => readBooleanText s
  | .float x =>
    match readIntegerFloat x with
    | .ok n => readBooleanInteger n
    | .error _ => .error .booleanType
  | _ => .error .booleanType

/-! ## Numbers -/

/-- The digits at the front of a text, and the rest. -/
def spanDigits (cs : List Char) : List Char × List Char :=
  (cs.takeWhile isDigitChar, cs.dropWhile isDigitChar)

/-- An exponent with its mark and an optional sign. No text is the exponent 0. -/
def readExponent (cs : List Char) : Option Int :=
  match cs with
  | [] => some 0
  | mark :: rest =>
    if mark = 'e' ∨ mark = 'E' then
      let (negative, digits) := splitSign rest
      (natOfChars? digits).map fun n => if negative then -(n : Int) else n
    else none

/-- A decimal number without sign. -/
def readDecimal (negative : Bool) (cs : List Char) : Option Binary64 := do
  let (whole, rest) := spanDigits cs
  let (fraction, rest) := match rest with
    | '.' :: rest => spanDigits rest
    | _ => ([], rest)
  let significand ← natOfChars? (whole ++ fraction)
  let exponent ← readExponent rest
  return Binary64.ofDecimal negative significand (exponent - fraction.length)

/-- A number in text, where infinity and not-a-number have names. -/
def readNumberChars (cs : List Char) : Option Binary64 :=
  let (negative, rest) := splitSign cs
  let word := String.ofList (rest.map Char.toLower)
  if word = "inf" ∨ word = "infinity" then some (.infinite negative)
  else if word = "nan" then some .notANumber
  else readDecimal negative rest

/-- A text without single underscores inside it. -/
def withoutUnderscores? (cs : List Char) : Option (List Char) :=
  if cs.head? = some '_' ∨ cs.getLast? = some '_' ∨ hasDoubleUnderscore cs then none
  else some (cs.filter (· != '_'))

/-- A number in text. -/
def readNumberText (s : String) : Except Issue Binary64 :=
  let cs := trimChars isWhiteSpace s.toList
  match (withoutUnderscores? cs).bind readNumberChars with
  | some x => .ok x
  | none => .error .numberText

/-- A number from input. -/
def readNumber : Json → Except Issue Binary64
  | .float x => .ok x
  | .int n => .ok (Binary64.ofInt n)
  | .bool b => .ok (Binary64.ofInt (if b then 1 else 0))
  | .text s => readNumberText s
  | _ => .error .numberType

/-! ## Texts and paths -/

/-- A text from input. -/
def readText : Json → Except Issue String
  | .text s => .ok s
  | _ => .error .textType

/-- A text from input, or none. -/
def readOptionalText : Json → Except Issue (Option String)
  | .null => .ok none
  | v => (readText v).map some

/-- The slashes in front of a path: none, one, or exactly two, which are kept. -/
def pathRoot (cs : List Char) : List Char :=
  match cs with
  | '/' :: '/' :: '/' :: _ => ['/']
  | '/' :: '/' :: _ => ['/', '/']
  | '/' :: _ => ['/']
  | _ => []

/-- The segments of a path, split at slashes. Empty segments and single dots are left out. -/
def pathSegments : List Char → List Char → List (List Char)
  | [], segment => if segment.isEmpty || segment == ['.'] then [] else [segment]
  | c :: rest, segment =>
    if c = '/' then
      (if segment.isEmpty || segment == ['.'] then [] else [segment]) ++ pathSegments rest []
    else pathSegments rest (segment ++ [c])

/-- A path in normal form. The empty path is a single dot. -/
def normalPath (s : String) : String :=
  let root := pathRoot s.toList
  let body := List.intercalate ['/'] (pathSegments s.toList [])
  if root.isEmpty && body.isEmpty then "." else String.ofList (root ++ body)

/-- A path from input, or none. -/
def readOptionalPath : Json → Except Issue (Option String)
  | .null => .ok none
  | .text s => .ok (some (normalPath s))
  | _ => .error .pathType

end ChargingReport
