import ChargingReport.Text.Digits

/-!
# Why a value is rejected

An `Issue` is the cause for which a value is rejected. Its `code` names the cause for programs, its
`message` says it in words, and its `context` is the part of the message that answers to requests
give separately.
-/

namespace ChargingReport

/-- Why a text is no date, or a number no point in time. -/
inductive MomentFault where
  | tooShort
  | yearCharacter
  | separator
  | monthCharacter
  | dayCharacter
  | monthRange
  | dayRange
  | trailing
  /-- The number of seconds lies behind the year 9999. -/
  | afterRange
  /-- The number of seconds lies before the year 0. -/
  | beforeRange
  /-- The calendar has no year 0. -/
  | yearZero
  | notANumber
deriving DecidableEq, Repr

/-- The fault in words. -/
def MomentFault.message : MomentFault → String
  | .tooShort => "input is too short"
  | .yearCharacter => "invalid character in year"
  | .separator => "invalid date separator, expected `-`"
  | .monthCharacter => "invalid character in month"
  | .dayCharacter => "invalid character in day"
  | .monthRange => "month value is outside expected range of 1-12"
  | .dayRange => "day value is outside expected range"
  | .trailing => "unexpected extra characters at the end of the input"
  | .afterRange => "dates after 9999 are not supported as unix timestamps"
  | .beforeRange => "dates before 0000 are not supported as unix timestamps"
  | .yearZero => "year 0 is out of range"
  | .notANumber => "NaN values not permitted"

/-- Why a value is rejected. -/
inductive Issue where
  | integerType
  | integerText
  | integerSize
  | integerFraction
  | notFinite
  | textType
  | textLength (limit : Nat)
  /-- The value is none of the names listed. -/
  | choice (names : String)
  | momentType
  /-- The value was read as a point in time. -/
  | moment (fault : MomentFault)
  /-- The value was read as a date. -/
  | date (fault : MomentFault)
  | rangeIncomplete
  | rangeReversed
  | booleanType
  | booleanText
  | numberType
  | numberText
  | aboveMaximum (limit : Nat)
  | belowMinimum (limit : Nat)
  | notAbove (limit : Nat)
  | pathType
  | unexpected
deriving DecidableEq, Repr

namespace Issue

/-- The name of the cause. -/
def code : Issue → String
  | .integerType => "int_type"
  | .integerText => "int_parsing"
  | .integerSize => "int_parsing_size"
  | .integerFraction => "int_from_float"
  | .notFinite => "finite_number"
  | .textType => "string_type"
  | .textLength _ => "string_too_long"
  | .choice _ => "enum"
  | .momentType => "datetime_type"
  | .moment _ => "datetime_parsing"
  | .date _ => "datetime_from_date_parsing"
  | .rangeIncomplete => "value_error"
  | .rangeReversed => "value_error"
  | .booleanType => "bool_type"
  | .booleanText => "bool_parsing"
  | .numberType => "float_type"
  | .numberText => "float_parsing"
  | .aboveMaximum _ => "less_than_equal"
  | .belowMinimum _ => "greater_than_equal"
  | .notAbove _ => "greater_than"
  | .pathType => "path_type"
  | .unexpected => "extra_forbidden"

/-- A natural number in a message. -/
private def limitText (n : Nat) : String := String.ofList (natText n)

/-- The cause in words. -/
def message : Issue → String
  | .integerType => "Input should be a valid integer"
  | .integerText => "Input should be a valid integer, unable to parse string as an integer"
  | .integerSize => "Unable to parse input string as an integer, exceeded maximum size"
  | .integerFraction =>
    "Input should be a valid integer, got a number with a fractional part"
  | .notFinite => "Input should be a finite number"
  | .textType => "Input should be a valid string"
  | .textLength limit => "String should have at most " ++ limitText limit ++ " characters"
  | .choice names => "Input should be " ++ names
  | .momentType => "Input should be a valid datetime"
  | .moment fault => "Input should be a valid datetime, " ++ fault.message
  | .date fault => "Input should be a valid datetime or date, " ++ fault.message
  | .rangeIncomplete =>
    "Value error, Both 'from' and 'to' are required for the FROM_TO period"
  | .rangeReversed => "Value error, 'from' must not be after 'to'"
  | .booleanType => "Input should be a valid boolean"
  | .booleanText => "Input should be a valid boolean, unable to interpret input"
  | .numberType => "Input should be a valid number"
  | .numberText => "Input should be a valid number, unable to parse string as a number"
  | .aboveMaximum limit => "Input should be less than or equal to " ++ limitText limit
  | .belowMinimum limit => "Input should be greater than or equal to " ++ limitText limit
  | .notAbove limit => "Input should be greater than " ++ limitText limit
  | .pathType => "Input is not a valid path for <class 'pathlib.Path'>"
  | .unexpected => "Extra inputs are not permitted"

/-- The part of the message that is given separately, with its name. -/
def context : Issue → Option (String × String)
  | .choice names => some ("expected", names)
  | .moment fault => some ("error", fault.message)
  | .date fault => some ("error", fault.message)
  | _ => none

end Issue

/-- A rejected value: where it stands, and why it is rejected. No place is the whole form. -/
structure FieldIssue where
  place : Option String
  cause : Issue
deriving DecidableEq, Repr

end ChargingReport
