import ChargingReport.Calendar.Display
import ChargingReport.Form.Check
import ChargingReport.Store.Write

/-!
# Failures

A `Failure` is the cause for which a report or a write does not come about. It has a kind, a message,
and a description under which spans record it.
-/

namespace ChargingReport

/-- Why a report or a write does not come about. -/
inductive Failure where
  | calendar (cause : CalendarError)
  | zone (cause : ZoneError)
  | write (cause : WriteError)
  /-- The fields of a form are not valid. -/
  | invalid (issues : List FieldIssue)
  /-- The period of a form is no period. -/
  | unknownPeriod (shown : String)
  /-- A value is the name of no period. -/
  | notAPeriod (shown : String)
  /-- A value of this kind stands where a named choice is needed. -/
  | notAChoice (kindName : String)
  /-- A value of this kind stands where a period is needed that looks back some days. -/
  | noInterval (kindName : String)
  /-- There is no transaction with the key. -/
  | notFound (shown : String)
  /-- More than one row matches where one was asked for. -/
  | multipleRows
  /-- The number of rows that are asked for does not fit into 32 bits. -/
  | batchTooLarge
  /-- The number of rows per batch does not fit into 64 bits. -/
  | batchUnbounded
  /-- The database does not answer. -/
  | unavailable
  /-- The consumer of a stream went away. -/
  | abandoned
  /-- A failure that the caller brought about. -/
  | raised (message : String)
deriving DecidableEq, Repr

namespace ZoneError

/-- The kind of the error. -/
def kind : ZoneError → String
  | .unknown _ => "ZoneInfoNotFoundError"
  | _ => "ValueError"

/-- The message as a description quotes it. A missing key is shown in quotes. -/
def description : ZoneError → String
  | .unknown key => quoted (ZoneError.unknown key).message
  | e => e.message

end ZoneError

namespace Failure

/-- The failure that an error of the display is. -/
def ofDisplay : DisplayError → Failure
  | .zone cause => .zone cause
  | .calendar cause => .calendar cause

/-- The failure that an error of a form is. -/
def ofForm : FormError → Failure
  | .invalid issues => .invalid issues
  | .calendar cause => .calendar cause

/-- The kind of the failure. -/
def kind : Failure → String
  | .calendar _ => "OverflowError"
  | .zone cause => cause.kind
  | .write cause => cause.kind
  | .invalid _ => "ValidationError"
  | .unknownPeriod _ => "UnknownPeriodTypeError"
  | .notAPeriod _ => "ValueError"
  | .notAChoice _ => "AttributeError"
  | .noInterval _ => "AttributeError"
  | .notFound _ => "TransactionNotFoundError"
  | .multipleRows => "MultipleResultsFound"
  | .batchTooLarge => "OverflowError"
  | .batchUnbounded => "ValueError"
  | .unavailable => "OperationalError"
  | .abandoned => "GeneratorExit"
  | .raised _ => "ValueError"

/-- The message of the failure. A form that is not valid is told by its issues instead. -/
def message : Failure → String
  | .calendar cause => cause.message
  | .zone cause => cause.message
  | .write cause => cause.message
  | .invalid _ => ""
  | .unknownPeriod shown => "Unknown period type '" ++ shown ++ "'"
  | .notAPeriod shown => shown ++ " is not a valid QueryPeriodType"
  | .notAChoice kindName => quoted kindName ++ " object has no attribute 'value'"
  | .noInterval kindName => quoted kindName ++ " object has no attribute 'interval_days'"
  | .notFound shown => "There is no transaction with id '" ++ shown ++ "'"
  | .multipleRows => "Multiple rows were found when one or none was required"
  | .batchTooLarge => "Python int too large to convert to C int"
  | .batchUnbounded =>
    "Stop argument for islice() must be None or an integer: 0 <= x <= sys.maxsize."
  | .unavailable =>
    "(sqlite3.OperationalError) unable to open database file\n" ++
      "(Background on this error at: https://sqlalche.me/e/21/e3q8)"
  | .abandoned => ""
  | .raised message => message

/-- The failure as a span records it. -/
def description (f : Failure) : String :=
  let text := match f with
    | .zone cause => cause.description
    | _ => f.message
  f.kind ++ ": " ++ text

end Failure

/-- The period that a value names. -/
def QueryPeriod.ofValue (v : Json) : Except Failure QueryPeriod :=
  match readPeriod v with
  | .ok period => .ok period
  | .error _ => .error (.notAPeriod v.inspected)

end ChargingReport
