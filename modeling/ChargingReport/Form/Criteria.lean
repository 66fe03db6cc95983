import ChargingReport.Calendar.Clock
import ChargingReport.Json

/-!
# Query forms

A `QueryForm` says which transactions a report is about: one transaction, a charging station, a tag,
only the active ones, or those that began in a period.

A form that was checked has a `Choice.known` type and period. A form can also be made without
checks, and then anything can stand in their place.
-/

namespace ChargingReport

/-- Whether a query wants all transactions or only the active ones. -/
inductive QueryType where
  | all
  | active
deriving DecidableEq, Repr

/-- The period in which the transactions of a query began. -/
inductive QueryPeriod where
  | all
  | today
  | last10
  | last30
  | last90
  | fromTo
deriving DecidableEq, Repr

/-- Names in quotes, with commas and an `or` before the last. -/
def orList : List String → String
  | [] => ""
  | [name] => "'" ++ name ++ "'"
  | [name, last] => "'" ++ name ++ "' or '" ++ last ++ "'"
  | name :: rest => "'" ++ name ++ "', " ++ orList rest

namespace QueryType

/-- The name of a type. -/
def name : QueryType → String
  | .all => "ALL"
  | .active => "ACTIVE"

/-- All types. -/
def members : List QueryType := [.all, .active]

/-- The type with a name. -/
def ofName? (s : String) : Option QueryType := members.find? fun t => t.name == s

/-- The names that a type can have, as a message lists them. -/
def expected : String := orList (members.map name)

end QueryType

namespace QueryPeriod

/-- The name of a period. -/
def name : QueryPeriod → String
  | .all => "ALL"
  | .today => "TODAY"
  | .last10 => "LAST_10"
  | .last30 => "LAST_30"
  | .last90 => "LAST_90"
  | .fromTo => "FROM_TO"

/-- All periods. -/
def members : List QueryPeriod := [.all, .today, .last10, .last30, .last90, .fromTo]

/-- The period with a name. -/
def ofName? (s : String) : Option QueryPeriod := members.find? fun p => p.name == s

/-- The names that a period can have, as a message lists them. -/
def expected : String := orList (members.map name)

/-- The number of days that a period looks back, where it looks back. -/
def intervalDays : QueryPeriod → Option Nat
  | .last10 => some 10
  | .last30 => some 30
  | .last90 => some 90
  | _ => none

end QueryPeriod

/-- A choice from a fixed set, or what stands in its place in a form that was not checked. -/
inductive Choice (α : Type) where
  | known (choice : α)
  | unchecked (value : Json)

/-- The criteria of a query. A criterion that is `none` is not set. -/
structure QueryForm where
  transactionPk : Option Int := none
  chargeBoxId : Option String := none
  idTag : Option String := none
  type : Choice QueryType := .known .all
  period : Choice QueryPeriod := .known .all
  earliest : Option Instant := none
  latest : Option Instant := none

end ChargingReport
