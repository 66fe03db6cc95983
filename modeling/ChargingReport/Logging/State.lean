import ChargingReport.Json

/-!
# Loggers

A logger has a level, handlers and a switch that silences it. Loggers are named by paths with dots,
and the root logger has no name. `LoggingState` holds the loggers that were touched so far; all others
are as they were at first.
-/

namespace ChargingReport

/-- A level, as a number. The number one may have been set as a truth value, which shows. -/
structure Level where
  number : Int
  isTruth : Bool := false
deriving DecidableEq, Repr

namespace Level

/-- The level that leaves the decision to the loggers above. -/
def notSet : Level := { number := 0 }

/-- The level of warnings. -/
def warning : Level := { number := 30 }

/-- The names of levels. Of two names for a level, the first is shown. -/
def table : List (String × Int) :=
  [("CRITICAL", 50), ("FATAL", 50), ("ERROR", 40), ("WARNING", 30), ("WARN", 30), ("INFO", 20),
    ("DEBUG", 10), ("NOTSET", 0)]

/-- The level with a name. -/
def ofName? (name : String) : Option Level :=
  (table.lookup name).map fun number => { number := number }

/-- The name of a level. -/
def name (level : Level) : String :=
  match table.find? fun entry => entry.2 == level.number with
  | some entry => entry.1
  | none => "Level " ++ if level.isTruth then "True" else intText level.number

end Level

/-- A handler of a logger: its class, and the name under which a configuration made it. -/
structure Handler where
  className : String
  name : Option String
deriving DecidableEq, Repr

/-- The class of handlers that write to a stream. -/
def streamHandlerClass : String := "StreamHandler"

/-- A logger. -/
structure Logger where
  level : Level := Level.notSet
  handlers : List Handler := []
  disabled : Bool := false
deriving DecidableEq, Repr

/-- The loggers that were touched so far, and the names of the handlers that the last configuration
made. -/
structure LoggingState where
  root : Logger := { level := Level.warning }
  loggers : List (String × Logger) := []
  handlerNames : List String := []
deriving DecidableEq, Repr

namespace LoggingState

/-- The state before any configuration, with the loggers that are already in use. -/
def initial (names : List String) : LoggingState :=
  { loggers := names.map fun name => (name, {}) }

/-- Whether a name stands for the root logger. -/
def isRootName (name : String) : Bool := name.isEmpty || name == "root"

/-- The logger with a name. -/
def logger (s : LoggingState) (name : String) : Logger :=
  if isRootName name then s.root else (s.loggers.lookup name).getD {}

/-- Changes the logger with a name. -/
def update (s : LoggingState) (name : String) (change : Logger → Logger) : LoggingState :=
  if isRootName name then { s with root := change s.root }
  else if (s.loggers.lookup name).isSome then
    { s with loggers := s.loggers.map fun (other, logger) =>
        if other = name then (other, change logger) else (other, logger) }
  else { s with loggers := s.loggers ++ [(name, change {})] }

end LoggingState

end ChargingReport
