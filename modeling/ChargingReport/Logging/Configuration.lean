import ChargingReport.Logging.Format
import ChargingReport.Logging.State

/-!
# Configuring loggers

`LoggingState.configure` applies a configuration: the bundled one, the content of a file, or a plain
console setup when the file is missing. The logger of the service always gets the requested level.

A configuration lists formatters, filters, handlers, loggers and the root logger. Loggers that are not
listed are disabled unless the configuration says otherwise; those below a listed one are reset
instead. An incremental configuration only changes levels.

An entry may name a way of its own to make an object, which can do anything. What it does is up to a
`Factory`. `loggerFactory` is the one that hands out loggers.

A configuration that is refused part of the way leaves what it did until then, so a `Configuring` has
a state and, if it is refused, a reason.
-/

namespace ChargingReport

/-- Why a configuration is refused. -/
inductive LoggingError where
  /-- A value of this kind stands where an object is needed. -/
  | notAnObject (kindName : String)
  /-- A value of this kind stands where the entry of a logger is needed. -/
  | noItems (kindName : String)
  /-- A value of this kind stands where names are needed. -/
  | notIterable (kindName : String)
  | versionMissing
  | version (shown : String)
  | unknownLevel (name : String)
  | noHandler (shown : String)
  | handler (shown : String)
  | formatter (shown : String)
  | filter (shown : String)
  | logger (shown : String)
  | root
  /-- The text of a file holds no value. -/
  | unreadable (kindName message : String)
deriving DecidableEq, Repr

namespace LoggingError

/-- The kind of the error. -/
def kind : LoggingError → String
  | .notAnObject _ => "AttributeError"
  | .noItems _ => "TypeError"
  | .notIterable _ => "TypeError"
  | .unreadable kindName _ => kindName
  | _ => "ValueError"

/-- The message of the error. -/
def message : LoggingError → String
  | .notAnObject kindName => quoted kindName ++ " object has no attribute 'setdefault'"
  | .noItems kindName =>
    if kindName = "list" then "list indices must be integers or slices, not str"
    else quoted kindName ++ " object does not support item assignment"
  | .notIterable kindName => quoted kindName ++ " object is not iterable"
  | .versionMissing => "dictionary doesn't specify a version"
  | .version shown => "Unsupported version: " ++ shown
  | .unknownLevel name => "Unknown level: " ++ quoted name
  | .noHandler shown => "No handler found with name " ++ shown
  | .handler shown => "Unable to configure handler " ++ shown
  | .formatter shown => "Unable to configure formatter " ++ shown
  | .filter shown => "Unable to configure filter " ++ shown
  | .logger shown => "Unable to configure logger " ++ shown
  | .root => "Unable to configure root logger"
  | .unreadable _ message => message

end LoggingError

/-- A state, and why the last step was refused, if it was. -/
structure LoggingResult where
  state : LoggingState
  error : Option LoggingError

/-- Steps on the state of the loggers, which may be refused. -/
abbrev Configuring (α : Type) := ExceptT LoggingError (StateM LoggingState) α

namespace Configuring

/-- A step that does not look at the state. -/
def ofExcept {α : Type} (x : Except LoggingError α) : Configuring α := ExceptT.mk (pure x)

/-- What the steps leave of a state. -/
def result {α : Type} (x : Configuring α) (s : LoggingState) : LoggingResult :=
  match x.run s with
  | (.ok _, s) => ⟨s, none⟩
  | (.error e, s) => ⟨s, some e⟩

end Configuring

/-- What becomes of an entry that names its own way to make an object: the state afterwards, and the
class of the object, if one is made. -/
abbrev Factory := Json → LoggingState → LoggingState × Option String

/-! ## Parts of a configuration -/

namespace Json

/-- Whether a value counts as given: it is not null, false, zero or empty. -/
def isGiven : Json → Bool
  | .null => false
  | .bool b => b
  | .int n => n != 0
  | .float x => x.compareNat 0 != some .eq
  | .text s => !s.isEmpty
  | .list items => !items.isEmpty
  | .object fields => !fields.isEmpty

/-- The names that a part of a configuration lists, each as a value. -/
def iterated : Json → Except LoggingError (List Json)
  | .object fields => .ok (fields.map fun f => .text f.1)
  | .list items => .ok items
  | .text s => .ok (s.toList.map fun c => .text (String.singleton c))
  | v => .error (.notIterable v.kindName)

/-- The field of a name, or an empty object. -/
def section? (v : Json) (name : String) : Json := (v.field? name).getD (.object [])

end Json

/-- A text in upper case. Besides the letters of ASCII it knows the two others that become one of
them. -/
def upperCase (s : String) : String :=
  s.map fun c => if c = 'ı' then 'I' else if c = 'ſ' then 'S' else c.toUpper

/-- A level in a configuration. Nothing stands for no change, and a value that is no level is
refused. -/
def levelOf? (v : Json) : Option Level :=
  match v with
  | .int n => some { number := n }
  | .bool b => some { number := if b then 1 else 0, isTruth := b }
  | .text s => Level.ofName? s
  | _ => none

/-- The field of an entry that names a way of its own to make the object. -/
def factoryField : String := "()"

/-- Whether the entry of a formatter makes one of its own. -/
def isCustomFormatter (v : Json) : Bool :=
  (v.field? factoryField).isSome || match v.field? "class" with
    | some (.text s) => !s.isEmpty && s != "logging.Formatter"
    | _ => false

/-- Whether the entry of a filter makes one of its own. -/
def isCustomFilter (v : Json) : Bool := (v.field? factoryField).isSome

/-- Whether a formatter of a style takes a format, which may go unchecked. A format that is not given
is that of the style. -/
def formatFits (style : LogStyle) (format : Json) (validate : Bool) : Bool :=
  !format.isGiven || !validate || match format with
    | .text s => style.accepts s
    | _ => false

/-- Whether the entry of a formatter can be used. -/
def isFormatter (v : Json) : Bool :=
  match v with
  | .object _ =>
    let format := (v.field? "format").getD .null
    let validate := ((v.field? "validate").getD (.bool true)).isGiven
    let style? := match (v.field? "style").getD (.text "%") with
      | .text sign => LogStyle.ofSign? sign
      | _ => none
    let classFits := match (v.field? "class").getD .null with
      | .text _ => true
      | v => !v.isGiven
    style?.any (formatFits · format validate) && classFits
  | _ => false

/-- Whether the entry of a filter can be used. Its name is a text or another value with a length. -/
def isFilter (v : Json) : Bool :=
  match v with
  | .object _ => match (v.field? "name").getD (.text "") with
    | .text _ => true
    | .list _ => true
    | .object _ => true
    | _ => false
  | _ => false

/-- The classes of handlers: the path, the name, and the arguments that can and must be given. -/
def handlerClasses : List (String × String × List String × List String) :=
  [("logging.StreamHandler", streamHandlerClass, ["stream"], []),
    ("logging.NullHandler", "NullHandler", ["level"], []),
    ("logging.Handler", "Handler", ["level"], []),
    ("logging.FileHandler", "FileHandler", ["filename", "mode", "encoding", "delay", "errors"],
      ["filename"])]

/-- The field of an entry with attributes that are set on the object afterwards. -/
def attributesField : String := "."

/-- The fields of the entry of a handler that are not arguments of its class. -/
def handlerFields : List String := ["class", "formatter", "level", "filters", attributesField]

/-- Whether the entry of a handler makes one of its own. -/
def isCustomHandler (v : Json) : Bool :=
  (v.field? factoryField).isSome || match v.field? "class" with
    | some (.text path) => (handlerClasses.lookup path).isNone
    | _ => false

/-- Whether the attributes that are set on an object, if any, have names. -/
def attributesFit (v : Json) : Bool :=
  match (v.field? attributesField).getD .null with
  | .object _ => true
  | attributes => !attributes.isGiven

/-- The class name of the entry of a handler, if its arguments can be used. -/
def handlerClass? (v : Json) : Option String := do
  let .object fields := v | none
  let .text path ← v.field? "class" | none
  let (className, allowed, needed) ← handlerClasses.lookup path
  let arguments := (fields.map Prod.fst).filter fun name => !handlerFields.contains name
  if arguments.all allowed.contains && needed.all arguments.contains && attributesFit v then
    some className
  else none

/-- Whether a configuration has the formatter of the entry of a handler. -/
def formatterFits (config v : Json) : Bool :=
  match (v.field? "formatter").getD .null with
  | .text s => s.isEmpty || ((config.section? "formatters").field? s).isSome
  | f => !f.isGiven

/-- Whether the level of the entry of a handler is one. -/
def levelFits (v : Json) : Bool :=
  match (v.field? "level").getD .null with
  | .null => true
  | level => (levelOf? level).isSome

/-- Whether a configuration has the filters of an entry. -/
def filtersFit (config v : Json) : Bool :=
  let filters := (v.field? "filters").getD .null
  !filters.isGiven || match filters.iterated with
    | .ok names => names.all fun n => match n with
      | .text s => ((config.section? "filters").field? s).isSome
      | _ => false
    | .error _ => false

/-- Orders names by their code points. -/
def sortNames (names : List Json) : List Json :=
  names.mergeSort fun a b => match a, b with
    | .text a, .text b => textLe a b
    | _, _ => true

/-- The class of the object that an entry makes, if one is made. -/
def makeEntry (factory : Factory) (isCustom : Json → Bool) (plain : Json → Option String)
    (entry : Json) : Configuring (Option String) := do
  if isCustom entry then
    let (s, made) := factory entry (← get)
    set s
    return made
  else return plain entry

/-- The class of the handler that an entry makes, if one is made and can be used. -/
def makeHandler (factory : Factory) (config entry : Json) : Configuring (Option String) := do
  if !formatterFits config entry then return none
  let made ← makeEntry factory isCustomHandler handlerClass? entry
  return if levelFits entry && filtersFit config entry then made else none

/-- Makes the object of a name that a part of a configuration lists. The answer is the name and the
class of the object. -/
def makeNamed (config : Json) (part : String) (make : Json → Configuring (Option String))
    (refuse : String → LoggingError) (name : Json) : Configuring (String × String) := do
  let .text n := name | throw (refuse name.inspected)
  let some entry := (config.section? part).field? n | throw (refuse name.inspected)
  let some className ← make entry | throw (refuse name.inspected)
  return (n, className)

/-- Makes the objects that a part of a configuration lists, in an order of the names, and notes each
one in the state. The answer is the names and the classes. -/
def makePart (config : Json) (part : String) (order : List Json → List Json)
    (make : Json → Configuring (Option String)) (note : String → LoggingState → LoggingState)
    (refuse : String → LoggingError) : Configuring (List (String × String)) := do
  let names ← Configuring.ofExcept (config.section? part).iterated
  (order names).mapM fun name => do
    let made ← makeNamed config part make refuse name
    modify (note made.1)
    return made

/-- Makes the parts that loggers build on. Handlers are made in the order of their names, and the
others in the order in which they are listed. The answer is the names and classes of the handlers. -/
def makeParts (factory : Factory) (config : Json) : Configuring (List (String × String)) := do
  let plain (fits : Json → Bool) (entry : Json) : Option String :=
    if fits entry then some "" else none
  let unnoted (_ : String) (s : LoggingState) : LoggingState := s
  let _ ← makePart config "formatters" id
    (makeEntry factory isCustomFormatter (plain isFormatter)) unnoted .formatter
  let _ ← makePart config "filters" id
    (makeEntry factory isCustomFilter (plain isFilter)) unnoted .filter
  makePart config "handlers" sortNames (makeHandler factory config)
    (fun name s => { s with handlerNames := s.handlerNames ++ [name] }) .handler

/-! ## Loggers -/

/-- The handler with a name, of those that were made. -/
def handlerOf? (made : List (String × String)) (name : Json) : Option Handler := do
  let .text s := name | none
  return ⟨← made.lookup s, some s⟩

/-- Adds handlers one after the other, until one does not exist. A handler is added once. -/
def addHandlers (made : List (String × String)) : List Json → List Handler → List Handler × Bool
  | [], handlers => (handlers, true)
  | name :: rest, handlers =>
    match handlerOf? made name with
    | none => (handlers, false)
    | some h => addHandlers made rest (if handlers.contains h then handlers else handlers ++ [h])

/-- The handlers that the entry of a logger names, of those that were made. The answer also says
whether each of them exists. -/
def handlersOf (entry : Json) (made : List (String × String)) : List Handler × Bool :=
  let names := (entry.field? "handlers").getD .null
  if names.isGiven then
    match names.iterated with
    | .ok names => addHandlers made names []
    | .error _ => ([], false)
  else ([], true)

namespace Logger

/-- A logger with the level of its entry, if that can be used. -/
def leveled? (entry : Json) (logger : Logger) : Option Logger :=
  match (entry.field? "level").getD .null with
  | .null => some logger
  | level => (levelOf? level).map fun l => { logger with level := l }

/-- Applies the entry of a logger, with the handlers that were made. The answer says whether the whole
entry was applied. -/
def apply (config entry : Json) (made : List (String × String)) (incremental : Bool)
    (logger : Logger) : Logger × Bool :=
  match entry with
  | .object _ =>
    match logger.leveled? entry with
    | none => (logger, false)
    | some logger =>
      if incremental then (logger, true)
      else
        let (handlers, complete) := handlersOf entry made
        ({ logger with handlers := handlers }, complete && filtersFit config entry)
  | _ => (logger, false)

end Logger

/-- Whether a logger stands below another one. -/
def isBelow (name above : String) : Bool := (above.toList ++ ['.']).isPrefixOf name.toList

namespace LoggingState

/-- Treats the loggers that a configuration does not list: those below a listed one are reset, and
the others are silenced or not. -/
def settleOthers (s : LoggingState) (listed : List String) (silence : Bool) : LoggingState :=
  { s with loggers := s.loggers.map fun (name, logger) =>
      if listed.contains name then (name, logger)
      else if listed.any fun above => !isRootName above && isBelow name above then
        (name, { logger with level := Level.notSet, handlers := [] })
      else (name, { logger with disabled := silence }) }

/-- The first handler that an incremental configuration cannot change, since the last whole
configuration did not make it or its level is none. -/
def refusedHandler? (s : LoggingState) (config : Json) : Option LoggingError :=
  match (config.section? "handlers").iterated with
  | .error e => some e
  | .ok names => names.findSome? fun name => match name with
    | .text n =>
      if !s.handlerNames.contains n then some (.noHandler name.inspected)
      else match (config.section? "handlers").field? n with
        | some (.object fields) =>
          let level := (fields.lookup "level").getD .null
          if !level.isGiven || (levelOf? level).isSome then none
          else some (.handler name.inspected)
        | _ => some (.handler name.inspected)
    | _ => some (.noHandler name.inspected)

end LoggingState

/-! ## Configurations -/

namespace Configuring

/-- Applies the entry of a listed logger, which is then not silenced. -/
def applyLogger (config : Json) (made : List (String × String)) (incremental : Bool) (name : String)
    (entry : Json) : Configuring Unit := do
  let (logger, complete) := ((← get).logger name).apply config entry made incremental
  if complete then modify fun s => s.update name fun _ => { logger with disabled := false }
  else
    modify fun s => s.update name fun _ => logger
    throw (.logger (quoted name))

/-- Applies the entries of listed loggers, until one is refused. -/
def applyLoggers (config : Json) (made : List (String × String)) (incremental : Bool) :
    List (String × Json) → Configuring Unit
  | [] => return
  | (name, entry) :: rest => do
    applyLogger config made incremental name entry
    applyLoggers config made incremental rest

/-- Applies the entry of the root logger, if it is given. -/
def applyRoot (config : Json) (made : List (String × String)) (incremental : Bool) :
    Configuring Unit := do
  let entry := (config.field? "root").getD .null
  if entry.isGiven then
    let (logger, complete) := (← get).root.apply config entry made incremental
    modify fun s => { s with root := logger }
    if !complete then throw .root

/-- Applies an incremental configuration, which only changes levels. -/
def applyIncremental (config : Json) : Configuring Unit := do
  match (← get).refusedHandler? config with
  | some e => throw e
  | none =>
    applyLoggers config [] true (config.section? "loggers").fields
    applyRoot config [] true

/-- Applies a whole configuration. -/
def applyWhole (factory : Factory) (config : Json) : Configuring Unit := do
  modify fun s => { s with handlerNames := [] }
  let made ← makeParts factory config
  let listed := (config.section? "loggers").fields
  applyLoggers config made false listed
  let silence := ((config.field? "disable_existing_loggers").getD (.bool true)).isGiven
  modify fun s => s.settleOthers (listed.map Prod.fst) silence
  applyRoot config made false

/-- Whether a value is the number one. -/
def isOne : Json → Bool
  | .int n => n == 1
  | .bool b => b
  | .float x => x.compareNat 1 == some .eq
  | _ => false

/-- Applies a configuration with a version. -/
def applyConfiguration (factory : Factory) (config : Json) : Configuring Unit :=
  match config.field? "version" with
  | none => throw .versionMissing
  | some v =>
    if !isOne v then throw (.version v.shown)
    else if ((config.field? "incremental").getD (.bool false)).isGiven then applyIncremental config
    else applyWhole factory config

end Configuring

/-! ## The logger of the service -/

/-- The name of the logger of the service. -/
def serviceLogger : String := "chargeview"

/-- A configuration in which the logger of the service has a level. -/
def withServiceLevel (config : Json) (level : String) : Except LoggingError Json :=
  match config with
  | .object fields =>
    match config.section? "loggers" with
    | .object loggers =>
      match ((Json.object loggers).field? serviceLogger).getD (.object []) with
      | .object entry =>
        let entry := Json.object (Json.put entry "level" (.text level))
        .ok (.object (Json.put fields "loggers" (.object (Json.put loggers serviceLogger entry))))
      | v => .error (.noItems v.kindName)
    | v => .error (.notAnObject v.kindName)
  | v => .error (.notAnObject v.kindName)

/-- The configuration that comes with the service. -/
def bundledConfiguration : Json :=
  .object [("version", .int 1), ("disable_existing_loggers", .bool false),
    ("formatters", .object [("default", .object
      [("format", .text "%(asctime)s %(levelname)s [%(name)s] %(message)s")])]),
    ("handlers", .object [("console", .object [("class", .text "logging.StreamHandler"),
      ("formatter", .text "default"), ("stream", .text "ext://sys.stdout")])]),
    ("loggers", .object [(serviceLogger, .object [("level", .text "INFO")]),
      ("sqlalchemy.engine", .object [("level", .text "WARNING")]),
      ("uvicorn.access", .object [("level", .text "INFO")])]),
    ("root", .object [("level", .text "INFO"), ("handlers", .list [.text "console"])])]

/-- Where a configuration comes from. -/
inductive ConfigurationSource where
  /-- The configuration that comes with the service. -/
  | bundled
  /-- The content of a file. -/
  | file (content : Json)
  /-- A file whose text holds no value, with the kind and the message of the error. -/
  | unreadable (kindName message : String)
  /-- A file that does not exist. -/
  | missing

namespace Configuring

/-- Sets the level of a logger by name. -/
def setLevel (name level : String) : Configuring Unit :=
  match Level.ofName? level with
  | some l => modify fun s => s.update name fun logger => { logger with level := l }
  | none => throw (.unknownLevel level)

/-- The plain console setup: a root logger without handlers gets one, and the level. -/
def consoleSetup (level : String) : Configuring Unit := do
  if (← get).root.handlers.isEmpty then
    modify fun s => { s with root := { s.root with handlers := [⟨streamHandlerClass, none⟩] } }
    setLevel "" level

/-- Applies a configuration in which the logger of the service has the requested level. -/
def configure (factory : Factory) (source : ConfigurationSource) (level : String) :
    Configuring Unit := do
  let level := upperCase level
  match source with
  | .missing =>
    consoleSetup level
    setLevel serviceLogger level
  | .bundled =>
    applyConfiguration factory (← ofExcept (withServiceLevel bundledConfiguration level))
  | .file content => applyConfiguration factory (← ofExcept (withServiceLevel content level))
  | .unreadable kindName message => throw (.unreadable kindName message)

end Configuring

namespace LoggingState

/-- The result of a configuration. -/
def configure (factory : Factory) (s : LoggingState) (source : ConfigurationSource)
    (level : String) : LoggingResult :=
  (Configuring.configure factory source level).result s

/-- The results of configurations, one after the other. -/
def configureAll (factory : Factory) (s : LoggingState) :
    List (ConfigurationSource × String) → List LoggingResult
  | [] => []
  | (source, level) :: rest =>
    let result := s.configure factory source level
    result :: result.state.configureAll factory rest

end LoggingState

/-! ## Loggers as parts -/

/-- The truth values that are set as the switch of an object, if nothing else is set. -/
def switchOf? (v : Json) : Option (Option Bool) :=
  match v.field? attributesField with
  | none => some none
  | some (.object []) => some none
  | some (.object [("disabled", .bool b)]) => some (some b)
  | _ => none

/-- The factory that hands out the logger with a name, or the root logger without one, and sets its
switch. It makes nothing else. -/
def loggerFactory : Factory := fun entry s =>
  let arguments := (entry.fields.map Prod.fst).filter fun name =>
    name != factoryField && name != attributesField
  let name? : Option String := match entry.field? "name" with
    | none => some ""
    | some (.text name) => some name
    | some v => if v.isGiven then none else some ""
  match entry.field? factoryField, switchOf? entry, name? with
  | some (.text "logging.getLogger"), some switch, some name =>
    if arguments.all (· == "name") then
      (s.update name fun logger => { logger with disabled := switch.getD logger.disabled },
        some "Logger")
    else (s, none)
  | _, _, _ => (s, none)

end ChargingReport
