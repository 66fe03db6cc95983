import ChargingReport.Csv

/-!
# Reading comma-separated text

A reader takes text line by line, where a line goes to its line feed, and the characters of a line
one by one. It is always in one of six states, which say where in a record it stands.

A quote opens quoted text at the beginning of a field only. Within quoted text every character stands
for itself, line ends included, and a quote written twice is a quote. Outside of it both characters
of a line end close the record, and a record that was closed goes on to the end of its line, where
nothing else may follow.
-/

namespace ChargingReport

namespace Csv

/-- Where in a record a reader stands. -/
inductive ReaderState where
  /-- Before the first character of a record. -/
  | recordStart
  /-- Behind a comma. -/
  | fieldStart
  /-- In a field, outside of quotes. -/
  | plain
  /-- In a field, within quotes. -/
  | quoted
  /-- Behind a quote within quotes, which closes them or is the first of two. -/
  | quoteSeen
  /-- Behind the first character of a line end. -/
  | lineBreak
deriving DecidableEq, Repr

/-- Why text cannot be read. -/
inductive ReadError where
  /-- A line goes on behind its end. -/
  | lineGoesOn
deriving DecidableEq, Repr

/-- The message of the error. -/
def ReadError.message : ReadError → String
  | .lineGoesOn =>
    "new-line character seen in unquoted field - do you need to open the file with newline=''?"

/-- A reader: where it stands, the field and the fields that it has of the record it is in, and the
records before it. -/
structure Reader where
  state : ReaderState := .recordStart
  field : List Char := []
  fields : List String := []
  records : List (List String) := []
deriving DecidableEq

/-- Whether the character ends a line. -/
def isLineEnd (c : Char) : Bool := c == '\r' || c == '\n'

namespace Reader

/-- Adds a character to the field. -/
def add (r : Reader) (c : Char) : Reader := { r with field := r.field ++ [c] }

/-- Ends the field. -/
def save (r : Reader) : Reader :=
  { r with field := [], fields := r.fields ++ [String.ofList r.field] }

/-- Ends the record. -/
def emit (r : Reader) : Reader :=
  { r with state := .recordStart, fields := [], records := r.records ++ [r.fields] }

/-- A character outside of quotes. A comma and a line end close the field. -/
def inField (r : Reader) (c : Char) : Reader :=
  if isLineEnd c then { r.save with state := .lineBreak }
  else if c = ',' then { r.save with state := .fieldStart }
  else { r.add c with state := .plain }

/-- The first character of a field. A quote opens quoted text. -/
def startField (r : Reader) (c : Char) : Reader :=
  if c = '"' then { r with state := .quoted } else r.inField c

/-- One character. -/
def step (r : Reader) (c : Char) : Except ReadError Reader :=
  match r.state with
  | .recordStart =>
    if isLineEnd c then .ok { r with state := .lineBreak } else .ok (r.startField c)
  | .fieldStart => .ok (r.startField c)
  | .plain => .ok (r.inField c)
  | .quoted => .ok (if c = '"' then { r with state := .quoteSeen } else r.add c)
  | .quoteSeen => .ok (if c = '"' then { r.add c with state := .quoted } else r.inField c)
  | .lineBreak => if isLineEnd c then .ok r else .error .lineGoesOn

/-- The end of a line. Quoted text goes on in the next line, and anything else ends there. -/
def endLine (r : Reader) : Reader :=
  match r.state with
  | .quoted => r
  | .recordStart | .lineBreak => r.emit
  | .fieldStart | .plain | .quoteSeen => r.save.emit

/-- One character, and the end of its line if it is a line feed. -/
def next (r : Reader) (c : Char) : Except ReadError Reader :=
  (r.step c).map fun r => if c = '\n' then r.endLine else r

/-- Some characters, one after the other. -/
def feed (r : Reader) : List Char → Except ReadError Reader
  | [] => .ok r
  | c :: rest => (r.next c).bind fun r => r.feed rest

/-- The records at the end of the text. A line that was begun ends there, and so does quoted text. -/
def finish (r : Reader) : List (List String) :=
  match r.state with
  | .recordStart => r.records
  | .lineBreak => r.emit.records
  | .fieldStart | .plain | .quoted | .quoteSeen => r.save.emit.records

end Reader

/-- The records of a text. -/
def read (text : String) : Except ReadError (List (List String)) :=
  (Reader.feed {} text.toList).map Reader.finish

end Csv

end ChargingReport
