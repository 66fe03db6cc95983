import ChargingReport.Text.Buffer

/-!
# Comma-separated text

A record is written as its fields with commas between them, and a line end of two characters. A
field is put in quotes when it holds a comma, a quote or a character of a line end, and a quote in it
is then written twice.
-/

namespace ChargingReport

namespace Csv

/-- Whether a character makes quotes necessary. -/
def isSpecial (c : Char) : Bool := c == ',' || c == '"' || c == '\r' || c == '\n'

/-- A field with every quote written twice. -/
def doubleQuotes (cs : List Char) : List Char :=
  cs.flatMap fun c => if c = '"' then ['"', '"'] else [c]

/-- A field as it is written. -/
def encodeField (field : String) : List Char :=
  let cs := field.toList
  if cs.any isSpecial then '"' :: doubleQuotes cs ++ ['"'] else cs

/-- The end of a line. -/
def lineEnd : List Char := ['\r', '\n']

/-- Fields with commas between them. -/
def joinFields : List (List Char) → List Char
  | [] => []
  | [field] => field
  | field :: rest => field ++ ',' :: joinFields rest

/-- A record as it is written, with its line end. -/
def encodeRecord (fields : List String) : List Char :=
  joinFields (fields.map encodeField) ++ lineEnd

/-- Writes a record into a buffer. -/
def writeRecord (b : TextBuffer) (fields : List String) : TextBuffer := b.write (encodeRecord fields)

/-- Records as they are written. -/
def encode (records : List (List String)) : String :=
  String.ofList (records.flatMap encodeRecord)

end Csv

end ChargingReport
