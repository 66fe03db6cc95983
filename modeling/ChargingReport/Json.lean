import ChargingReport.Number.Shortest
import ChargingReport.Text.Quoted

/-!
# Structured values

`Json` is what comes in and goes out: query forms, settings, logging configurations and the bodies
of answers. Whole numbers and floating-point numbers are kept apart, and an object keeps the order
of its fields.

* `Json.field?` looks a field up.
* `Json.kindName` names the kind of a value in messages.
* `Json.shown` is a value as a message shows it, and `Json.inspected` is a value inside a list or
  an object, where texts are quoted.
-/

namespace ChargingReport

/-- The order of texts by their code points. -/
def textLe (a b : String) : Bool := !(b < a)

/-- A structured value. -/
inductive Json where
  | null
  | bool (b : Bool)
  | int (n : Int)
  | float (x : Binary64)
  | text (s : String)
  | list (items : List Json)
  | object (fields : List (String × Json))
deriving BEq

namespace Json

/-- The fields of an object. Other values have none. -/
def fields : Json → List (String × Json)
  | .object fields => fields
  | _ => []

/-- The field of a name. Of several the last one counts. -/
def field? (v : Json) (name : String) : Option Json :=
  (v.fields.reverse.lookup name)

/-- A text, or null where there is none. -/
def ofText? : Option String → Json
  | some s => .text s
  | none => .null

/-- An integer, or null where there is none. -/
def ofInt? : Option Int → Json
  | some n => .int n
  | none => .null

/-- A list of texts. -/
def texts (xs : List String) : Json := .list (xs.map .text)

/-- Puts a value under a name, in place of the value that stands there. -/
def put (fields : List (String × Json)) (name : String) (value : Json) : List (String × Json) :=
  if (fields.lookup name).isSome then
    fields.map fun (other, old) => if other = name then (other, value) else (other, old)
  else fields ++ [(name, value)]

/-- The name of the kind of a value, as messages give it. -/
def kindName : Json → String
  | .null => "NoneType"
  | .bool _ => "bool"
  | .int _ => "int"
  | .float _ => "float"
  | .text _ => "str"
  | .list _ => "list"
  | .object _ => "dict"

/-- Texts with a comma and a blank between them. -/
def commaList (parts : List String) : String := String.intercalate ", " parts

mutual

/-- A value inside a list or an object, where texts are quoted. -/
def inspected : Json → String
  | .null => "None"
  | .bool b => if b then "True" else "False"
  | .int n => intText n
  | .float x => x.text
  | .text s => quoted s
  | .list items => "[" ++ commaList (inspectedItems items) ++ "]"
  | .object fields => "\x7b" ++ commaList (inspectedFields fields) ++ "\x7d"

/-- The items of a list, each as it is shown inside. -/
def inspectedItems : List Json → List String
  | [] => []
  | item :: rest => inspected item :: inspectedItems rest

/-- The fields of an object, each as it is shown inside. -/
def inspectedFields : List (String × Json) → List String
  | [] => []
  | (name, value) :: rest => (quoted name ++ ": " ++ inspected value) :: inspectedFields rest

end

/-- A value as a message shows it. -/
def shown : Json → String
  | .text s => s
  | v => inspected v

end Json

end ChargingReport
