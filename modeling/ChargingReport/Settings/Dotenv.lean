import ChargingReport.Text.Blank

/-!
# Settings files

A settings file has lines `NAME=value`. Blank lines and comments are skipped, a name may follow the
word `export`, and a value may be in quotes. A line that fits nothing is skipped.

* `Dotenv.bindings` reads the lines of a file.
* `Dotenv.expand` replaces `$` and a name in braces by the value of the name.
-/

namespace ChargingReport

namespace Dotenv

/-- A name and its value. A name without equals sign has no value. -/
structure Binding where
  name : String
  value : Option String
deriving DecidableEq, Repr

/-- Whether a character ends a line. -/
def endsLine (c : Char) : Bool := c == '\n' || c == '\r'

/-- Whether a character is blank but does not end a line. -/
def isGap (c : Char) : Bool := isBlankChar c && !endsLine c

/-- The rest of a text behind its first line end. -/
def skipLine (cs : List Char) : List Char :=
  match cs.dropWhile (fun c => !endsLine c) with
  | '\r' :: '\n' :: rest => rest
  | _ :: rest => rest
  | [] => []

/-- What a backslash and a character stand for in double quotes. -/
def escaped? (c : Char) : Option Char :=
  match c with
  | '\\' => some '\\'
  | '\'' => some '\''
  | '"' => some '"'
  | 'a' => some '\x07'
  | 'b' => some '\x08'
  | 'f' => some '\x0c'
  | 'n' => some '\n'
  | 'r' => some '\r'
  | 't' => some '\t'
  | 'v' => some '\x0b'
  | _ => none

/-- Resolves backslashes. In single quotes only the backslash and the quote can be escaped. -/
def unescape (quote : Char) : List Char → List Char
  | '\\' :: c :: rest =>
    match escaped? c with
    | some e =>
      if quote = '"' ∨ c = '\\' ∨ c = '\'' then e :: unescape quote rest
      else '\\' :: c :: unescape quote rest
    | none => '\\' :: c :: unescape quote rest
  | c :: rest => c :: unescape quote rest
  | [] => []

/-- The text up to the closing quote, and the rest behind it. A quote behind a backslash does not
close. -/
def untilQuote (quote : Char) : List Char → Option (List Char × List Char)
  | [] => none
  | '\\' :: c :: rest =>
    if c = quote then (untilQuote quote rest).map fun (text, rest) => ('\\' :: c :: text, rest)
    else (untilQuote quote (c :: rest)).map fun (text, rest) => ('\\' :: text, rest)
  | c :: rest =>
    if c = quote then some ([], rest)
    else (untilQuote quote rest).map fun (text, rest) => (c :: text, rest)
termination_by cs => cs.length

/-- Cuts a comment that follows a blank. -/
def cutComment : List Char → List Char
  | [] => []
  | c :: rest =>
    if isBlankChar c && (rest.dropWhile isBlankChar).head? == some '#' then []
    else c :: cutComment rest

/-- Drops blanks at the end of a text. -/
def trimEnd (cs : List Char) : List Char := (cs.reverse.dropWhile isBlankChar).reverse

/-- A value, and the rest behind it. -/
def readValue (cs : List Char) : Option (List Char × List Char) :=
  match cs with
  | '\'' :: rest => (untilQuote '\'' rest).map fun (text, rest) => (unescape '\'' text, rest)
  | '"' :: rest => (untilQuote '"' rest).map fun (text, rest) => (unescape '"' text, rest)
  | _ =>
    let text := cs.takeWhile fun c => !endsLine c
    some (trimEnd (cutComment text), cs.dropWhile fun c => !endsLine c)

/-- Drops the word `export` and the blanks behind it. -/
def skipExport (cs : List Char) : List Char :=
  match cs with
  | 'e' :: 'x' :: 'p' :: 'o' :: 'r' :: 't' :: c :: rest =>
    if isGap c then rest.dropWhile isGap else cs
  | _ => cs

/-- A name, in single quotes or plain, and the rest behind it. -/
def readName (cs : List Char) : Option (List Char × List Char) :=
  match cs with
  | '\'' :: rest =>
    match rest.span (· != '\'') with
    | (name, '\'' :: rest) => if name.isEmpty then none else some (name, rest)
    | _ => none
  | _ =>
    let name := cs.takeWhile fun c => c != '=' && c != '#' && !isBlankChar c
    if name.isEmpty then none
    else some (name, cs.dropWhile fun c => c != '=' && c != '#' && !isBlankChar c)

/-- Drops an optional comment and the line end. Anything else does not fit. -/
def readLineEnd (cs : List Char) : Option (List Char) :=
  let rest := cs.dropWhile isGap
  let rest := if rest.head? = some '#' then rest.dropWhile (fun c => !endsLine c) else rest
  match rest with
  | [] => some []
  | '\r' :: '\n' :: rest => some rest
  | c :: rest => if endsLine c then some rest else none

/-- A line with a name, and the rest behind it. -/
def readBinding (cs : List Char) : Option (Binding × List Char) := do
  let (name, rest) ← readName (skipExport cs)
  match rest.dropWhile isGap with
  | '=' :: rest =>
    let (value, rest) ← readValue (rest.dropWhile isGap)
    return (⟨String.ofList name, some (String.ofList value)⟩, ← readLineEnd rest)
  | rest => return (⟨String.ofList name, none⟩, ← readLineEnd rest)

/-- The lines of a text. The first number bounds how many lines are read. -/
def readBindings : Nat → List Char → List Binding
  | 0, _ => []
  | fuel + 1, cs =>
    match cs.dropWhile isBlankChar with
    | [] => []
    | '#' :: rest => readBindings fuel (skipLine rest)
    | cs =>
      match readBinding cs with
      | some (binding, rest) => binding :: readBindings fuel rest
      | none => readBindings fuel (skipLine cs)

/-- The lines of a settings file. A text has no more lines than characters. -/
def bindings (text : String) : List Binding := readBindings (text.length + 1) text.toList

/-! ## Names in values -/

/-- The name and the default between braces, and the rest behind them. -/
def readReference (cs : List Char) : Option (List Char × List Char × List Char) :=
  let name := cs.takeWhile fun c => c != '\x7d' && c != ':'
  match cs.dropWhile fun c => c != '\x7d' && c != ':' with
  | '\x7d' :: rest => some (name, [], rest)
  | ':' :: '-' :: rest =>
    let default := rest.takeWhile (· != '\x7d')
    match rest.dropWhile (· != '\x7d') with
    | '\x7d' :: rest => some (name, default, rest)
    | _ => none
  | _ => none

/-- Replaces references to names. The first number bounds how many characters are read. -/
def expandChars (value? : String → Option String) : Nat → List Char → List Char
  | 0, cs => cs
  | _ + 1, [] => []
  | fuel + 1, '$' :: '\x7b' :: rest =>
    match readReference rest with
    | some (name, default, rest) =>
      ((value? (String.ofList name)).map String.toList).getD default ++
        expandChars value? fuel rest
    | none => '$' :: expandChars value? fuel ('\x7b' :: rest)
  | fuel + 1, c :: rest => c :: expandChars value? fuel rest

/-- A value in which references to names are replaced by their values. -/
def expand (value? : String → Option String) (s : String) : String :=
  String.ofList (expandChars value? s.length s.toList)

/-- The names and values of a file, each value expanded by the lines above it and by the
environment. Of several lines for one name the last counts, at the place of the first. -/
def resolve (environment : List (String × String)) (lines : List Binding) :
    List (String × Option String) :=
  lines.foldl (fun known line =>
    let value? name := ((known.lookup name).getD none).or (environment.lookup name)
    let value := line.value.map (expand value?)
    if (known.lookup line.name).isSome then
      known.map fun (name, old) => if name = line.name then (name, value) else (name, old)
    else known ++ [(line.name, value)]) []

/-- The names and values of the text of a settings file. -/
def read (environment : List (String × String)) (text : String) : List (String × Option String) :=
  resolve environment (bindings text)

end Dotenv

end ChargingReport
