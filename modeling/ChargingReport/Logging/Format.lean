import ChargingReport.Text.Digits

/-!
# Formats of log entries

A format is a text with fields, and a formatter refuses a format in which there is none. There are
three styles.

* `hasPercentField` looks for a field `%(name)s`. Anything else is text.
* `fitsBraces` reads the fields `{name!conversion:spec}` of a format one character after the other. A
  brace is text if it is doubled, and each field has to be one that can be filled in.
* `fitsDollars` reads the fields `$name` and `${name}`. A dollar sign is text if it is doubled.

`LogStyle.accepts` is the check of a style. Characters beyond ASCII count as letters of a name.
-/

namespace ChargingReport

namespace LogFormat

/-! ## Pieces of a format -/

/-- Whether the character can stand in the name of a field. -/
def isWord (c : Char) : Bool := c.isAlphanum || c == '_' || 0x80 ≤ c.toNat

/-- Whether the letter is one of some lower case letters, in either case. Two letters beyond ASCII are
other cases of an `i`, and one of an `s`. -/
def isLetterOf (letters : List Char) (c : Char) : Bool :=
  letters.contains c.toLower || (letters.contains 'i' && (c == 'İ' || c == 'ı')) ||
    (letters.contains 's' && c == 'ſ')

/-- The text behind its first character, if that is one of these. -/
def dropOne (fits : Char → Bool) : List Char → List Char
  | [] => []
  | c :: rest => if fits c then rest else c :: rest

/-- Whether nothing is left but the end of a line. -/
def isAtEnd (cs : List Char) : Bool := cs.isEmpty || cs == ['\n']

/-- A name in braces and what is behind it. -/
def braced? (cs : List Char) : Option (List Char × List Char) :=
  match cs with
  | '\x7b' :: rest =>
    match rest.dropWhile isWord with
    | '\x7d' :: behind =>
      let name := rest.takeWhile isWord
      if name.isEmpty then none else some (name, behind)
    | _ => none
  | _ => none

/-! ## Percent signs -/

/-- The letters that end a field behind a percent sign. -/
def percentLetters : List Char := "diouxefgcrsa%".toList

/-- What is behind a width. -/
def dropWidth : List Char → List Char
  | '*' :: rest => rest
  | cs => cs.dropWhile isDigitChar

/-- What is behind a precision. -/
def dropPrecision (cs : List Char) : List Char :=
  match cs with
  | '.' :: rest => if (dropWidth rest).length < rest.length then dropWidth rest else cs
  | _ => cs

/-- Whether a text begins with what is behind the percent sign of a field: a name in parentheses,
flags, a width, a precision, and a letter. -/
def isPercentField : List Char → Bool
  | '(' :: rest =>
    match rest.dropWhile isWord with
    | ')' :: behind =>
      let behind := behind.dropWhile ['#', '0', '+', ' ', '-'].contains
      let letter? := (dropPrecision (dropWidth behind)).head?
      !(rest.takeWhile isWord).isEmpty && letter?.any (isLetterOf percentLetters)
    | _ => false
  | _ => false

/-- Whether a text has a field `%(name)s`. -/
def hasPercentField : List Char → Bool
  | [] => false
  | c :: rest => (c == '%' && isPercentField rest) || hasPercentField rest

/-! ## Braces -/

/-- A field in braces. -/
structure BraceField where
  name : List Char
  conversion : Option Char
  spec : List Char

/-- Whether the parts `.name` and `[key]` behind the first name of a field are complete. -/
def isPath (cs : List Char) : Bool :=
  match cs with
  | '.' :: rest => !(rest.takeWhile isWord).isEmpty && isPath (rest.dropWhile isWord)
  | '[' :: rest =>
    let behind := rest.dropWhile (· != ']')
    !(rest.takeWhile (· != ']')).isEmpty && !behind.isEmpty && isPath (behind.drop 1)
  | cs => isAtEnd cs
termination_by cs.length
decreasing_by
  · have hle := (List.dropWhile_sublist isWord (l := rest)).length_le
    simp only [List.length_cons]
    omega
  · have hle := (List.dropWhile_sublist (· != ']') (l := rest)).length_le
    simp only [List.length_cons, List.length_drop]
    omega

/-- Whether the name of a field is a path. -/
def isFieldName (cs : List Char) : Bool :=
  !(cs.takeWhile isWord).isEmpty && isPath (cs.dropWhile isWord)

/-- Whether the character aligns a value. -/
def isAlignment (c : Char) : Bool := ['<', '>', '=', '^'].contains c

/-- What is behind an alignment, which may have a character to fill with in front. -/
def dropAlignment : List Char → List Char
  | fill :: align :: rest =>
    if isAlignment align && fill != '\n' then rest else dropOne isAlignment (fill :: align :: rest)
  | cs => dropOne isAlignment cs

/-- What is behind a number or a name in braces. -/
def dropSize (cs : List Char) : List Char :=
  match braced? cs with
  | some (_, behind) => behind
  | none => cs.dropWhile isDigitChar

/-- What is behind a point and a size. -/
def dropPoint (cs : List Char) : List Char :=
  match cs with
  | '.' :: rest => if (dropSize rest).length < rest.length then dropSize rest else cs
  | _ => cs

/-- Whether a text says how a value is written: alignment, sign, form, zeros, size, separator of
thousands, precision and letter, all of which may be missing. -/
def isSpec (cs : List Char) : Bool :=
  let behind := dropOne ['+', ' ', '-'].contains (dropAlignment cs)
  let behind := dropSize (dropOne (· == '0') (dropOne (· == '#') behind))
  let behind := dropPoint (dropOne [',', '_'].contains behind)
  isAtEnd (dropOne (isLetterOf "bcdefgnosx%".toList) behind)

/-- Whether the field can be filled in. A part that is missing or empty always can. -/
def BraceField.fits (field : BraceField) : Bool :=
  (field.name.isEmpty || isFieldName field.name) &&
    field.conversion.all ['r', 's', 'a'].contains && (field.spec.isEmpty || isSpec field.spec)

/-- Where a reader of a format is. -/
inductive BraceMode where
  | text
  /-- Behind a brace that may be doubled. -/
  | opened
  | closed
  | inName (name : List Char)
  /-- In square brackets within a name. -/
  | inKey (name : List Char)
  | inConversion (name : List Char)
  | converted (name : List Char) (letter : Char)
  /-- In a specification, with the number of braces to be closed before its end. -/
  | inSpec (field : BraceField) (depth : Nat)

namespace BraceMode

/-- Reads a character of a name. -/
def readName (name : List Char) (c : Char) : Option (BraceMode × Option BraceField) :=
  if c == '\x7b' then none
  else if c == '\x7d' then some (.text, some ⟨name, none, []⟩)
  else if c == '!' then some (.inConversion name, none)
  else if c == ':' then some (.inSpec ⟨name, none, []⟩ 0, none)
  else some (if c == '[' then .inKey (name ++ [c]) else .inName (name ++ [c]), none)

/-- Reads a character, which may end a field. -/
def step (mode : BraceMode) (c : Char) : Option (BraceMode × Option BraceField) :=
  match mode with
  | .text =>
    some (if c == '\x7b' then .opened else if c == '\x7d' then .closed else .text, none)
  | .opened => if c == '\x7b' then some (.text, none) else readName [] c
  | .closed => if c == '\x7d' then some (.text, none) else none
  | .inName name => readName name c
  | .inKey name => some (if c == ']' then .inName (name ++ [c]) else .inKey (name ++ [c]), none)
  | .inConversion name => some (.converted name c, none)
  | .converted name letter =>
    if c == '\x7d' then some (.text, some ⟨name, some letter, []⟩)
    else if c == ':' then some (.inSpec ⟨name, some letter, []⟩ 0, none)
    else none
  | .inSpec field depth =>
    if c == '\x7d' && depth == 0 then some (.text, some field)
    else
      let depth := if c == '\x7b' then depth + 1 else if c == '\x7d' then depth - 1 else depth
      some (.inSpec { field with spec := field.spec ++ [c] } depth, none)

end BraceMode

/-- Reads the rest of a format, where it is known whether a field with a name was found. -/
def readBraces (mode : BraceMode) (found : Bool) : List Char → Bool
  | [] => match mode with
    | .text => found
    | _ => false
  | c :: rest =>
    match mode.step c with
    | none => false
    | some (mode, none) => readBraces mode found rest
    | some (mode, some field) =>
      field.fits && readBraces mode (found || !field.name.isEmpty) rest

/-- Whether all fields of a format can be filled in, and one of them has a name. -/
def fitsBraces (cs : List Char) : Bool := readBraces .text false cs

/-! ## Dollar signs -/

/-- Whether a text begins with an identifier. -/
def beginsIdentifier (cs : List Char) : Bool := cs.head?.any fun c => c.isAlpha || c == '_'

/-- Whether a text begins with what is behind the dollar sign of a field. -/
def isDollarField : List Char → Bool
  | '\x7b' :: rest => beginsIdentifier rest &&
      (rest.dropWhile fun c => c.isAlphanum || c == '_').head? == some '\x7d'
  | cs => beginsIdentifier cs

/-- Reads the rest of a format, where it is known whether a field was found. -/
def readDollars (found : Bool) : List Char → Bool
  | [] => found
  | '$' :: '$' :: rest => readDollars found rest
  | '$' :: rest => isDollarField rest && readDollars true rest
  | _ :: rest => readDollars found rest

/-- Whether every dollar sign of a format belongs to a field or is doubled, and there is a field. -/
def fitsDollars (cs : List Char) : Bool := readDollars false cs

end LogFormat

/-! ## Styles -/

/-- The styles of formats. -/
inductive LogStyle where
  | percent
  | braces
  | dollars
deriving DecidableEq, Repr

namespace LogStyle

/-- The style with a sign. -/
def ofSign? (sign : String) : Option LogStyle :=
  if sign = "%" then some .percent
  else if sign = "\x7b" then some .braces
  else if sign = "$" then some .dollars
  else none

/-- Whether a format of the style is accepted. -/
def accepts (style : LogStyle) (format : String) : Bool :=
  match style with
  | .percent => LogFormat.hasPercentField format.toList
  | .braces => LogFormat.fitsBraces format.toList
  | .dollars => LogFormat.fitsDollars format.toList

end LogStyle

end ChargingReport
