import ChargingReport.Calendar.Zone
import ChargingReport.Text.Percent

/-!
# Request targets

A target names a path and may carry parameters behind a question mark. `Target.parse` reads a target
as a client sends it: the fragment is cut, a host in front is dropped, and dots are resolved before
percent signs are read. Percent signs are read twice on the way, once by the client and once by the
server.
-/

namespace ChargingReport

/-- A path and the text of its parameters. -/
structure Target where
  path : List Char
  query : List Char

/-- Resolves single and double dots among the segments of a path. Nothing lies above the root. -/
def resolveDots : List (List Char) → List (List Char) → List (List Char)
  | [], done => done
  | segment :: rest, done =>
    if segment = ['.'] then resolveDots rest done
    else if segment = ['.', '.'] then
      resolveDots rest (if done.isEmpty || done == [[]] then done else done.dropLast)
    else resolveDots rest (done ++ [segment])

/-- A path without dots that can be resolved. -/
def resolvedPath (path : List Char) : List Char :=
  List.intercalate ['/'] (resolveDots (splitAtChar '/' path) [])

/-- Drops a host in front of a path, behind two slashes. -/
def dropHost (cs : List Char) : List Char :=
  match cs with
  | '/' :: '/' :: rest => rest.dropWhile fun c => c != '/' && c != '?'
  | _ => cs

namespace Target

/-- The target of a path with parameters, where percent signs are still to be read. -/
def ofText (cs : List Char) : Target :=
  let path := resolvedPath (cs.takeWhile (· != '?'))
  ⟨percentDecode (percentDecode path), (cs.dropWhile (· != '?')).drop 1⟩

/-- Reads the target of a request. The path begins with one slash. -/
def parse (s : String) : Target :=
  let cs := dropHost (s.toList.takeWhile (· != '#'))
  ofText ('/' :: cs.dropWhile (· == '/'))

/-- The target that a redirect to another path leads to. The parameters stay. -/
def redirected (t : Target) (path : List Char) : Target :=
  let text := path ++ (if t.query.isEmpty then [] else '?' :: t.query)
  ofText (text.takeWhile (· != '#'))

end Target

/-! ## Parameters -/

/-- A text of a parameter, where a plus stands for a blank. -/
def decodeParameter (cs : List Char) : String :=
  String.ofList (percentDecode (cs.map fun c => if c = '+' then ' ' else c))

/-- A parameter: its name, and its value behind the first equals sign. -/
def readParameter (cs : List Char) : String × String :=
  (decodeParameter (cs.takeWhile (· != '=')), decodeParameter ((cs.dropWhile (· != '=')).drop 1))

/-- The parameters of a target, with ampersands between them. -/
def Target.parameters (t : Target) : List (String × String) :=
  ((splitAtChar '&' t.query).filter fun part => !part.isEmpty).map readParameter

/-- Parameters of a target and further ones. Of one name, the further ones count, and of these the
last. -/
def mergeParameters (own further : List (String × String)) : List (String × String) :=
  further.reverse ++ own.reverse

end ChargingReport
