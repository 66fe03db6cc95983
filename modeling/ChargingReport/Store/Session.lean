import ChargingReport.Failure
import ChargingReport.Store.Write

/-!
# Sessions with the database

A `Session` reads and writes a working store, and may fail on the way. Each of its writes stands in
the working store at once, so that later steps see it.

`Session.scope` runs a session on a store. What it wrote is kept if it ends normally, and all of it
is taken back if it fails.
-/

namespace ChargingReport

/-- Steps on a working store, which may fail. -/
abbrev Session (α : Type) := ExceptT Failure (StateM Store) α

namespace Session

/-- Adds the row of a draft. The answer is its key. -/
def insert (schema : Schema) (draft : Draft) : Session Int := do
  match (← get).insert schema draft with
  | .ok (key, s) =>
    set s
    return key
  | .error e => throw (.write e)

/-- Adds the rows of drafts, one after the other. The answer is their keys. -/
def insertAll (schema : Schema) : List Draft → Session (List Int)
  | [] => return []
  | draft :: rest => do
    let key ← insert schema draft
    let keys ← insertAll schema rest
    return key :: keys

/-- A step that does not look at the store. -/
def ofExcept {α : Type} (x : Except Failure α) : Session α := ExceptT.mk (pure x)

/-- Runs a session on a store, and gives its answer and the store afterwards. -/
def scope {α : Type} (session : Session α) (s : Store) : Except Failure α × Store :=
  match session.run s with
  | (.ok a, working) => (.ok a, working)
  | (.error f, _) => (.error f, s)

end Session

end ChargingReport
