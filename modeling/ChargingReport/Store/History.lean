import ChargingReport.Store.Write

/-!
# Histories of writes

A `Write` is what is written in one go: some drafts, all of them or none, or the two stop columns of
a session.  `Store.after` is the store after a write, and a write that is rejected leaves the store
that was there.  `Store.run` is the store after a list of writes.
-/

namespace ChargingReport

/-- What is written in one go. -/
inductive Write where
  /-- Adds drafts in order, or none of them. -/
  | add (drafts : List Draft)
  /-- Sets the stop time and the stop value of a session. -/
  | stop (pk : Int) (time : Option Stamp) (value : Option String)

namespace Store

/-- The store after a write that is accepted.  A stop of a session that is not there is accepted and
changes nothing. -/
def write (schema : Schema) (s : Store) : Write → Except WriteError Store
  | .add drafts => (s.insertAll schema drafts).map Prod.snd
  | .stop pk time value => (s.stop schema pk time value).map fun found =>
    match found with
    | some (_, stopped) => stopped
    | none => s

/-- The store after a write, accepted or rejected. -/
def after (schema : Schema) (s : Store) (w : Write) : Store :=
  match s.write schema w with
  | .ok s' => s'
  | .error _ => s

/-- The store after some writes, one after the other. -/
def run (schema : Schema) (s : Store) (writes : List Write) : Store := writes.foldl (after schema) s

end Store

end ChargingReport
