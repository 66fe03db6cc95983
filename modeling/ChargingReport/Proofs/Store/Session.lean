import ChargingReport.Store.Session
import ChargingReport.Proofs.Store.Writes

/-!
# What a session leaves

* `Session.run_bind_ok` and `Session.run_bind_error` run a session step by step.  A step that fails
  ends it, with the working store as it is then.
* `Session.run_insert` and `Session.run_insertAll_ok` are the steps that write.
* `Session.scope_of_ok` and `Session.scope_of_error` say what the scope makes of this.  Around a list
  of drafts it adds all of them or none (`Session.scope_insertAll`).
-/

namespace ChargingReport

namespace Session

variable {schema : Schema} {s s' : Store} {α β : Type}

/-! ## Steps -/

theorem run_bind (x : Session α) (f : α → Session β) (s : Store) :
    (x >>= f).run s = ExceptT.bindCont f (x.run s).1 (x.run s).2 := rfl

theorem run_bind_ok {x : Session α} {f : α → Session β} {a : α} (h : x.run s = (.ok a, s')) :
    (x >>= f).run s = (f a).run s' := by
  rw [run_bind, h]
  rfl

theorem run_bind_error {x : Session α} {f : α → Session β} {e : Failure}
    (h : x.run s = (.error e, s')) : (x >>= f).run s = (.error e, s') := by
  rw [run_bind, h]
  rfl

theorem run_ofExcept_ok {x : Except Failure α} {a : α} (h : x = .ok a) :
    (ofExcept x).run s = (.ok a, s) := by
  rw [h]
  rfl

/-! ## Writes -/

theorem run_insert (draft : Draft) : (insert schema draft).run s =
    match s.insert schema draft with
    | .ok (key, s') => (.ok key, s')
    | .error e => (.error (.write e), s) := by
  show ExceptT.run (match s.insert schema draft with
    | .ok (key, s') => (do set s'; return key : Session Int)
    | .error e => throw (.write e)) s = _
  cases s.insert schema draft with
  | ok found => rfl
  | error e => rfl

theorem run_insert_ok {draft : Draft} {key : Int} (h : s.insert schema draft = .ok (key, s')) :
    (insert schema draft).run s = (.ok key, s') := by
  rw [run_insert, h]

theorem run_insert_error {draft : Draft} {e : WriteError} (h : s.insert schema draft = .error e) :
    (insert schema draft).run s = (.error (.write e), s) := by
  rw [run_insert, h]

theorem run_insertAll_ok {drafts : List Draft} {keys : List Int}
    (h : s.insertAll schema drafts = .ok (keys, s')) :
    (insertAll schema drafts).run s = (.ok keys, s') := by
  induction drafts generalizing s keys with
  | nil =>
    cases h
    rfl
  | cons draft rest ih =>
    obtain ⟨⟨key, s₁⟩, hfirst, h⟩ := bind_eq_ok.1 h
    obtain ⟨⟨keys', s₂⟩, hrest, h⟩ := bind_eq_ok.1 h
    cases h
    rw [insertAll, run_bind_ok (run_insert_ok hfirst), run_bind_ok (ih hrest)]
    rfl

/-- If one of the drafts is rejected, those before it stand in the working store. -/
theorem run_insertAll_error {drafts : List Draft} {e : WriteError}
    (h : s.insertAll schema drafts = .error e) :
    ∃ working, (insertAll schema drafts).run s = (.error (.write e), working) := by
  induction drafts generalizing s with
  | nil => cases h
  | cons draft rest ih =>
    cases hfirst : s.insert schema draft with
    | error e' =>
      rw [Store.insertAll, hfirst] at h
      cases h
      exact ⟨s, by rw [insertAll, run_bind_error (run_insert_error hfirst)]⟩
    | ok found =>
      obtain ⟨key, s₁⟩ := found
      have hrest : s₁.insertAll schema rest = .error e := by
        cases hrest : s₁.insertAll schema rest with
        | error e' =>
          rw [Store.insertAll, hfirst] at h
          simp only [bind, Except.bind, hrest] at h
          rw [h]
        | ok found =>
          rw [Store.insertAll, hfirst] at h
          simp only [bind, Except.bind, hrest] at h
          cases h
      obtain ⟨working, hrun⟩ := ih hrest
      exact ⟨working, by rw [insertAll, run_bind_ok (run_insert_ok hfirst), run_bind_error hrun]⟩

/-! ## The scope -/

theorem scope_of_ok {session : Session α} {a : α} (h : session.run s = (.ok a, s')) :
    session.scope s = (.ok a, s') := by
  rw [scope, h]

/-- A session that fails changes nothing. -/
theorem scope_of_error {session : Session α} {e : Failure} (h : session.run s = (.error e, s')) :
    session.scope s = (.error e, s) := by
  rw [scope, h]

/-- A scope around some drafts adds what `Store.insertAll` adds. -/
theorem scope_insertAll (drafts : List Draft) : (insertAll schema drafts).scope s =
    match s.insertAll schema drafts with
    | .ok (keys, s') => (.ok keys, s')
    | .error e => (.error (.write e), s) := by
  cases h : s.insertAll schema drafts with
  | ok found => exact scope_of_ok (run_insertAll_ok h)
  | error e =>
    obtain ⟨working, hrun⟩ := run_insertAll_error h
    exact scope_of_error hrun

end Session

end ChargingReport
