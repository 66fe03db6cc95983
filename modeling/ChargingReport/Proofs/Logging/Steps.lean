import ChargingReport.Logging.Configuration

/-!
# Steps on the loggers

* `Configuring.Leaves` says what holds before some steps, after them, and where they are refused.  The
  lemmas below it follow the ways in which steps are put together.
* `lookup_map_values` and `lookup_map_at` say what stands under a name after values were changed in
  place.
* `LoggingState.logger_update` and `LoggingState.logger_settleOthers` say which logger is which after
  the state was changed.
-/

namespace ChargingReport

/-! ## Before and after -/

namespace Configuring

variable {α β : Type} {P Q Q' R : LoggingState → Prop}

/-- From a state with `P`, the steps lead to one with `Q`, or they are refused in one with `R`. -/
def Leaves (P Q R : LoggingState → Prop) (x : Configuring α) : Prop :=
  ∀ s, P s → match x.run s with
    | (.ok _, s') => Q s'
    | (.error _, s') => R s'

theorem Leaves.bind {x : Configuring α} {f : α → Configuring β} (hx : Leaves P Q R x)
    (hf : ∀ a, Leaves Q Q' R (f a)) : Leaves P Q' R (x >>= f) := by
  intro s hs
  have hfirst := hx s hs
  have hrun : (x >>= f).run s = ExceptT.bindCont f (x.run s).1 (x.run s).2 := rfl
  rw [hrun]
  cases hend : x.run s with
  | mk answer s' =>
    rw [hend] at hfirst
    cases answer with
    | ok a => exact hf a s' hfirst
    | error e => exact hfirst

theorem Leaves.imp {P' : LoggingState → Prop} {x : Configuring α} (hx : Leaves P Q R x)
    (hP : ∀ s, P' s → P s) : Leaves P' Q R x :=
  fun s hs => hx s (hP s hs)

/-- The result of steps on a state. -/
theorem Leaves.result {x : Configuring α} (hx : Leaves P Q R x) {s : LoggingState} (hs : P s) :
    ((x.result s).error = none → Q (x.result s).state) ∧
      ((x.result s).error ≠ none → R (x.result s).state) := by
  have h := hx s hs
  unfold Configuring.result
  cases hend : x.run s with
  | mk answer s' =>
    rw [hend] at h
    cases answer with
    | ok a => exact ⟨fun _ => h, fun herror => absurd rfl herror⟩
    | error e => exact ⟨nofun, fun _ => h⟩

end Configuring

/-! ## Values under names -/

/-- The value of a name after all values were changed. -/
theorem lookup_map_values {α : Type} {g : String → α → α} (l : List (String × α)) (name : String) :
    (l.map fun p => (p.1, g p.1 p.2)).lookup name = (l.lookup name).map (g name) := by
  induction l with
  | nil => rfl
  | cons p l ih =>
    rw [List.map_cons, List.lookup_cons, List.lookup_cons, ih]
    by_cases h : name = p.1
    · simp [h]
    · simp [beq_eq_false_iff_ne.2 h]

/-- The value of a name after the values of one name were changed. -/
theorem lookup_map_at {α : Type} (l : List (String × α)) (name other : String) (change : α → α) :
    (l.map fun (key, v) => if key = name then (key, change v) else (key, v)).lookup other =
      if other = name then (l.lookup other).map change else l.lookup other := by
  have hmap : (l.map fun (key, v) => if key = name then (key, change v) else (key, v)) =
      l.map fun p => (p.1, if p.1 = name then change p.2 else p.2) :=
    List.map_congr_left fun p _ => by
      show (if p.1 = name then (p.1, change p.2) else (p.1, p.2)) = _
      split <;> rfl
  rw [hmap, lookup_map_values (g := fun key v => if key = name then change v else v)]
  by_cases h : other = name
  · simp [h]
  · simp [h]

/-! ## Which logger is which -/

namespace LoggingState

variable {s : LoggingState}

theorem logger_eq {name : String} (hname : isRootName name = false) :
    s.logger name = (s.loggers.lookup name).getD {} := by
  rw [logger, hname]
  rfl

/-- The loggers after a change of the logger with a name. -/
theorem logger_update (name : String) (change : Logger → Logger) {other : String}
    (hother : isRootName other = false) :
    (s.update name change).logger other =
      if other = name then change (s.logger other) else s.logger other := by
  rw [logger_eq hother, logger_eq hother]
  unfold update
  by_cases hroot : isRootName name = true
  · have hne : other ≠ name := fun h => by
      rw [h, hroot] at hother
      exact Bool.noConfusion hother
    rw [if_pos hroot, if_neg hne]
  rw [if_neg hroot]
  split
  · -- the name is there, and its values are changed in place
    rename_i hthere
    dsimp only
    rw [lookup_map_at]
    by_cases h : other = name
    · subst h
      obtain ⟨found, hfound⟩ := Option.isSome_iff_exists.1 hthere
      simp [hfound]
    · simp [h]
  · -- the name is new, and it comes behind the others
    rename_i hnew
    have hnone : s.loggers.lookup name = none := Option.not_isSome_iff_eq_none.1 hnew
    dsimp only
    by_cases h : other = name
    · subst h
      simp [List.lookup_append, hnone]
    · simp [List.lookup_append, List.lookup_cons, beq_eq_false_iff_ne.2 h, h]

/-- The loggers after the ones that are not listed were treated. -/
theorem logger_settleOthers (listed : List String) (silence : Bool) {name : String}
    (hname : isRootName name = false) :
    (s.settleOthers listed silence).logger name =
      ((s.loggers.lookup name).map fun logger =>
        if listed.contains name then logger
        else if listed.any fun above => !isRootName above && isBelow name above then
          { logger with level := Level.notSet, handlers := [] }
        else { logger with disabled := silence }).getD {} := by
  have hlookup := lookup_map_values (g := fun key (logger : Logger) =>
    if listed.contains key then logger
    else if listed.any fun above => !isRootName above && isBelow key above then
      { logger with level := Level.notSet, handlers := [] }
    else { logger with disabled := silence }) s.loggers name
  rw [logger_eq hname, settleOthers, ← hlookup]
  congr 2
  refine List.map_congr_left fun p _ => ?_
  dsimp only
  split
  · rfl
  · split <;> rfl

/-- A listed logger is left alone. -/
theorem logger_settleOthers_of_listed {listed : List String} (silence : Bool) {name : String}
    (hname : isRootName name = false) (hlisted : name ∈ listed) :
    (s.settleOthers listed silence).logger name = s.logger name := by
  have hcontains : listed.contains name = true := List.contains_iff_mem.2 hlisted
  rw [logger_settleOthers listed silence hname, logger_eq hname]
  simp only [hcontains, if_true, Option.map_id']

/-- A logger below a listed one is not switched on or off. -/
theorem disabled_settleOthers_of_below {listed : List String} (silence : Bool) {name above : String}
    (hname : isRootName name = false) (hlisted : above ∈ listed) (habove : isRootName above = false)
    (hbelow : isBelow name above = true) :
    ((s.settleOthers listed silence).logger name).disabled = (s.logger name).disabled := by
  have hany : (listed.any fun above => !isRootName above && isBelow name above) = true :=
    List.any_eq_true.2 ⟨above, hlisted, by rw [habove, hbelow]; rfl⟩
  rw [logger_settleOthers listed silence hname, logger_eq hname]
  simp only [hany, if_true]
  cases s.loggers.lookup name with
  | none => rfl
  | some logger =>
    simp only [Option.map_some, Option.getD_some]
    split <;> rfl

end LoggingState

end ChargingReport
