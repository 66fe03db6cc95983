import Mathlib.Data.List.Forall2

/-!
# Computations that may fail

* `bind_eq_ok` takes a computation in two steps apart.
* `exists_mapM_ok` is a list all of whose elements can be mapped.  `mapM_filter_ok` and
  `mapM_sublist_ok` keep a part of such a list.
* `forall₂_mem_left` and `forall₂_mem_right` find the partner of an element.
-/

namespace ChargingReport

/-- A computation in two steps answers if both of them do. -/
theorem bind_eq_ok {ε α β : Type} {x : Except ε α} {f : α → Except ε β} {b : β} :
    (x >>= f) = .ok b ↔ ∃ a, x = .ok a ∧ f a = .ok b := by
  cases x with
  | error e => exact ⟨nofun, nofun⟩
  | ok a =>
    constructor
    · exact fun h => ⟨a, rfl, h⟩
    · rintro ⟨a', ha, h⟩
      cases ha
      exact h

/-- A computation whose answer is changed answers if it did before. -/
theorem map_eq_ok {ε α β : Type} {x : Except ε α} {f : α → β} {b : β} :
    x.map f = .ok b ↔ ∃ a, x = .ok a ∧ f a = b := by
  cases x with
  | error e => exact ⟨nofun, nofun⟩
  | ok a => simp [Except.map]

theorem mapError_eq_ok {ε ε' α : Type} {x : Except ε α} {f : ε → ε'} {a : α} :
    x.mapError f = .ok a ↔ x = .ok a := by
  cases x with
  | error e => exact ⟨nofun, nofun⟩
  | ok a' => simp [Except.mapError]

/-- A list can be mapped if all its elements can, and then the answers go with the elements. -/
theorem exists_mapM_ok {ε α β : Type} {f : α → Except ε β} {xs : List α}
    (h : ∀ x ∈ xs, ∃ y, f x = .ok y) :
    ∃ ys, xs.mapM f = .ok ys ∧ List.Forall₂ (fun x y => f x = .ok y) xs ys := by
  induction xs with
  | nil => exact ⟨[], rfl, .nil⟩
  | cons x xs ih =>
    obtain ⟨y, hy⟩ := h x List.mem_cons_self
    obtain ⟨ys, hys, hall⟩ := ih fun x hx => h x (List.mem_cons_of_mem _ hx)
    refine ⟨y :: ys, ?_, .cons hy hall⟩
    rw [List.mapM_cons, hy, hys]
    rfl

/-- The answers of a list go with its elements. -/
theorem forall₂_of_mapM_ok {ε α β : Type} {f : α → Except ε β} {xs : List α} {ys : List β}
    (h : xs.mapM f = .ok ys) : List.Forall₂ (fun x y => f x = .ok y) xs ys := by
  induction xs generalizing ys with
  | nil =>
    cases h
    exact .nil
  | cons x xs ih =>
    rw [List.mapM_cons] at h
    obtain ⟨y, hy, h⟩ := bind_eq_ok.1 h
    obtain ⟨rest, hrest, h⟩ := bind_eq_ok.1 h
    cases h
    exact .cons hy (ih hrest)

/-- A part of a list has the same part of its answers, if both parts are told apart alike. -/
theorem mapM_filter_ok {ε α β : Type} {f : α → Except ε β} {xs : List α} {ys : List β}
    {p : α → Bool} {q : β → Bool} (h : xs.mapM f = .ok ys)
    (hpq : ∀ x y, f x = .ok y → q y = p x) : (xs.filter p).mapM f = .ok (ys.filter q) := by
  have hall := forall₂_of_mapM_ok h
  clear h
  induction hall with
  | nil => rfl
  | @cons x y xs ys hxy _ ih =>
    have hkept := hpq x y hxy
    by_cases hx : p x = true
    · have hy : q y = true := hkept.trans hx
      rw [List.filter_cons_of_pos hx, List.filter_cons_of_pos hy, List.mapM_cons, hxy, ih]
      rfl
    · have hy : ¬ q y = true := by
        rw [hkept]
        exact hx
      rw [List.filter_cons_of_neg hx, List.filter_cons_of_neg hy]
      exact ih

/-- A part of a list has a part of its answers, in the same order. -/
theorem mapM_sublist_ok {ε α β : Type} {f : α → Except ε β} {xs part : List α} {ys : List β}
    (h : xs.mapM f = .ok ys) (hpart : part.Sublist xs) :
    ∃ zs, part.mapM f = .ok zs ∧ zs.Sublist ys := by
  have hall := forall₂_of_mapM_ok h
  clear h
  induction hpart generalizing ys with
  | slnil => exact ⟨[], rfl, List.nil_sublist _⟩
  | cons x _ ih =>
    cases hall with
    | cons hxy hall =>
      obtain ⟨zs, hzs, hsub⟩ := ih hall
      exact ⟨zs, hzs, hsub.cons _⟩
  | cons_cons x _ ih =>
    cases hall with
    | @cons _ y _ _ hxy hall =>
      obtain ⟨zs, hzs, hsub⟩ := ih hall
      refine ⟨y :: zs, ?_, hsub.cons_cons y⟩
      rw [List.mapM_cons, hxy, hzs]
      rfl

theorem forall₂_mem_left {α β : Type} {R : α → β → Prop} {xs : List α} {ys : List β}
    (h : List.Forall₂ R xs ys) {x : α} (hx : x ∈ xs) : ∃ y ∈ ys, R x y := by
  induction h with
  | nil => cases hx
  | cons hab _ ih =>
    rcases List.mem_cons.1 hx with rfl | hx
    · exact ⟨_, List.mem_cons_self, hab⟩
    · obtain ⟨y, hy, hxy⟩ := ih hx
      exact ⟨y, List.mem_cons_of_mem _ hy, hxy⟩

theorem forall₂_mem_right {α β : Type} {R : α → β → Prop} {xs : List α} {ys : List β}
    (h : List.Forall₂ R xs ys) {y : β} (hy : y ∈ ys) : ∃ x ∈ xs, R x y :=
  forall₂_mem_left (R := fun y x => R x y) (List.Forall₂.flip h) hy

end ChargingReport
