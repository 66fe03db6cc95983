import ChargingReport.Proofs.Web.Routing

/-!
# What requests are counted by

A label is the template of a route behind the part of the path that the template does not cover.  That
part is found by counting slashes from the end of the path.

There are three groups.

* Parts.  `beforeSlashes` leaves what stands in front of a slash, if the slashes from there on are
  counted off (`beforeSlashes_append`).
* Fillings.  `Fills` says which paths a template stands for.  They have the slashes of the template.
* Labels.  `label_of_slashes` is the label of a path behind a front, where the slashes are known.

`label_of_filling` puts the groups together.  A label has the whole front and the whole template,
whatever stands in the place of parameters.  `Routing.label_of_answered` is about the routes of a
table, which have nothing in front: they are always counted by their templates.
-/

namespace ChargingReport

/-! ## Parts -/

theorem length_splitAtChar (sep : Char) (cs : List Char) :
    (splitAtChar sep cs).length = cs.count sep + 1 := by
  induction cs with
  | nil => rfl
  | cons c cs ih =>
    by_cases hc : c = sep
    · rw [hc, splitAtChar_sep, List.length_cons, ih, List.count_cons_self]
    · obtain ⟨part, parts, hparts⟩ := List.exists_cons_of_ne_nil (splitAtChar_ne_nil sep cs)
      rw [hparts] at ih
      rw [splitAtChar_cons hc hparts, List.count_cons_of_ne hc, ← ih, List.length_cons,
        List.length_cons]

/-- The parts of a text, with the separator between them, are the text. -/
theorem intercalate_splitAtChar (sep : Char) (cs : List Char) :
    List.intercalate [sep] (splitAtChar sep cs) = cs := by
  induction cs with
  | nil => rfl
  | cons c cs ih =>
    by_cases hc : c = sep
    · rw [hc, splitAtChar_sep, List.intercalate_cons_of_ne_nil (splitAtChar_ne_nil sep cs), ih]
      rfl
    · obtain ⟨part, parts, hparts⟩ := List.exists_cons_of_ne_nil (splitAtChar_ne_nil sep cs)
      rw [hparts] at ih
      rw [splitAtChar_cons hc hparts]
      cases parts with
      | nil =>
        rw [List.intercalate_singleton] at ih ⊢
        rw [ih]
      | cons next rest =>
        rw [List.intercalate_cons_cons] at ih ⊢
        rw [← ih]
        rfl

/-! ## In front of the last slashes -/

theorem beforeSlashes_eq (n : Nat) (cs : List Char) : beforeSlashes n cs =
    List.intercalate ['/'] ((splitAtChar '/' cs).take (slashCount cs + 1 - n)) := by
  rw [slashCount, ← length_splitAtChar]
  rfl

/-- What stands behind a slash is counted off. -/
theorem beforeSlashes_append (front rest : List Char) :
    beforeSlashes (slashCount ('/' :: rest)) (front ++ '/' :: rest) = front := by
  have hcount : slashCount (front ++ '/' :: rest) + 1 - slashCount ('/' :: rest) =
      (splitAtChar '/' front).length := by
    have happend : slashCount (front ++ '/' :: rest) =
        slashCount front + slashCount ('/' :: rest) := List.count_append
    have hparts := length_splitAtChar '/' front
    unfold slashCount at happend ⊢
    omega
  rw [beforeSlashes_eq, hcount, splitAtChar_append_sep, List.take_left, intercalate_splitAtChar]

/-- The text is empty or starts with a slash. -/
def IsFront (cs : List Char) : Prop := cs = [] ∨ cs.head? = some '/'

instance (cs : List Char) : Decidable (IsFront cs) := by
  unfold IsFront
  infer_instance

theorem IsFront.eq_nil_of_slashCount {front : List Char} (hfront : IsFront front)
    (h : slashCount front = 0) : front = [] := by
  rcases hfront with hnil | hhead
  · exact hnil
  · have hmem : '/' ∈ front := List.mem_of_head? hhead
    exact absurd hmem (List.count_eq_zero.1 h)

/-! ## Fillings -/

/-- The path has a text without slashes, which is not empty, in place of every parameter of the
template. -/
inductive Fills : List Char → List Char → Prop where
  | nil : Fills [] []
  | literal (c : Char) {template path : List Char} (rest : Fills template path) :
    Fills (c :: template) (c :: path)
  | parameter {name value template path : List Char} (hname : '/' ∉ name) (hne : value ≠ [])
    (hvalue : '/' ∉ value) (rest : Fills template path) :
    Fills ('\x7b' :: name ++ '\x7d' :: template) (value ++ path)

namespace Fills

variable {template path : List Char}

theorem literals (front : List Char) (h : Fills template path) :
    Fills (front ++ template) (front ++ path) := by
  induction front with
  | nil => exact h
  | cons c front ih => exact ih.literal c

theorem slashCount_eq (h : Fills template path) : slashCount path = slashCount template := by
  induction h with
  | nil => rfl
  | literal c rest ih =>
    unfold slashCount at ih ⊢
    rw [List.count_cons, List.count_cons, ih]
  | parameter hname hne hvalue rest ih =>
    unfold slashCount at ih ⊢
    rw [List.count_append, List.count_append, List.count_eq_zero.2 hvalue,
      List.count_cons_of_ne (by decide), List.count_eq_zero.2 hname,
      List.count_cons_of_ne (by decide), ih]

theorem exists_slash (h : Fills template path) (hhead : template.head? = some '/') :
    ∃ rest, path = '/' :: rest := by
  cases h with
  | nil => cases hhead
  | literal c rest =>
    cases hhead
    exact ⟨_, rfl⟩
  | parameter hname hne hvalue rest => cases hhead

end Fills

/-! ## Labels -/

section Labels

variable {front path : List Char} {template : String}

/-- A path that has no more slashes than the template is counted by the template. -/
theorem label_of_slashCount_le (h : slashCount path ≤ slashCount template.toList) :
    routeLabel (String.ofList path) (some template) = template := by
  simp only [routeLabel, String.toList_ofList]
  rw [if_neg (by omega), List.nil_append, String.ofList_toList]

/-- What stands in front of the slashes of the template is put back. -/
theorem label_of_slashes (hfront : IsFront front)
    (h : slashCount template.toList = slashCount ('/' :: path)) :
    routeLabel (String.ofList (front ++ '/' :: path)) (some template) =
      String.ofList front ++ template := by
  have hcount : slashCount (front ++ '/' :: path) = slashCount front + slashCount ('/' :: path) :=
    List.count_append
  by_cases hempty : slashCount front = 0
  · rw [hfront.eq_nil_of_slashCount hempty, List.nil_append, label_of_slashCount_le (by omega)]
    exact String.empty_append.symm
  · simp only [routeLabel, String.toList_ofList]
    rw [if_pos (by omega), h, beforeSlashes_append, String.ofList_append, String.ofList_toList]

/-- A template behind its front is filled by the paths of the template behind the front. -/
theorem label_of_whole_template (hfills : Fills template.toList path) :
    routeLabel (String.ofList (front ++ path)) (some (String.ofList front ++ template)) =
      String.ofList front ++ template := by
  have hsame := (hfills.literals front).slashCount_eq
  refine label_of_slashCount_le (Nat.le_of_eq ?_)
  rw [hsame, String.toList_append, String.toList_ofList]

/-- The label of a filled template is the whole front and the whole template, whether the route
reports its template with the front or without.  So it is one label for all fillings. -/
theorem label_of_filling (hfront : IsFront front) (hhead : template.toList.head? = some '/')
    (hfills : Fills template.toList path) {reported : String}
    (hreported : reported = template ∨ reported = String.ofList front ++ template) :
    routeLabel (String.ofList (front ++ path)) (some reported) = String.ofList front ++ template ∧
    ∀ other reported', Fills template.toList other →
      (reported' = template ∨ reported' = String.ofList front ++ template) →
      routeLabel (String.ofList (front ++ other)) (some reported') =
        routeLabel (String.ofList (front ++ path)) (some reported) := by
  have hlabel : ∀ filled name, Fills template.toList filled →
      (name = template ∨ name = String.ofList front ++ template) →
      routeLabel (String.ofList (front ++ filled)) (some name) = String.ofList front ++ template := by
    intro filled name hfilled hname
    rcases hname with rfl | rfl
    · have hsame := hfilled.slashCount_eq
      obtain ⟨rest, rfl⟩ := hfilled.exists_slash hhead
      exact label_of_slashes hfront hsame.symm
    · exact label_of_whole_template hfilled
  have hpath := hlabel path reported hfills hreported
  refine ⟨hpath, fun other reported' hother hreported' => ?_⟩
  rw [hpath, hlabel other reported' hother hreported']

end Labels

/-- A template with one parameter. -/
def itemTemplate : String := "/a/\x7bid\x7d/b"

theorem fills_itemTemplate (value : List Char) (hne : value ≠ []) (hvalue : '/' ∉ value) :
    Fills itemTemplate.toList ("/a/".toList ++ (value ++ "/b".toList)) := by
  have hrest : Fills "/b".toList "/b".toList := Fills.nil.literals "/b".toList
  exact (Fills.parameter (by decide : '/' ∉ "id".toList) hne hvalue hrest).literals "/a/".toList

/-- A path behind a prefix, with a question mark in the place of the parameter, and its label. -/
theorem label_of_filling_item :
    routeLabel "/api/a/x?y/b" (some itemTemplate) = "/api/a/\x7bid\x7d/b" := by
  have hfront : IsFront "/api".toList := by decide
  have hfills := fills_itemTemplate "x?y".toList (by decide) (by decide)
  exact (label_of_filling hfront (by decide) hfills (Or.inl rfl)).1

/-! ## Routes -/

theorem length_templateParts (template : String) :
    (templateParts template).length = slashCount template.toList + 1 := by
  rw [templateParts, List.length_map, length_splitAtChar, slashCount]

theorem matchParts_length {parts : List TemplatePart} {segments : List (List Char)}
    {values : List String} (h : matchParts parts segments = some values) :
    segments.length = parts.length := by
  induction parts generalizing segments values with
  | nil =>
    cases segments with
    | nil => rfl
    | cons segment segments => cases h
  | cons part parts ih =>
    cases segments with
    | nil => cases part <;> cases h
    | cons segment segments =>
      cases part with
      | literal text =>
        rw [matchParts] at h
        split at h
        · rw [List.length_cons, List.length_cons, ih h]
        · split at h
          · rename_i hlast
            simp only [Bool.and_eq_true, List.isEmpty_iff] at hlast
            rw [hlast.1.1, hlast.1.2]
            rfl
          · cases h
      | parameter =>
        rw [matchParts] at h
        split at h
        · cases h
        · obtain ⟨rest, hrest, -⟩ := Option.map_eq_some_iff.1 h
          rw [List.length_cons, List.length_cons, ih hrest]

/-- A path that fits a template has its slashes. -/
theorem Route.slashCount_of_fits {r : Route} {path : List Char} (h : r.fits path = true) :
    slashCount path = slashCount r.template.toList := by
  obtain ⟨values, hvalues⟩ := Option.isSome_iff_exists.1 h
  have hlength := matchParts_length hvalues
  rw [length_templateParts, length_splitAtChar] at hlength
  exact Nat.succ.inj hlength

/-- A request that a route of the table answers is counted by the template of the route, whatever is
in its path. -/
theorem Routing.label_of_answered {routes : List Route} {method : String} {path : List Char}
    {route : Route} {values : List String}
    (h : Routing.ofRequest routes method path = .answered route values) :
    routeLabel (String.ofList path) (some route.template) = route.template := by
  have hfits : route.fits path = true := by
    unfold ofRequest at h
    dsimp only at h
    split at h
    · rename_i found hfound
      cases h
      exact (List.mem_filter.1 (List.mem_of_find?_eq_some hfound)).2
    · split at h
      · cases h
      · split at h
        · cases h
        · cases h
  exact label_of_slashCount_le (Nat.le_of_eq (Route.slashCount_of_fits hfits))

end ChargingReport
