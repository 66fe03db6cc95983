import ChargingReport.Proofs.Store.Constraints
import ChargingReport.Query.Select
import Mathlib.Data.List.Sort

/-!
# Joined and selected rows

What a selection holds, how often, and in which order.

* Membership.  `mem_joinOn` and `mem_selected` are the rule, and `Store.mem_connected` and
  `Store.mem_completed` say which rows two and four tables make.
* Multiplicity.  A join along a key finds at most one row, so it repeats no row of its left side
  (`map_joinOn_sublist`).  Hence no session is in a selection twice.  `find?_eq_of_nodup` is the same
  for a lookup.
* Changes.  Rows that are changed in columns that nobody looks at are joined and selected as before
  (`joinOn_map`, `selected_map`).
* Order.  A sort keeps the order of equals, so rows can be selected before or after they are sorted
  (`filter_mergeSort`, `selected_eq_filter`).  `selected_pairwise` says that keys fall strictly, so
  selections with the same members are equal (`eq_of_falling`), and narrower conditions select a part
  (`selected_filter`).
* `Store.map_exported_listed` compares the two selections: the listed rows are the exported rows
  whose station and tag are there.
-/

namespace ChargingReport

/-! ## Membership -/

section Join

variable {α β γ κ : Type} {rows : List α} {table : List β} {fits : α → β → Bool} {pair : α → β → γ}

theorem mem_joinOn {r : γ} :
    r ∈ joinOn rows table fits pair ↔ ∃ a ∈ rows, ∃ b ∈ table, fits a b = true ∧ pair a b = r := by
  simp only [joinOn, List.mem_flatMap, List.mem_map, List.mem_filter, and_assoc]

/-- A join that finds at most one row for every row of its left side keeps what is read off that
side, in order and without repetition. -/
theorem map_joinOn_sublist {key : α → κ} {joined : γ → κ} (hkey : ∀ a b, joined (pair a b) = key a)
    (hone : ∀ a, (table.filter (fits a)).length ≤ 1) :
    ((joinOn rows table fits pair).map joined).Sublist (rows.map key) := by
  induction rows with
  | nil => exact List.Sublist.slnil
  | cons a rows ih =>
    have hcons : (joinOn (a :: rows) table fits pair).map joined =
        (table.filter (fits a)).map (fun _ => key a) ++
          (joinOn rows table fits pair).map joined := by
      simp only [joinOn, List.flatMap_cons, List.map_append, List.map_map, Function.comp_def, hkey]
    rw [hcons, List.map_cons]
    match hfound : table.filter (fits a) with
    | [] => exact ih.cons _
    | [b] => exact ih.cons_cons _
    | b :: c :: more =>
      have := hone a
      rw [hfound] at this
      simp at this

/-- Rows of the left side can be changed before or after a join that does not look at the change. -/
theorem joinOn_map {change : α → α} {changed : γ → γ} (hfits : ∀ a b, fits (change a) b = fits a b)
    (hpair : ∀ a b, pair (change a) b = changed (pair a b)) :
    joinOn (rows.map change) table fits pair = (joinOn rows table fits pair).map changed := by
  have hrow : ∀ a, (table.filter (fits (change a))).map (pair (change a)) =
      ((table.filter (fits a)).map (pair a)).map changed := by
    intro a
    rw [List.map_map, funext (hfits a), funext (hpair a)]
    rfl
  simp only [joinOn, List.flatMap_map, List.map_flatMap, hrow]

/-- A condition that fixes a key finds at most one row. -/
theorem length_filter_le_one {key : β → κ} (hkeys : (table.map key).Nodup) {found : β → Bool}
    {k : κ} (hfound : ∀ b, found b = true → key b = k) : (table.filter found).length ≤ 1 := by
  have hnodup : ((table.filter found).map key).Nodup := hkeys.sublist (List.filter_sublist.map key)
  have hall : (table.filter found).map key = List.replicate (table.filter found).length k := by
    rw [List.eq_replicate_iff]
    refine ⟨List.length_map _, fun x hx => ?_⟩
    obtain ⟨b, hb, rfl⟩ := List.mem_map.1 hx
    exact hfound b (List.mem_filter.1 hb).2
  rw [hall] at hnodup
  exact List.nodup_replicate.1 hnodup

/-- A condition that fixes the key of a row finds this row. -/
theorem find?_eq_of_nodup {key : β → κ} (hkeys : (table.map key).Nodup) {found : β → Bool} {b : β}
    (hb : b ∈ table) (hself : found b = true) (hfound : ∀ c, found c = true → key c = key b) :
    table.find? found = some b := by
  obtain ⟨c, hc⟩ := Option.isSome_iff_exists.1 (List.find?_isSome.2 ⟨b, hb, hself⟩)
  have hmem := List.mem_of_find?_eq_some hc
  rw [hc, List.inj_on_of_nodup_map hkeys hmem hb (hfound c (List.find?_some hc))]

end Join

/-! ## Order -/

section StableSort

variable {α : Type} {le : α → α → Bool}
  (trans : ∀ a b c, le a b = true → le b c = true → le a c = true)
  (total : ∀ a b, (le a b || le b a) = true)
include trans total

/-- A further element goes behind what is below it, and in front of the rest. -/
theorem mergeSort_cons_eq (a : α) (xs : List α) :
    (a :: xs).mergeSort le = (xs.mergeSort le).filter (fun b => !le a b) ++
      a :: (xs.mergeSort le).filter (le a) := by
  obtain ⟨front, back, hsort, hrest, hfront⟩ := List.mergeSort_cons trans total a xs
  have hsorted := List.pairwise_mergeSort trans total (a :: xs)
  rw [hsort] at hsorted
  have hback : ∀ b ∈ back, le a b = true :=
    (List.pairwise_cons.1 (List.pairwise_append.1 hsorted).2.1).1
  have hnone : back.filter (fun b => !le a b) = [] :=
    List.filter_eq_nil_iff.2 fun b hb => by simp [hback b hb]
  have hnone' : front.filter (le a) = [] :=
    List.filter_eq_nil_iff.2 fun b hb hle => by simpa [hle] using hfront b hb
  rw [hsort, hrest, List.filter_append, List.filter_append, List.filter_eq_self.2 hfront,
    List.filter_eq_self.2 hback, hnone, hnone', List.append_nil, List.nil_append]

/-- A sort keeps the order of equals, so what a filter leaves can be sorted before or after it. -/
theorem filter_mergeSort (p : α → Bool) (xs : List α) :
    (xs.mergeSort le).filter p = (xs.filter p).mergeSort le := by
  induction xs with
  | nil => rw [List.mergeSort_nil, List.filter_nil, List.mergeSort_nil]
  | cons a xs ih =>
    by_cases ha : p a = true
    · rw [mergeSort_cons_eq trans total, List.filter_append, List.filter_cons_of_pos ha,
        List.filter_cons_of_pos ha, List.filter_comm p, List.filter_comm p, ih,
        mergeSort_cons_eq trans total]
    · obtain ⟨front, back, hsort, hrest, -⟩ := List.mergeSort_cons trans total a xs
      rw [hsort, List.filter_append, List.filter_cons_of_neg ha, List.filter_cons_of_neg ha,
        ← List.filter_append, ← hrest, ih]

end StableSort

section Selected

variable {α : Type} {session : α → ExportedRow} {conditions : List Condition} {rows : List α}

/-- Rows are sorted by an order of their keys that is total. -/
theorem keysFall_trans (session : α → ExportedRow) (a b c : α)
    (hab : decide ((session b).transaction.pk ≤ (session a).transaction.pk) = true)
    (hbc : decide ((session c).transaction.pk ≤ (session b).transaction.pk) = true) :
    decide ((session c).transaction.pk ≤ (session a).transaction.pk) = true := by
  simp only [decide_eq_true_eq] at hab hbc ⊢
  omega

theorem keysFall_total (session : α → ExportedRow) (a b : α) :
    (decide ((session b).transaction.pk ≤ (session a).transaction.pk) ||
      decide ((session a).transaction.pk ≤ (session b).transaction.pk)) = true := by
  simp only [Bool.or_eq_true, decide_eq_true_eq]
  omega

theorem newestFirst_perm (session : α → ExportedRow) (rows : List α) :
    (newestFirst session rows).Perm rows :=
  List.mergeSort_perm _ _

theorem newestFirst_singleton (session : α → ExportedRow) (r : α) : newestFirst session [r] = [r] :=
  List.mergeSort_singleton r

/-- Sorted rows have falling keys.  They fall strictly where no key is repeated. -/
theorem newestFirst_pairwise (hkeys : (rows.map fun r => (session r).transaction.pk).Nodup) :
    (newestFirst session rows).Pairwise fun a b =>
      (session b).transaction.pk < (session a).transaction.pk := by
  have hperm := newestFirst_perm session rows
  have hsorted : (newestFirst session rows).Pairwise fun a b =>
      decide ((session b).transaction.pk ≤ (session a).transaction.pk) = true :=
    List.pairwise_mergeSort (keysFall_trans session) (keysFall_total session) rows
  have hdistinct := List.pairwise_map.1 ((hperm.map _).nodup_iff.2 hkeys)
  refine (hsorted.and hdistinct).imp fun {a b} hab => ?_
  obtain ⟨hle, hne⟩ := hab
  simp only [decide_eq_true_eq] at hle
  omega

/-- A selection keeps the rows that meet its conditions, in the order of all rows. -/
theorem selected_eq_filter :
    selected session conditions rows =
      (newestFirst session rows).filter fun r => (session r).meets conditions :=
  (filter_mergeSort (keysFall_trans session) (keysFall_total session) _ rows).symm

theorem mem_selected {r : α} :
    r ∈ selected session conditions rows ↔ r ∈ rows ∧ (session r).meets conditions = true := by
  rw [selected, (newestFirst_perm _ _).mem_iff, List.mem_filter]

/-- A selection keeps the order of keys, the greatest first. -/
theorem selected_pairwise (hkeys : (rows.map fun r => (session r).transaction.pk).Nodup) :
    (selected session conditions rows).Pairwise fun a b =>
      (session b).transaction.pk < (session a).transaction.pk :=
  newestFirst_pairwise (hkeys.sublist (List.filter_sublist.map _))

/-- Rows can be changed before or after a selection that does not look at the change. -/
theorem selected_map {change : α → α}
    (hkey : ∀ r, (session (change r)).transaction.pk = (session r).transaction.pk)
    (hmeets : ∀ r, (session (change r)).meets conditions = (session r).meets conditions) :
    selected session conditions (rows.map change) =
      (selected session conditions rows).map change := by
  have hkept : (fun r => (session r).meets conditions) ∘ change =
      fun r => (session r).meets conditions := funext hmeets
  have hsort : ∀ rows : List α,
      newestFirst session (rows.map change) = (newestFirst session rows).map change := by
    intro rows
    refine (List.map_mergeSort ?_).symm
    intro a _ b _
    simp only [hkey]
  rw [selected, selected, List.filter_map, hkept, hsort]

/-- Rows with strictly falling keys are determined by their members. -/
theorem eq_of_falling {xs ys : List α} {key : α → Int} (hxs : xs.Pairwise fun a b => key b < key a)
    (hys : ys.Pairwise fun a b => key b < key a) (h : ∀ r, r ∈ xs ↔ r ∈ ys) : xs = ys := by
  have : Std.Irrefl fun a b : α => key b < key a := ⟨fun a => Int.lt_irrefl _⟩
  have : Std.Antisymm fun a b : α => key b < key a :=
    ⟨fun a b hab hba => absurd hab (Int.not_lt.2 (Int.le_of_lt hba))⟩
  exact hxs.eq_of_mem_iff hys h

/-- A selection with narrower conditions is a part of the selection, in the same order. -/
theorem selected_filter (hkeys : (rows.map fun r => (session r).transaction.pk).Nodup)
    {narrower : List Condition} {kept : α → Bool}
    (hmeets : ∀ r, (session r).meets narrower = ((session r).meets conditions && kept r)) :
    selected session narrower rows = (selected session conditions rows).filter kept := by
  refine eq_of_falling (selected_pairwise hkeys) ((selected_pairwise hkeys).filter kept) fun r => ?_
  rw [List.mem_filter, mem_selected, mem_selected, hmeets, Bool.and_eq_true, and_assoc]

end Selected

/-! ## The tables of a store -/

/-- A session of the store and the connector that it ran on. -/
def ExportedRow.In (s : Store) (r : ExportedRow) : Prop :=
  r.transaction ∈ s.transactions ∧ r.connector ∈ s.connectors ∧
    r.transaction.connectorPk = r.connector.pk

/-- The station of the connector and the tag of the session are in the store. -/
def ExportedRow.Complete (s : Store) (r : ExportedRow) : Prop :=
  (∃ b ∈ s.chargeBoxes, b.chargeBoxId = r.connector.chargeBoxId) ∧
    ∃ g ∈ s.tags, g.idTag = r.transaction.idTag

instance (s : Store) : DecidablePred (ExportedRow.Complete s) := fun _ => by
  unfold ExportedRow.Complete
  infer_instance

/-- A session of the store with its connector, the station of the connector, and the tag. -/
def ListedRow.In (s : Store) (r : ListedRow) : Prop :=
  r.exported.In s ∧
    (r.chargeBox ∈ s.chargeBoxes ∧ r.chargeBox.chargeBoxId = r.connector.chargeBoxId) ∧
    r.tag ∈ s.tags ∧ r.tag.idTag = r.transaction.idTag

namespace Store

variable {s : Store}

theorem mem_connected {r : ExportedRow} : r ∈ s.connected ↔ r.In s := by
  simp only [connected, mem_joinOn, beq_iff_eq, ExportedRow.In]
  constructor
  · rintro ⟨t, ht, c, hc, hfits, rfl⟩
    exact ⟨ht, hc, hfits⟩
  · rintro ⟨ht, hc, hfits⟩
    exact ⟨_, ht, _, hc, hfits, rfl⟩

theorem mem_completed {r : ListedRow} : r ∈ s.completed ↔ r.In s := by
  simp only [completed, located, mem_joinOn, mem_connected, beq_iff_eq, ListedRow.In]
  constructor
  · rintro ⟨p, ⟨e, he, b, hb, hbox, rfl⟩, g, hg, htag, rfl⟩
    exact ⟨he, ⟨hb, hbox⟩, hg, htag⟩
  · rintro ⟨he, ⟨hb, hbox⟩, hg, htag⟩
    exact ⟨(r.exported, r.chargeBox), ⟨r.exported, he, r.chargeBox, hb, hbox, rfl⟩,
      r.tag, hg, htag, rfl⟩

variable (h : s.Satisfies Schema.declared)
include h

/-- A session has at most one connector. -/
theorem connected_keys_nodup : (s.connected.map fun r => r.transaction.pk).Nodup := by
  refine h.transactionKeys_nodup.sublist (map_joinOn_sublist (fun _ _ => rfl) fun t => ?_)
  refine length_filter_le_one h.connectorKeys_nodup (k := t.connectorPk) fun c hc => ?_
  exact (beq_iff_eq.1 hc).symm

/-- A connector has at most one station, and a session at most one tag. -/
theorem completed_keys_nodup : (s.completed.map fun r => r.exported.transaction.pk).Nodup := by
  have hlocated : (s.located.map fun r => r.1.transaction.pk).Nodup := by
    refine (connected_keys_nodup h).sublist (map_joinOn_sublist (fun _ _ => rfl) fun r => ?_)
    exact length_filter_le_one h.chargeBoxIds_nodup (k := r.connector.chargeBoxId)
      fun b hb => beq_iff_eq.1 hb
  refine hlocated.sublist (map_joinOn_sublist (fun _ _ => rfl) fun r => ?_)
  exact length_filter_le_one h.idTags_nodup (k := r.1.transaction.idTag)
    fun g hg => beq_iff_eq.1 hg

theorem exported_pairwise (conditions : List Condition) :
    (s.exported conditions).Pairwise fun a b => b.transaction.pk < a.transaction.pk := by
  have hkeys : (s.connected.map fun r => (id r).transaction.pk).Nodup := connected_keys_nodup h
  exact selected_pairwise hkeys

theorem listed_pairwise (conditions : List Condition) :
    (s.listed conditions).Pairwise fun a b =>
      b.exported.transaction.pk < a.exported.transaction.pk :=
  selected_pairwise (completed_keys_nodup h)

/-- The listed rows are the exported rows whose station and tag are there, in the same order.  Both
have strictly falling keys, so it is enough that they have the same members. -/
theorem map_exported_listed (conditions : List Condition) :
    (s.listed conditions).map ListedRow.exported =
      (s.exported conditions).filter fun r => decide (r.Complete s) := by
  have hlisted : ((s.listed conditions).map ListedRow.exported).Pairwise fun a b =>
      b.transaction.pk < a.transaction.pk := List.pairwise_map.2 (listed_pairwise h conditions)
  have hexported := (exported_pairwise h conditions).filter fun r => decide (r.Complete s)
  refine eq_of_falling hlisted hexported fun r => ?_
  simp only [List.mem_map, List.mem_filter, decide_eq_true_eq, listed, exported, mem_selected,
    mem_completed, mem_connected]
  constructor
  · rintro ⟨row, ⟨⟨hin, ⟨hb, hbox⟩, hg, htag⟩, hmeets⟩, rfl⟩
    exact ⟨⟨hin, hmeets⟩, ⟨row.chargeBox, hb, hbox⟩, ⟨row.tag, hg, htag⟩⟩
  · rintro ⟨⟨hin, hmeets⟩, ⟨b, hb, hbox⟩, ⟨g, hg, htag⟩⟩
    exact ⟨⟨r.transaction, r.connector, b, g⟩, ⟨⟨hin, ⟨hb, hbox⟩, hg, htag⟩, hmeets⟩, rfl⟩

end Store

end ChargingReport
