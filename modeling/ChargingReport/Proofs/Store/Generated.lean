import ChargingReport.Proofs.Store.References
import Mathlib.Data.List.Perm.Subperm

/-!
# Rows under generated keys

A draft that asks for no key gets one that no row of its table has, as long as there are keys left.
What then decides about it are its own columns and the unique rules.

* `Store.freeKey_spec` finds the first key that is not taken.  There are more candidates than keys
  that are taken, so one of them is free.
* `Store.HasRoom` says that keys are left.  `Store.nextKey_notMem` and `Store.nextKey_fits` are about
  the key that comes next, and `Store.HasRoom.insert` counts what an insert leaves.
* `Draft.Sound` says that the columns of a draft are in order under any key, and `Store.Repeats` that
  it has the content of another row where a rule forbids it.  A sound draft is rejected just when it
  repeats a row: `Store.insert_of_repeats` and `Store.insert_of_not_repeats`.
-/

namespace ChargingReport

/-! ## Keys -/

namespace Store

variable {s s' : Store}

theorem freeKey_spec (taken : List Int) :
    freeKey taken ∉ taken ∧ 1 ≤ freeKey taken ∧ freeKey taken ≤ taken.length + 1 := by
  let candidates := (List.range (taken.length + 1)).map fun (n : Nat) => (n : Int) + 1
  have hnodup : candidates.Nodup :=
    List.nodup_range.map fun a b (hab : (a : Int) + 1 = b + 1) => by omega
  have hlength : candidates.length = taken.length + 1 := by
    rw [List.length_map, List.length_range]
  -- the candidates cannot all be taken, since they are one more
  have hfree : ∃ key ∈ candidates, (!taken.contains key) = true := by
    by_contra hall
    have hsub : candidates ⊆ taken := fun key hkey => by
      by_contra hnew
      exact hall ⟨key, hkey, by simpa using hnew⟩
    have hle := (List.subperm_of_subset hnodup hsub).length_le
    omega
  obtain ⟨key, hkey⟩ := Option.isSome_iff_exists.1 (List.find?_isSome.2 hfree)
  have hfound : freeKey taken = key := by
    rw [freeKey, hkey]
    rfl
  have hnew := List.find?_some hkey
  obtain ⟨n, hn, rfl⟩ := List.mem_map.1 (List.mem_of_find?_eq_some hkey)
  have hlt := List.mem_range.1 hn
  rw [hfound]
  exact ⟨by simpa using hnew, by omega, by omega⟩

/-- The keys of a table are numbers that fit. -/
theorem NumbersFit.key (h : s.NumbersFit) {table : Table} {key : Int} (hkey : key ∈ s.keys table) :
    fitsInt64 key = true := by
  rw [keys_eq_map] at hkey
  obtain ⟨row, hrow, rfl⟩ := List.mem_map.1 hkey
  have hcells := h table row hrow
  cases hhead : row.head? with
  | none => rfl
  | some cell =>
    obtain ⟨name, cell⟩ := cell
    cases cell with
    | integer n => exact hcells _ (List.mem_of_head? hhead)
    | _ => rfl

/-- Keys are left in every table for so many more rows. -/
def HasRoom (s : Store) (n : Nat) : Prop :=
  ∀ table, ((s.rowCells table).length : Int) + n ≤ lastKey

theorem HasRoom.mono {m n : Nat} (h : s.HasRoom n) (hle : m ≤ n) : s.HasRoom m := by
  intro table
  have hroom := h table
  omega

/-- The key of a new row is the key of no other row. -/
theorem nextKey_notMem (s : Store) (table : Table) : s.nextKey table ∉ s.keys table := by
  unfold nextKey
  cases hmax : (s.keys table).max? with
  | none =>
    rw [List.max?_eq_none_iff.1 hmax]
    exact List.not_mem_nil
  | some n =>
    dsimp only
    split
    · intro hmem
      have hle := (List.max?_eq_some_iff.1 hmax).2 _ hmem
      omega
    · exact (freeKey_spec _).1

theorem nextKey_fits (hfit : s.NumbersFit) (hroom : s.HasRoom 1) (table : Table) :
    fitsInt64 (s.nextKey table) = true := by
  have hkeys : ((s.keys table).length : Int) + 1 ≤ lastKey := by
    have hrows := hroom table
    rw [keys_eq_map, List.length_map]
    omega
  unfold nextKey
  cases hmax : (s.keys table).max? with
  | none => rfl
  | some n =>
    have hn := hfit.key (List.max?_mem hmax)
    have hfree := freeKey_spec (s.keys table)
    dsimp only
    unfold lastKey at *
    split <;> simp only [fitsInt64, Bool.and_eq_true, decide_eq_true_eq] at hn ⊢ <;> omega

/-- An insert takes one key. -/
theorem HasRoom.insert {n : Nat} (h : s.HasRoom (n + 1)) {schema : Schema} {draft : Draft}
    {key : Int} (hinsert : s.insert schema draft = .ok (key, s')) : s'.HasRoom n := by
  obtain ⟨-, -, -, -, -, happend⟩ := insert_inv hinsert
  obtain ⟨hsame, hother⟩ := append_rowCells happend
  intro table
  have hroom := h table
  by_cases htable : table = draft.table
  · subst htable
    rw [hsame, List.length_append, List.length_singleton]
    omega
  · rw [hother table htable]
    omega

end Store

/-! ## Sound drafts -/

/-- The draft asks for no key.  Under any key its numbers fit, the columns that must be set are set,
and its checks hold. -/
def Draft.Sound (draft : Draft) : Prop :=
  draft.key? = none ∧ ∀ key, fitsInt64 key = true →
    (draft.cells key).all (fun c => c.2.fits) = true ∧
      ∀ t ∈ Schema.declared.table? draft.table.name,
        t.missingColumn? (draft.cells key) = none ∧ t.brokenCheck? (draft.cells key) = none

namespace Store

variable {s s' : Store}

/-- Under the next key, the draft has the content of another row in the columns of a unique rule. -/
def Repeats (s : Store) (draft : Draft) : Prop :=
  ∃ t ∈ Schema.declared.table? draft.table.name, ∃ rule ∈ t.uniques,
    ∃ row ∈ s.rowCells draft.table,
      shareColumns rule.columns (draft.cells (s.nextKey draft.table)) row = true

/-- Where a table has one unique rule, this rule decides. -/
theorem repeats_iff {draft : Draft} {t : TableSchema} {rule : UniqueRule}
    (ht : Schema.declared.table? draft.table.name = some t) (hrule : t.uniques = [rule]) :
    s.Repeats draft ↔ ∃ row ∈ s.rowCells draft.table,
      shareColumns rule.columns (draft.cells (s.nextKey draft.table)) row = true := by
  simp only [Repeats, ht, Option.mem_some, exists_eq_left', hrule, List.mem_singleton, exists_eq_left]

/-- Where a table has no unique rule, rows can look alike. -/
theorem not_repeats {draft : Draft} {t : TableSchema}
    (ht : Schema.declared.table? draft.table.name = some t) (hrules : t.uniques = []) :
    ¬ s.Repeats draft := by
  rintro ⟨t', ht', rule, hrule, -⟩
  rw [ht, Option.mem_some] at ht'
  rw [← ht', hrules] at hrule
  cases hrule

/-- A row under a new key repeats no key. -/
theorem not_shareKey {draft : Draft} {t : TableSchema}
    (ht : Schema.declared.table? draft.table.name = some t) {key : Int}
    (hkey : key ∉ s.keys draft.table) {row : List NamedCell}
    (hrow : row ∈ s.rowCells draft.table) :
    shareColumns t.primaryKey (draft.cells key) row = false := by
  have hne : ∀ r, r ∈ s.keys draft.table → key ≠ r := fun r hr h => hkey (h ▸ hr)
  cases draft <;> cases ht <;> obtain ⟨r, hr, rfl⟩ := List.mem_map.1 hrow <;>
    have hpk := hne _ (List.mem_map_of_mem hr) <;>
    simp [shareColumns, cellAt, Draft.cells, ChargeBox.cells, Connector.cells, Tag.cells,
      Transaction.cells, MeterValue.cells, List.lookup_cons, chargeBoxTable, connectorTable, tagTable,
      transactionTable, meterValueTable, hpk]

/-- A draft repeats a row just when a rule finds it repeated.  The rule of the key never does. -/
theorem repeated_eq_none_iff {draft : Draft} {t : TableSchema}
    (ht : Schema.declared.table? draft.table.name = some t) :
    t.repeated? (s.rowCells draft.table) (draft.cells (s.nextKey draft.table)) = none ↔
      ¬ s.Repeats draft := by
  have hkey := fun row (hrow : row ∈ s.rowCells draft.table) =>
    not_shareKey ht (s.nextKey_notMem draft.table) hrow
  rw [TableSchema.repeated?, List.find?_eq_none, List.forall_mem_cons]
  constructor
  · rintro ⟨-, hrules⟩ ⟨t', ht', rule, hrule, row, hrow, hshare⟩
    rw [ht, Option.mem_some] at ht'
    subst ht'
    exact hrules _ (List.mem_map_of_mem hrule) (List.any_eq_true.2 ⟨row, hrow, hshare⟩)
  · intro hnew
    refine ⟨fun hany => ?_, fun columns hcolumns hany => ?_⟩
    · obtain ⟨row, hrow, hshare⟩ := List.any_eq_true.1 hany
      rw [hkey row hrow] at hshare
      exact Bool.noConfusion hshare
    · obtain ⟨rule, hrule, rfl⟩ := List.mem_map.1 hcolumns
      obtain ⟨row, hrow, hshare⟩ := List.any_eq_true.1 hany
      exact hnew ⟨t, ht, rule, hrule, row, hrow, hshare⟩

theorem declared_table (table : Table) :
    ∃ t, Schema.declared.table? table.name = some t ∧ t.name = table.name := by
  cases table <;> exact ⟨_, rfl, rfl⟩

/-- What decides about a sound draft, if keys are left. -/
theorem insert_sound (hfit : s.NumbersFit) (hroom : s.HasRoom 1) {draft : Draft}
    (hsound : draft.Sound) {t : TableSchema}
    (ht : Schema.declared.table? draft.table.name = some t) :
    s.insert Schema.declared draft =
      match t.repeated? (s.rowCells draft.table) (draft.cells (s.nextKey draft.table)) with
      | some columns => .error (.unique t.name columns)
      | none => (s.append draft (s.nextKey draft.table)).map fun s' =>
          (s.nextKey draft.table, s') := by
  obtain ⟨hgenerated, hcells⟩ := hsound
  obtain ⟨hfits, hcolumns⟩ := hcells _ (nextKey_fits hfit hroom draft.table)
  obtain ⟨hset, hchecks⟩ := hcolumns t ht
  unfold insert
  simp only [hgenerated, Option.getD_none, hfits, if_true, ht, TableSchema.accept, hset, hchecks]
  cases t.repeated? (s.rowCells draft.table) (draft.cells (s.nextKey draft.table)) with
  | some columns => rfl
  | none => cases s.append draft (s.nextKey draft.table) <;> rfl

/-- A sound draft that repeats a row is rejected for it. -/
theorem insert_of_repeats (hfit : s.NumbersFit) (hroom : s.HasRoom 1) {draft : Draft}
    (hsound : draft.Sound) (h : s.Repeats draft) :
    ∃ columns, s.insert Schema.declared draft = .error (.unique draft.table.name columns) := by
  obtain ⟨t, ht, hname⟩ := declared_table draft.table
  rw [insert_sound hfit hroom hsound ht]
  cases hrule : t.repeated? (s.rowCells draft.table) (draft.cells (s.nextKey draft.table)) with
  | none => exact absurd h ((repeated_eq_none_iff ht).1 hrule)
  | some columns => exact ⟨columns, by rw [hname]⟩

/-- A sound draft that repeats no row is added under the next key. -/
theorem insert_of_not_repeats (hfit : s.NumbersFit) (hroom : s.HasRoom 1) {draft : Draft}
    (hsound : draft.Sound) (h : ¬ s.Repeats draft)
    (happend : s.append draft (s.nextKey draft.table) = .ok s') :
    s.insert Schema.declared draft = .ok (s.nextKey draft.table, s') := by
  obtain ⟨t, ht, -⟩ := declared_table draft.table
  rw [insert_sound hfit hroom hsound ht, (repeated_eq_none_iff ht).2 h, happend]
  rfl

end Store

end ChargingReport
