import ChargingReport.Proofs.Store.Writes

/-!
# References between tables

A schema declares references, and writes do not look at them.

* `Reference.ResolvesIn` says that a row names a row of the table that a reference goes to, and
  `Store.ReferencesResolve` says this of all rows and all declared references.
  `Store.referencesResolve_of` reads it off the five kinds of rows.
* What a write adds.  Rows stay, so a reference that resolves goes on resolving
  (`Reference.ResolvesIn.transfer`).  Accepted drafts leave all references resolved just when the
  new rows resolve (`Store.insertAll_resolve_iff`).  A stop changes no reference
  (`Store.stop_resolve`).
* `Store.run_resolve_iff` is the induction over a history: no reference ever dangles just when no
  accepted write adds a row that dangles.
* `Store.insert_answer_congr` says why such a row is not rejected: whether a draft is accepted depends
  on the rows of its own table alone.
-/

namespace ChargingReport

/-! ## Rows that name other rows -/

/-- A row names a row of the table that the reference goes to.  A row with a null in one of the
columns names nothing, and needs nothing. -/
def Reference.ResolvesIn (ref : Reference) (s : Store) (row : List NamedCell) : Prop :=
  (∃ c ∈ ref.columns, cellAt row c = .null) ∨
    ∃ table ∈ Table.all, table.name = ref.target ∧ ∃ target ∈ s.rowCells table,
      ref.columns.map (cellAt row) = ref.targetColumns.map (cellAt target)

/-- All references that are declared for the table of a row resolve. -/
def Store.RowResolves (schema : Schema) (s : Store) (table : Table) (row : List NamedCell) : Prop :=
  ∀ t ∈ schema.table? table.name, ∀ ref ∈ t.references, ref.ResolvesIn s row

/-- All references of all rows resolve. -/
def Store.ReferencesResolve (schema : Schema) (s : Store) : Prop :=
  ∀ table ∈ Table.all, ∀ row ∈ s.rowCells table, s.RowResolves schema table row

instance (ref : Reference) (s : Store) (row : List NamedCell) :
    Decidable (ref.ResolvesIn s row) := by
  unfold Reference.ResolvesIn
  infer_instance

instance (schema : Schema) (s : Store) (table : Table) (row : List NamedCell) :
    Decidable (s.RowResolves schema table row) := by
  unfold Store.RowResolves
  infer_instance

instance (schema : Schema) (s : Store) : Decidable (s.ReferencesResolve schema) := by
  unfold Store.ReferencesResolve
  infer_instance

theorem Table.name_inj {a b : Table} (h : a.name = b.name) : a = b := by
  revert h
  cases a <;> cases b <;> decide

theorem Table.mem_all (table : Table) : table ∈ Table.all := by
  cases table <;> decide

/-- A reference goes on resolving if the row keeps its columns, and the named row keeps the columns
under which it is named. -/
theorem Reference.ResolvesIn.transfer {ref : Reference} {s s' : Store} {row row' : List NamedCell}
    (h : ref.ResolvesIn s row) (hrow : ∀ c ∈ ref.columns, cellAt row' c = cellAt row c)
    (htargets : ∀ table, ∀ target ∈ s.rowCells table, ∃ target' ∈ s'.rowCells table,
      ∀ c ∈ ref.targetColumns, cellAt target' c = cellAt target c) : ref.ResolvesIn s' row' := by
  rcases h with ⟨c, hc, hnull⟩ | ⟨table, htable, hname, target, htarget, hsame⟩
  · exact Or.inl ⟨c, hc, (hrow c hc).trans hnull⟩
  · obtain ⟨target', htarget', hkept⟩ := htargets table target htarget
    refine Or.inr ⟨table, htable, hname, target', htarget', ?_⟩
    rw [List.map_congr_left hrow, List.map_congr_left hkept]
    exact hsame

/-- A column that is not null and refers to the column of the same name has its content there. -/
theorem Store.ReferencesResolve.named {s : Store} (h : s.ReferencesResolve Schema.declared)
    (table target : Table) {t : TableSchema} (ht : Schema.declared.table? table.name = some t)
    {name column : String} {onDelete : DeleteRule}
    (href : ⟨name, [column], target.name, [column], onDelete⟩ ∈ t.references)
    {row : List NamedCell} (hrow : row ∈ s.rowCells table) (hset : cellAt row column ≠ .null) :
    ∃ named ∈ s.rowCells target, cellAt named column = cellAt row column := by
  rcases h table (Table.mem_all _) row hrow t ht _ href with
    ⟨c, hc, hnull⟩ | ⟨other, -, hname, named, hnamed, hsame⟩
  · rw [List.mem_singleton.1 hc] at hnull
    exact absurd hnull hset
  · have hother : other = target := Table.name_inj hname
    subst hother
    exact ⟨named, hnamed, (List.head_eq_of_cons_eq hsame).symm⟩

/-- A row goes on resolving when rows are added. -/
theorem Store.RowResolves.mono {schema : Schema} {s s' : Store} {table : Table}
    {row : List NamedCell} (h : s.RowResolves schema table row)
    (hrows : ∀ table, ∀ target ∈ s.rowCells table, target ∈ s'.rowCells table) :
    s'.RowResolves schema table row :=
  fun t ht ref href => (h t ht ref href).transfer (fun _ _ => rfl) fun table target htarget =>
    ⟨target, hrows table target htarget, fun _ _ => rfl⟩

namespace Store

variable {schema : Schema} {s s' : Store}

/-- All references resolve if every connector names a station, every session a connector and a tag,
and every meter value a connector and, unless it names none, a session. -/
theorem referencesResolve_of
    (hconnectors : ∀ c ∈ s.connectors, ∃ b ∈ s.chargeBoxes, b.chargeBoxId = c.chargeBoxId)
    (hsessions : ∀ t ∈ s.transactions, (∃ c ∈ s.connectors, c.pk = t.connectorPk) ∧
      ∃ tag ∈ s.tags, tag.idTag = t.idTag)
    (hsamples : ∀ m ∈ s.meterValues, (∃ c ∈ s.connectors, c.pk = m.connectorPk) ∧
      ∀ pk ∈ m.transactionPk, ∃ t ∈ s.transactions, t.pk = pk) :
    s.ReferencesResolve Schema.declared := by
  have hnames : ∀ (ref : Reference) (row named : List NamedCell) (table : Table),
      table.name = ref.target → named ∈ s.rowCells table →
      ref.columns.map (cellAt row) = ref.targetColumns.map (cellAt named) → ref.ResolvesIn s row :=
    fun ref row named table hname hnamed hsame =>
      Or.inr ⟨table, Table.mem_all _, hname, named, hnamed, hsame⟩
  intro table _ row hrow t ht ref href
  cases table with
  | chargeBox => cases ht; cases href
  | tag => cases ht; cases href
  | connector =>
    cases ht
    obtain ⟨c, hc, rfl⟩ := List.mem_map.1 hrow
    obtain ⟨b, hb, hid⟩ := hconnectors c hc
    cases List.mem_singleton.1 href
    refine hnames _ _ b.cells .chargeBox rfl (List.mem_map_of_mem hb) ?_
    simp [referenceTo, cellAt, Connector.cells, ChargeBox.cells, List.lookup_cons, hid]
  | transaction =>
    cases ht
    obtain ⟨r, hr, rfl⟩ := List.mem_map.1 hrow
    obtain ⟨⟨c, hc, hpk⟩, tag, htag, hid⟩ := hsessions r hr
    rcases List.mem_pair.1 href with rfl | rfl
    · refine hnames _ _ c.cells .connector rfl (List.mem_map_of_mem hc) ?_
      simp [referenceTo, cellAt, Connector.cells, Transaction.cells, List.lookup_cons, hpk]
    · refine hnames _ _ tag.cells .tag rfl (List.mem_map_of_mem htag) ?_
      simp [referenceTo, cellAt, Tag.cells, Transaction.cells, List.lookup_cons, hid]
  | meterValue =>
    cases ht
    obtain ⟨m, hm, rfl⟩ := List.mem_map.1 hrow
    obtain ⟨⟨c, hc, hpk⟩, hsession⟩ := hsamples m hm
    rcases List.mem_pair.1 href with rfl | rfl
    · refine hnames _ _ c.cells .connector rfl (List.mem_map_of_mem hc) ?_
      simp [referenceTo, cellAt, Connector.cells, MeterValue.cells, List.lookup_cons, hpk]
    · cases hnamed : m.transactionPk with
      | none =>
        refine Or.inl ⟨"transaction_pk", List.mem_singleton_self _, ?_⟩
        simp [cellAt, MeterValue.cells, List.lookup_cons, hnamed, Cell.ofInt?]
      | some pk =>
        obtain ⟨r, hr, hsame⟩ := hsession pk hnamed
        refine hnames _ _ r.cells .transaction rfl (List.mem_map_of_mem hr) ?_
        simp [referenceTo, cellAt, Transaction.cells, MeterValue.cells, List.lookup_cons, hnamed,
          hsame, Cell.ofInt?]

/-! ## Accepted drafts -/

/-- The rows after some drafts are the rows before and the rows of the drafts. -/
theorem mem_insertAll {drafts : List Draft} {keys : List Int}
    (h : s.insertAll schema drafts = .ok (keys, s')) (table : Table) (row : List NamedCell) :
    row ∈ s'.rowCells table ↔ row ∈ s.rowCells table ∨
      ∃ p ∈ drafts.zip keys, p.1.table = table ∧ p.1.cells p.2 = row := by
  induction drafts generalizing s keys with
  | nil =>
    cases h
    simp
  | cons draft rest ih =>
    obtain ⟨⟨key, s₁⟩, hfirst, h⟩ := bind_eq_ok.1 h
    obtain ⟨⟨keys', s₂⟩, hrest, h⟩ := bind_eq_ok.1 h
    cases h
    obtain ⟨t, -, -, -, -, happend⟩ := insert_inv hfirst
    obtain ⟨hsame, hother⟩ := append_rowCells happend
    have hadded : row ∈ s₁.rowCells table ↔
        row ∈ s.rowCells table ∨ (draft.table = table ∧ draft.cells key = row) := by
      by_cases htarget : table = draft.table
      · subst htarget
        rw [hsame, List.mem_append, List.mem_singleton]
        simp [eq_comm]
      · have hne : ¬ draft.table = table := fun h => htarget h.symm
        rw [hother table htarget]
        simp [hne]
    -- the first draft adds its row to its own table, and the others go by induction
    rw [ih hrest, hadded, List.zip_cons_cons, List.exists_mem_cons_iff, or_assoc]

/-- Drafts that are accepted in a store without dangling references leave it so just when the new
rows do not dangle. -/
theorem insertAll_resolve_iff (hs : s.ReferencesResolve schema) {drafts : List Draft}
    {keys : List Int} (h : s.insertAll schema drafts = .ok (keys, s')) :
    s'.ReferencesResolve schema ↔
      ∀ p ∈ drafts.zip keys, s'.RowResolves schema p.1.table (p.1.cells p.2) := by
  have hmem := mem_insertAll h
  constructor
  · intro hresolve p hp
    exact hresolve p.1.table (Table.mem_all _) _ ((hmem _ _).2 (Or.inr ⟨p, hp, rfl, rfl⟩))
  · intro hnew table htable row hrow
    rcases (hmem table row).1 hrow with hold | ⟨p, hp, rfl, rfl⟩
    · exact (hs table htable row hold).mono fun table target htarget =>
        (hmem table target).2 (Or.inl htarget)
    · exact hnew p hp

/-! ## Stops -/

/-- Two rows have the same content, but for the two columns of a stop. -/
def SameButStop (a b : List NamedCell) : Prop :=
  ∀ c, c ≠ "stop_timestamp" → c ≠ "stop_value" → cellAt b c = cellAt a c

theorem sameButStop_stopped (t : Transaction) (time : Option Stamp) (value : Option String) :
    SameButStop t.cells (stopped t time value).cells := by
  intro c htime hvalue
  rw [← beq_eq_false_iff_ne] at htime hvalue
  simp [cellAt, Transaction.cells, stopped, List.lookup_cons, htime, hvalue]

/-- A stop changes its two columns and nothing else, if no other session has the same key. -/
theorem stop_rowCells (hkeys : (s.transactions.map Transaction.pk).Nodup) {pk : Int}
    {time : Option Stamp} {value : Option String} {t' : Transaction}
    (h : s.stop schema pk time value = .ok (some (t', s'))) (table : Table) :
    List.Forall₂ SameButStop (s.rowCells table) (s'.rowCells table) := by
  have hrefl : ∀ rows : List (List NamedCell), List.Forall₂ SameButStop rows rows :=
    fun rows => List.forall₂_same.2 fun _ _ _ _ _ => rfl
  obtain ⟨t, ht, hpk, rfl, -, rfl⟩ := stop_inv h
  cases table with
  | transaction =>
    refine List.forall₂_map_right_iff.2 (List.forall₂_map_right_iff.2
      (List.forall₂_map_left_iff.2 (List.forall₂_same.2 fun r hr => ?_)))
    split
    · rename_i hr'
      have hrt : r = t := List.inj_on_of_nodup_map hkeys hr ht (hr'.trans hpk.symm)
      rw [hrt]
      exact sameButStop_stopped t time value
    · exact fun _ _ _ => rfl
  | chargeBox => exact hrefl _
  | connector => exact hrefl _
  | tag => exact hrefl _
  | meterValue => exact hrefl _

/-- No declared reference goes from or to a column of a stop. -/
theorem references_avoid_stop : ∀ t ∈ Schema.declared.tables, ∀ ref ∈ t.references,
    ∀ c ∈ ref.columns ++ ref.targetColumns, c ≠ "stop_timestamp" ∧ c ≠ "stop_value" := by
  decide

/-- A stop leaves references as they are. -/
theorem stop_resolve (hs : s.ReferencesResolve Schema.declared)
    (hkeys : (s.transactions.map Transaction.pk).Nodup) {pk : Int} {time : Option Stamp}
    {value : Option String} {t' : Transaction}
    (h : s.stop Schema.declared pk time value = .ok (some (t', s'))) :
    s'.ReferencesResolve Schema.declared := by
  have hrows := stop_rowCells hkeys h
  -- the row that refers and the row that is named both keep the columns of the reference
  intro table htable row' hrow' t ht ref href
  obtain ⟨row, hrow, hsame⟩ := forall₂_mem_right (hrows table) hrow'
  have havoid := references_avoid_stop t (List.mem_of_find?_eq_some ht) ref href
  refine (hs table htable row hrow t ht ref href).transfer (fun c hc => ?_)
    fun other target htarget => ?_
  · obtain ⟨htime, hvalue⟩ := havoid c (List.mem_append_left _ hc)
    exact hsame c htime hvalue
  · obtain ⟨target', htarget', hkept⟩ := forall₂_mem_left (hrows other) htarget
    refine ⟨target', htarget', fun c hc => ?_⟩
    obtain ⟨htime, hvalue⟩ := havoid c (List.mem_append_right _ hc)
    exact hkept c htime hvalue

/-! ## Histories -/

/-- The rows that a write adds to a store resolve in the store after it.  Nothing is asked of a write
that is rejected, or of a stop. -/
def AddsResolved (schema : Schema) (s : Store) : Write → Prop
  | .add drafts => ∀ keys s', s.insertAll schema drafts = .ok (keys, s') →
      ∀ p ∈ drafts.zip keys, s'.RowResolves schema p.1.table (p.1.cells p.2)
  | .stop _ _ _ => True

/-- One write, accepted or rejected, leaves no dangling reference just when it adds none. -/
theorem after_resolve_iff (hs : s.Satisfies Schema.declared)
    (hresolve : s.ReferencesResolve Schema.declared) (w : Write) :
    (s.after Schema.declared w).ReferencesResolve Schema.declared ↔
      s.AddsResolved Schema.declared w := by
  cases w with
  | add drafts =>
    cases hadd : s.insertAll Schema.declared drafts with
    | error e =>
      have hwrite : s.write Schema.declared (.add drafts) = .error e := by
        rw [write, hadd]
        rfl
      rw [after_of_error hwrite]
      refine iff_of_true hresolve fun keys s' h => ?_
      rw [hadd] at h
      cases h
    | ok found =>
      obtain ⟨keys, s'⟩ := found
      have hwrite : s.write Schema.declared (.add drafts) = .ok s' := by
        rw [write, hadd]
        rfl
      rw [after_of_ok hwrite, insertAll_resolve_iff hresolve hadd]
      constructor
      · intro hnew keys' s'' h
        rw [hadd] at h
        cases h
        exact hnew
      · intro hnew
        exact hnew keys s' hadd
  | stop pk time value =>
    have hkept : (s.after Schema.declared (.stop pk time value)).ReferencesResolve
        Schema.declared := by
      cases hstop : s.stop Schema.declared pk time value with
      | error e =>
        have hwrite : s.write Schema.declared (.stop pk time value) = .error e := by
          rw [write, hstop]
          rfl
        rw [after_of_error hwrite]
        exact hresolve
      | ok found =>
        cases found with
        | none =>
          have hwrite : s.write Schema.declared (.stop pk time value) = .ok s := by
            rw [write, hstop]
            rfl
          rw [after_of_ok hwrite]
          exact hresolve
        | some found =>
          have hwrite : s.write Schema.declared (.stop pk time value) = .ok found.2 := by
            rw [write, hstop]
            rfl
          rw [after_of_ok hwrite]
          exact stop_resolve hresolve hs.transactionKeys_nodup hstop
    exact iff_of_true hkept True.intro

/-- The store after the first writes, and one more. -/
theorem run_take_succ {writes : List Write} {n : Nat} {w : Write} (hw : writes[n]? = some w) :
    s.run schema (writes.take (n + 1)) = (s.run schema (writes.take n)).after schema w := by
  rw [run, List.take_add_one, hw, List.foldl_append]
  rfl

theorem empty_resolve : empty.ReferencesResolve schema := by
  intro table htable row hrow
  cases table <;> cases hrow

/-- No reference dangles at any time just when no write adds a row that dangles. -/
theorem run_resolve_iff (writes : List Write) :
    (∀ n, (empty.run Schema.declared (writes.take n)).ReferencesResolve Schema.declared) ↔
      ∀ n w, writes[n]? = some w →
        (empty.run Schema.declared (writes.take n)).AddsResolved Schema.declared w := by
  have hs : ∀ n, (empty.run Schema.declared (writes.take n)).Satisfies Schema.declared :=
    fun n => run_satisfies empty_satisfies _
  constructor
  · intro hresolve n w hw
    rw [← after_resolve_iff (hs n) (hresolve n), ← run_take_succ hw]
    exact hresolve (n + 1)
  · intro hadds n
    -- one step needs that nothing dangles before it, so all prefixes go together
    induction n with
    | zero => exact empty_resolve
    | succ n ih =>
      cases hw : writes[n]? with
      | none =>
        -- there is no write behind the last one
        have htake : writes.take (n + 1) = writes.take n := by
          rw [List.take_add_one, hw, Option.toList_none, List.append_nil]
        rw [htake]
        exact ih
      | some w =>
        rw [run_take_succ hw, after_resolve_iff (hs n) ih]
        exact hadds n w hw

/-! ## What a draft is accepted for -/

/-- The key of a row stands in its first cell. -/
theorem keys_eq_map (s : Store) (table : Table) :
    s.keys table = (s.rowCells table).map fun row =>
      match row.head? with
      | some (_, .integer n) => n
      | _ => 0 := by
  cases table <;> simp [keys, rowCells, List.map_map, Function.comp_def, ChargeBox.cells,
    Connector.cells, Tag.cells, Transaction.cells, MeterValue.cells]

/-- Whether the row of a draft can be appended does not depend on the store. -/
theorem append_congr (s₁ s₂ : Store) (draft : Draft) (key : Int) :
    (s₁.append draft key).map (fun _ => key) = (s₂.append draft key).map fun _ => key := by
  cases draft with
  | chargeBox d => cases h : d.row key <;> simp only [append, h] <;> rfl
  | connector d => cases h : d.row key <;> simp only [append, h] <;> rfl
  | tag d => cases h : d.row key <;> simp only [append, h] <;> rfl
  | transaction d => cases h : d.row key <;> simp only [append, h] <;> rfl
  | meterValue d => cases h : d.row key <;> simp only [append, h] <;> rfl

/-- Whether a draft is accepted, and which key it gets, depends on its own table alone. -/
theorem insert_answer_congr {s₁ s₂ : Store} {draft : Draft}
    (h : s₁.rowCells draft.table = s₂.rowCells draft.table) :
    (s₁.insert schema draft).map Prod.fst = (s₂.insert schema draft).map Prod.fst := by
  have hkey : s₁.nextKey draft.table = s₂.nextKey draft.table := by
    rw [nextKey, nextKey, keys_eq_map, keys_eq_map, h]
  unfold insert
  simp only [hkey, h]
  split
  · split
    · rfl
    · rename_i t _
      cases haccept : t.accept (s₂.rowCells draft.table) _ with
      | error e => rfl
      | ok accepted =>
        have hkeyed : ∀ (key : Int) (x : Except WriteError Store),
            (x >>= fun s => pure (key, s)).map Prod.fst = x.map fun _ => key := by
          intro key x
          cases x <;> rfl
        exact (hkeyed _ _).trans ((append_congr s₁ s₂ draft _).trans (hkeyed _ _).symm)
  · rfl

end Store

end ChargingReport
