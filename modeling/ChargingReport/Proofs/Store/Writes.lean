import ChargingReport.Store.History
import ChargingReport.Proofs.Except
import ChargingReport.Proofs.Store.Constraints

/-!
# What a write does

* One draft.  `Store.insert_inv` takes an accepted insert apart: the table has a schema, the row is
  accepted beside the rows that are there, and it is appended to them.  `Store.append_rowCells` says
  what the tables hold then.
* Constraints.  A row that is accepted beside rows that keep the constraints of a table keeps them
  too (`TableSchema.Keeps.append`).  So an accepted insert keeps the constraints of any schema
  (`Store.insert_satisfies`).
* A stop.  `Store.stop_inv` says what an accepted stop leaves.  It writes two columns that no key
  and no unique rule looks at, and the check of the sessions is made again
  (`Store.stop_satisfies`).
* Histories.  `Store.run_induction` is the induction over all writes, accepted or rejected: what
  inserts and stops keep, a run keeps.  So a run keeps the constraints (`Store.run_satisfies`), and
  all numbers within 64 bits (`Store.run_numbersFit`).
-/

namespace ChargingReport

/-! ## Rows of drafts -/

theorem required_eq_ok {α : Type} {table : Table} {column : String} {v : Option α} {a : α} :
    required table column v = .ok a ↔ v = some a := by
  cases v with
  | none => exact ⟨nofun, nofun⟩
  | some b => simp [required]

/-- A row has the cells of its draft. -/
theorem ChargeBoxDraft.row_inv {d : ChargeBoxDraft} {key : Int} {r : ChargeBox}
    (h : d.row key = .ok r) :
    d.chargeBoxId = some r.chargeBoxId ∧ r.cells = (Draft.chargeBox d).cells key := by
  obtain ⟨chargeBoxId, hid, h⟩ := bind_eq_ok.1 h
  cases h
  rw [required_eq_ok] at hid
  refine ⟨hid, ?_⟩
  rw [Draft.cells, hid]
  rfl

theorem ConnectorDraft.row_inv {d : ConnectorDraft} {key : Int} {r : Connector}
    (h : d.row key = .ok r) :
    d.chargeBoxId = some r.chargeBoxId ∧ r.cells = (Draft.connector d).cells key := by
  obtain ⟨chargeBoxId, hid, h⟩ := bind_eq_ok.1 h
  obtain ⟨number, hnumber, h⟩ := bind_eq_ok.1 h
  cases h
  rw [required_eq_ok] at hid hnumber
  refine ⟨hid, ?_⟩
  rw [Draft.cells, hid, hnumber]
  rfl

theorem TagDraft.row_inv {d : TagDraft} {key : Int} {r : Tag} (h : d.row key = .ok r) :
    d.idTag = some r.idTag ∧ r.cells = (Draft.tag d).cells key := by
  obtain ⟨idTag, hid, h⟩ := bind_eq_ok.1 h
  cases h
  rw [required_eq_ok] at hid
  refine ⟨hid, ?_⟩
  rw [Draft.cells, hid]
  rfl

theorem TransactionDraft.row_inv {d : TransactionDraft} {key : Int} {r : Transaction}
    (h : d.row key = .ok r) :
    d.connectorPk = some r.connectorPk ∧ d.idTag = some r.idTag ∧
      r.cells = (Draft.transaction d).cells key := by
  obtain ⟨connectorPk, hconnector, h⟩ := bind_eq_ok.1 h
  obtain ⟨idTag, hid, h⟩ := bind_eq_ok.1 h
  obtain ⟨start, hstart, h⟩ := bind_eq_ok.1 h
  obtain ⟨startValue, hvalue, h⟩ := bind_eq_ok.1 h
  cases h
  rw [required_eq_ok] at hconnector hid hstart hvalue
  refine ⟨hconnector, hid, ?_⟩
  rw [Draft.cells, hconnector, hid, hstart, hvalue]
  rfl

theorem MeterValueDraft.row_inv {d : MeterValueDraft} {key : Int} {r : MeterValue}
    (h : d.row key = .ok r) :
    d.connectorPk = some r.connectorPk ∧ d.transactionPk = r.transactionPk ∧
      r.cells = (Draft.meterValue d).cells key := by
  obtain ⟨connectorPk, hconnector, h⟩ := bind_eq_ok.1 h
  obtain ⟨time, htime, h⟩ := bind_eq_ok.1 h
  cases h
  rw [required_eq_ok] at hconnector htime
  refine ⟨hconnector, rfl, ?_⟩
  rw [Draft.cells, hconnector, htime]
  rfl

namespace Store

variable {schema : Schema} {s s' : Store}

/-! ## One draft -/

/-- A draft becomes the last row of its table, and no other table changes. -/
theorem append_rowCells {draft : Draft} {key : Int} (h : s.append draft key = .ok s') :
    s'.rowCells draft.table = s.rowCells draft.table ++ [draft.cells key] ∧
      ∀ table, table ≠ draft.table → s'.rowCells table = s.rowCells table := by
  constructor
  · cases draft with
    | chargeBox d =>
      obtain ⟨r, hr, h⟩ := bind_eq_ok.1 h
      cases h
      rw [← (d.row_inv hr).2]
      exact List.map_append
    | connector d =>
      obtain ⟨r, hr, h⟩ := bind_eq_ok.1 h
      cases h
      rw [← (d.row_inv hr).2]
      exact List.map_append
    | tag d =>
      obtain ⟨r, hr, h⟩ := bind_eq_ok.1 h
      cases h
      rw [← (d.row_inv hr).2]
      exact List.map_append
    | transaction d =>
      obtain ⟨r, hr, h⟩ := bind_eq_ok.1 h
      cases h
      rw [← (d.row_inv hr).2.2]
      exact List.map_append
    | meterValue d =>
      obtain ⟨r, hr, h⟩ := bind_eq_ok.1 h
      cases h
      rw [← (d.row_inv hr).2.2]
      exact List.map_append
  · intro table htable
    cases draft <;> obtain ⟨r, -, h⟩ := bind_eq_ok.1 h <;> cases h <;> cases table <;>
      first | rfl | exact absurd rfl htable

/-- An accepted draft gets the key that it asks for, or the next one.  Its row is accepted beside the
rows of its table, and appended to them. -/
theorem insert_inv {draft : Draft} {key : Int} (h : s.insert schema draft = .ok (key, s')) :
    ∃ t, schema.table? draft.table.name = some t ∧
      key = draft.key?.getD (s.nextKey draft.table) ∧
      ((draft.cells key).all fun c => c.2.fits) = true ∧
      t.accept (s.rowCells draft.table) (draft.cells key) = .ok () ∧
      s.append draft key = .ok s' := by
  unfold insert at h
  simp only at h
  split at h
  · rename_i hfits
    cases ht : schema.table? draft.table.name with
    | none =>
      rw [ht] at h
      cases h
    | some t =>
      rw [ht] at h
      obtain ⟨accepted, haccept, h⟩ := bind_eq_ok.1 h
      obtain ⟨s₁, happend, h⟩ := bind_eq_ok.1 h
      cases h
      exact ⟨t, rfl, rfl, hfits, haccept, happend⟩
  · cases h

end Store

/-! ## Constraints of a table -/

theorem shareColumns_comm (columns : List String) (a b : List NamedCell) :
    shareColumns columns a b = shareColumns columns b a := by
  unfold shareColumns
  congr 1
  funext c
  by_cases h : cellAt a c = cellAt b c
  · rw [h]
  · have hba : ¬ cellAt b c = cellAt a c := fun hba => h hba.symm
    rw [beq_eq_false_iff_ne.2 h, beq_eq_false_iff_ne.2 hba, Bool.and_false, Bool.and_false]

namespace TableSchema

variable {t : TableSchema} {rows : List (List NamedCell)} {cells : List NamedCell}

/-- A row is accepted if its columns are set, its checks hold, and it repeats no other row. -/
theorem accept_eq_ok : t.accept rows cells = .ok () ↔
    t.missingColumn? cells = none ∧ t.brokenCheck? cells = none ∧
      t.repeated? rows cells = none := by
  unfold accept
  cases t.missingColumn? cells with
  | some column => simp
  | none =>
    cases t.brokenCheck? cells with
    | some check => simp
    | none => cases t.repeated? rows cells <;> simp

/-- A row that is accepted beside rows that keep the constraints keeps them too. -/
theorem Keeps.append (h : t.Keeps rows) (haccept : t.accept rows cells = .ok ()) :
    t.Keeps (rows ++ [cells]) := by
  obtain ⟨hset, hchecks, hdistinct⟩ := h
  obtain ⟨hset', hchecks', hnew⟩ := accept_eq_ok.1 haccept
  refine ⟨fun row hrow => ?_, fun row hrow => ?_, fun columns hcolumns => ?_⟩
  · rcases List.mem_append.1 hrow with hold | hlast
    · exact hset row hold
    · rw [List.mem_singleton.1 hlast]
      exact hset'
  · rcases List.mem_append.1 hrow with hold | hlast
    · exact hchecks row hold
    · rw [List.mem_singleton.1 hlast]
      exact hchecks'
  · refine List.pairwise_append.2 ⟨hdistinct columns hcolumns, List.pairwise_singleton _ _, ?_⟩
    intro row hrow last hlast
    rw [List.mem_singleton.1 hlast, shareColumns_comm]
    have hnone := List.find?_eq_none.1 hnew columns hcolumns
    rw [List.any_eq_true, not_exists] at hnone
    have hrow' : ¬ shareColumns columns cells row = true := fun hshare => hnone row ⟨hrow, hshare⟩
    exact Bool.eq_false_iff.2 hrow'

end TableSchema

namespace Store

variable {schema : Schema} {s s' : Store}

/-- An accepted draft keeps the constraints of the schema. -/
theorem insert_satisfies (hs : s.Satisfies schema) {draft : Draft} {key : Int}
    (h : s.insert schema draft = .ok (key, s')) : s'.Satisfies schema := by
  obtain ⟨t, ht, -, -, haccept, happend⟩ := insert_inv h
  obtain ⟨hsame, hother⟩ := append_rowCells happend
  intro table htable
  obtain ⟨t', ht', hkeeps⟩ := hs table htable
  refine ⟨t', ht', ?_⟩
  by_cases htarget : table = draft.table
  · subst htarget
    rw [ht, Option.mem_some] at ht'
    subst ht'
    rw [hsame]
    exact hkeeps.append haccept
  · rw [hother table htarget]
    exact hkeeps

/-! ## Stops -/

/-- A session with another stop time and stop value. -/
def stopped (t : Transaction) (time : Option Stamp) (value : Option String) : Transaction :=
  { t with stop := time.map Stamp.stored, stopValue := value }

/-- An accepted stop of a session that is there writes its two stop columns, for which the checks of
the table hold. -/
theorem stop_inv {pk : Int} {time : Option Stamp} {value : Option String} {t' : Transaction}
    (h : s.stop schema pk time value = .ok (some (t', s'))) :
    ∃ t ∈ s.transactions, t.pk = pk ∧ t' = stopped t time value ∧
      (∃ table, schema.table? Table.transaction.name = some table ∧
        table.brokenCheck? t'.cells = none) ∧
      s' = { s with transactions := s.transactions.map fun r => if r.pk = pk then t' else r } := by
  unfold stop at h
  split at h
  · cases h
  · split at h
    · cases h
    · rename_i t ht
      have hmem := List.mem_of_find?_eq_some ht
      have hpk : t.pk = pk := by simpa using List.find?_some ht
      simp only at h
      split at h
      · cases h
      · rename_i table htable
        split at h
        · cases h
        · rename_i hcheck
          cases h
          exact ⟨t, hmem, hpk, rfl, ⟨table, htable, hcheck⟩, rfl⟩

end Store

namespace Transaction

/-- The columns of a session that must be set are set. -/
theorem missingColumn_cells (t : Transaction) : transactionTable.missingColumn? t.cells = none := by
  simp [TableSchema.missingColumn?, transactionTable, requiredInteger, requiredText,
    requiredTimestamp, optionalText, optionalTimestamp, cellAt, cells, List.lookup_cons]

/-- Sessions repeat each other in their keys alone. -/
theorem shareColumns_cells (a b : Transaction) {columns : List String}
    (hrule : columns ∈ transactionTable.distinctColumns) :
    shareColumns columns a.cells b.cells = decide (a.pk = b.pk) := by
  have hkey : transactionTable.distinctColumns = [["transaction_pk"]] := rfl
  rw [hkey, List.mem_singleton] at hrule
  subst hrule
  simp [shareColumns, cellAt, cells, List.lookup_cons, Bool.beq_eq_decide_eq]

end Transaction

namespace Store

variable {s s' : Store}

/-- An accepted stop keeps the constraints.  It leaves the keys of all sessions as they are. -/
theorem stop_satisfies (hs : s.Satisfies Schema.declared) {pk : Int} {time : Option Stamp}
    {value : Option String} {t' : Transaction}
    (h : s.stop Schema.declared pk time value = .ok (some (t', s'))) :
    s'.Satisfies Schema.declared := by
  obtain ⟨t, ht, hpk, htstopped, ⟨table, htable, hcheck⟩, rfl⟩ := stop_inv h
  have htransactions : Schema.declared.table? Table.transaction.name = some transactionTable := rfl
  rw [htransactions, Option.some.injEq] at htable
  subst htable
  have hkeeps : transactionTable.Keeps (s.transactions.map Transaction.cells) :=
    hs.keeps .transaction htransactions
  have hkey : t'.pk = pk := by
    rw [htstopped]
    exact hpk
  have hsame : ∀ r : Transaction, (if r.pk = pk then t' else r).pk = r.pk := by
    intro r
    split
    · rename_i hr
      rw [hkey, hr]
    · rfl
  have hstopped : transactionTable.Keeps
      ((s.transactions.map fun r => if r.pk = pk then t' else r).map Transaction.cells) := by
    refine ⟨fun row hrow => ?_, fun row hrow => ?_, fun columns hcolumns => ?_⟩
    · obtain ⟨r, -, rfl⟩ := List.mem_map.1 hrow
      exact r.missingColumn_cells
    · obtain ⟨r, hr, rfl⟩ := List.mem_map.1 hrow
      obtain ⟨old, hold, rfl⟩ := List.mem_map.1 hr
      split
      · exact hcheck
      · exact hkeeps.2.1 _ (List.mem_map_of_mem hold)
    · -- keys are the one rule of sessions, and a stop keeps them
      have hdistinct := List.pairwise_map.1 (hkeeps.2.2 columns hcolumns)
      rw [List.map_map, List.pairwise_map]
      refine hdistinct.imp fun {a b} hab => ?_
      rw [Transaction.shareColumns_cells a b hcolumns] at hab
      rw [Function.comp_apply, Function.comp_apply, Transaction.shareColumns_cells _ _ hcolumns,
        hsame, hsame, hab]
  intro other hother
  obtain ⟨t₀, ht₀, hkeeps₀⟩ := hs other hother
  refine ⟨t₀, ht₀, ?_⟩
  cases other with
  | transaction =>
    rw [htransactions, Option.mem_some] at ht₀
    exact ht₀ ▸ hstopped
  | chargeBox => exact hkeeps₀
  | connector => exact hkeeps₀
  | tag => exact hkeeps₀
  | meterValue => exact hkeeps₀

theorem empty_satisfies : empty.Satisfies Schema.declared := by
  decide

/-! ## Histories -/

section Histories

variable {schema : Schema} {P : Store → Prop}
  (hinsert : ∀ s draft key s', P s → s.insert schema draft = .ok (key, s') → P s')

include hinsert in
/-- What every accepted draft keeps, a list of accepted drafts keeps. -/
theorem insertAll_induction (hs : P s) {drafts : List Draft} {keys : List Int}
    (h : s.insertAll schema drafts = .ok (keys, s')) : P s' := by
  induction drafts generalizing s keys with
  | nil =>
    cases h
    exact hs
  | cons draft rest ih =>
    obtain ⟨⟨key, s₁⟩, hfirst, h⟩ := bind_eq_ok.1 h
    obtain ⟨⟨keys', s₂⟩, hrest, h⟩ := bind_eq_ok.1 h
    cases h
    exact ih (hinsert s draft key s₁ hs hfirst) hrest

/-- A write that is rejected leaves the store that was there. -/
theorem after_of_error {w : Write} {e : WriteError} (h : s.write schema w = .error e) :
    s.after schema w = s := by
  rw [after, h]

theorem after_of_ok {w : Write} (h : s.write schema w = .ok s') : s.after schema w = s' := by
  rw [after, h]

variable (hstop : ∀ s pk time value t s', P s →
  s.stop schema pk time value = .ok (some (t, s')) → P s')

include hinsert hstop in
/-- What every accepted draft and every accepted stop keeps, a write keeps, accepted or rejected. -/
theorem after_induction (hs : P s) (w : Write) : P (s.after schema w) := by
  cases h : s.write schema w with
  | error e =>
    rw [after_of_error h]
    exact hs
  | ok s' =>
    rw [after_of_ok h]
    cases w with
    | add drafts =>
      obtain ⟨⟨keys, s₁⟩, hadd, rfl⟩ := map_eq_ok.1 h
      exact insertAll_induction hinsert hs hadd
    | stop pk time value =>
      obtain ⟨found, hfound, rfl⟩ := map_eq_ok.1 h
      cases found with
      | none => exact hs
      | some found => exact hstop s pk time value found.1 found.2 hs hfound

include hinsert hstop in
/-- What every accepted draft and every accepted stop keeps, any writes keep. -/
theorem run_induction (hs : P s) (writes : List Write) : P (s.run schema writes) := by
  induction writes generalizing s with
  | nil => exact hs
  | cons w writes ih => exact ih (after_induction hinsert hstop hs w)

end Histories

/-- Any writes keep the constraints. -/
theorem run_satisfies (hs : s.Satisfies Schema.declared) (writes : List Write) :
    (s.run Schema.declared writes).Satisfies Schema.declared :=
  run_induction (P := fun s => s.Satisfies Schema.declared)
    (fun _ _ _ _ hs h => insert_satisfies hs h) (fun _ _ _ _ _ _ hs h => stop_satisfies hs h)
    hs writes

/-! ## Numbers that fit -/

/-- All numbers in the store fit into 64 bits. -/
def NumbersFit (s : Store) : Prop :=
  ∀ table, ∀ row ∈ s.rowCells table, ∀ cell ∈ row, cell.2.fits = true

theorem empty_numbersFit : empty.NumbersFit := by
  intro table row hrow
  cases table <;> cases hrow

theorem insert_numbersFit {schema : Schema} (hs : s.NumbersFit) {draft : Draft} {key : Int}
    (h : s.insert schema draft = .ok (key, s')) : s'.NumbersFit := by
  obtain ⟨t, -, -, hfits, -, happend⟩ := insert_inv h
  obtain ⟨hsame, hother⟩ := append_rowCells happend
  intro table row hrow
  by_cases htarget : table = draft.table
  · subst htarget
    rw [hsame, List.mem_append, List.mem_singleton] at hrow
    rcases hrow with hold | rfl
    · exact hs draft.table row hold
    · exact List.all_eq_true.1 hfits
  · rw [hother table htarget] at hrow
    exact hs table row hrow

/-- A stop leaves the numbers of a session as they are. -/
theorem stop_numbersFit {schema : Schema} (hs : s.NumbersFit) {pk : Int} {time : Option Stamp}
    {value : Option String} {t' : Transaction}
    (h : s.stop schema pk time value = .ok (some (t', s'))) : s'.NumbersFit := by
  obtain ⟨t, ht, -, rfl, -, rfl⟩ := stop_inv h
  have hstopped : ∀ cell ∈ (stopped t time value).cells, cell.2.fits = true := by
    have hcells := hs .transaction t.cells (List.mem_map_of_mem ht)
    simp only [Transaction.cells, List.forall_mem_cons] at hcells ⊢
    obtain ⟨hpk, hconnector, -⟩ := hcells
    refine ⟨hpk, hconnector, rfl, rfl, rfl, ?_, ?_, List.forall_mem_nil _⟩
    · cases (stopped t time value).stop <;> rfl
    · cases (stopped t time value).stopValue <;> rfl
  intro table row hrow
  cases table with
  | transaction =>
    obtain ⟨r, hr, rfl⟩ := List.mem_map.1 hrow
    obtain ⟨old, hold, rfl⟩ := List.mem_map.1 hr
    split
    · exact hstopped
    · exact hs .transaction old.cells (List.mem_map_of_mem hold)
  | chargeBox => exact hs .chargeBox row hrow
  | connector => exact hs .connector row hrow
  | tag => exact hs .tag row hrow
  | meterValue => exact hs .meterValue row hrow

/-- Any writes keep all numbers within 64 bits. -/
theorem run_numbersFit {schema : Schema} (hs : s.NumbersFit) (writes : List Write) :
    (s.run schema writes).NumbersFit :=
  run_induction (fun _ _ _ _ hs h => insert_numbersFit hs h)
    (fun _ _ _ _ _ _ hs h => stop_numbersFit hs h) hs writes

theorem NumbersFit.transactionKey (h : s.NumbersFit) {t : Transaction} (ht : t ∈ s.transactions) :
    fitsInt64 t.pk = true :=
  h .transaction t.cells (List.mem_map_of_mem ht) ("transaction_pk", .integer t.pk)
    List.mem_cons_self

/-! ## A history -/

/-- Writes that make the small store.  The second tag repeats the text of the first, and the first
stop has a value without a time, so both are rejected. -/
def smallWrites : List Write :=
  let stamp (i : Instant) : Stamp := ⟨i.utc, some 0⟩
  let reading (m : MeterValue) : Draft := .meterValue
    { connectorPk := some m.connectorPk, transactionPk := m.transactionPk,
      time := some (stamp m.time), sample := m.sample }
  [.add [.chargeBox { chargeBoxId := some "CB" },
      .connector { pk := some 3, chargeBoxId := some "CB", number := some 1 }],
    .add [.tag { pk := some 2, idTag := some "TAG" }],
    .add [.tag { idTag := some "TAG" }],
    .add [.transaction
      { pk := some 7, connectorPk := some 3, idTag := some "TAG",
        start := some (stamp newYear2026), startValue := some "100" }],
    .stop 7 none (some "200"),
    .stop 7 (Transaction.small.stop.map stamp) (some "200"),
    .add (small.meterValues.map reading)]

theorem run_smallWrites : empty.run Schema.declared smallWrites = small := by
  decide

end Store

end ChargingReport
