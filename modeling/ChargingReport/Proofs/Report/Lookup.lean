import ChargingReport.Proofs.Report.Listing
import ChargingReport.Report.Details

/-!
# Looking up one session

Details are asked for by key, and the key is checked like the key of a form.

* What is given.  `ReportContext.details_listed` says that details show the record of a row that the
  form of the key lists, and `ReportContext.details_inv` is the case of an integer key.
* When it is given.  For an integer there are three cases: a row in the store has the key
  (`ReportContext.details_found`), no row has it (`ReportContext.details_missing`), or it does not
  fit into 64 bits (`ReportContext.details_keyRange`).
-/

namespace ChargingReport

namespace Store

variable {s : Store}

/-- A session of the store is the one row with its key. -/
theorem listed_key (hs : s.Satisfies Schema.declared) {row : ListedRow} (hrow : row.In s) :
    s.listed [.keyIs row.transaction.pk] = [row] := by
  have hkeys := completed_keys_nodup hs
  refine eq_of_falling (listed_pairwise hs _) (List.pairwise_singleton _ _) fun r => ?_
  rw [listed, mem_selected, List.mem_singleton]
  constructor
  · rintro ⟨hr, hmeets⟩
    have hpk : r.transaction.pk = row.transaction.pk := by
      simpa [ExportedRow.meets, Condition.holds, ListedRow.exported] using hmeets
    exact List.inj_on_of_nodup_map hkeys hr (mem_completed.2 hrow) hpk
  · rintro rfl
    refine ⟨mem_completed.2 hrow, ?_⟩
    simp [ExportedRow.meets, Condition.holds, ListedRow.exported]

theorem listed_key_eq_nil {pk : Int} (hpk : ∀ row : ListedRow, row.In s → row.transaction.pk ≠ pk) :
    s.listed [.keyIs pk] = [] := by
  refine List.eq_nil_iff_forall_not_mem.2 fun row hrow => ?_
  obtain ⟨hin, hmeets⟩ := mem_selected.1 hrow
  apply hpk row (mem_completed.1 hin)
  simpa [ExportedRow.meets, Condition.holds, ListedRow.exported] using hmeets

end Store

namespace ReportContext

variable {ctx : ReportContext} {s : Store} {now : Instant}

/-! ## What is given -/

/-- A form with a key alone has the condition that a session has this key. -/
theorem conditions_key {pk : Int} {conditions : List Condition}
    (h : ctx.conditions { transactionPk := some pk } = .ok conditions) :
    conditions = [.keyIs pk] := by
  obtain ⟨today, -, h⟩ := bind_eq_ok.1 h
  cases h
  rfl

/-- A form selects a record if one row meets its conditions and has this record. -/
theorem transaction?_inv {form : QueryForm} {record : TransactionRecord}
    (h : ctx.transaction? form = .ok (some record)) :
    ∃ conditions row, ctx.conditions form = .ok conditions ∧
      ctx.listedRows conditions = .ok [row] ∧ ctx.record row = .ok record := by
  obtain ⟨conditions, hconditions, h⟩ := bind_eq_ok.1 h
  obtain ⟨rows, hrows, h⟩ := bind_eq_ok.1 h
  match rows with
  | [] => cases h
  | [row] =>
    obtain ⟨r, hrecord, h⟩ := bind_eq_ok.1 h
    cases h
    exact ⟨conditions, row, hconditions, hrows, hrecord⟩
  | _ :: _ :: _ => cases h

/-- Details that are given show the record of a row that the form of the key lists, and the readings
of this record. -/
theorem details_listed (hstore : ctx.store = some s) {key : Json} {j : Journal}
    {d : TransactionDetails} (h : (ctx.details key j).answer = .ok d) :
    ∃ form conditions row, QueryForm.check (.object [("transaction_pk", key)]) = .ok form ∧
      ctx.conditions form = .ok conditions ∧ row ∈ s.listed conditions ∧
      d.transaction.Of ctx row ∧ d.values = s.readings d.transaction := by
  rw [details] at h
  cases hform : QueryForm.check (.object [("transaction_pk", key)]) with
  | error e =>
    rw [hform] at h
    cases h
  | ok form =>
    rw [hform] at h
    obtain ⟨found, hfound, h⟩ := bind_eq_ok.1 (h : ctx.detailsOf form key = .ok d)
    match found with
    | none => cases h
    | some record =>
      obtain ⟨s', hread, h⟩ := bind_eq_ok.1 h
      cases h
      obtain ⟨conditions, row, hconditions, hrows, hrecord⟩ := transaction?_inv hfound
      obtain ⟨s'', hread', hrows⟩ := bind_eq_ok.1 hrows
      cases hstore.symm.trans (read_eq_ok.1 hread).1
      cases hstore.symm.trans (read_eq_ok.1 hread').1
      have hlisted : row ∈ s.listed conditions :=
        Except.ok.inj hrows ▸ List.mem_singleton_self row
      exact ⟨form, conditions, row, rfl, hconditions, hlisted, record_spec hrecord, rfl⟩

/-- Details of an integer key show the record of a stored row with this key. -/
theorem details_inv (hstore : ctx.store = some s) {pk : Int} {j : Journal} {d : TransactionDetails}
    (h : (ctx.details (.int pk) j).answer = .ok d) :
    ∃ row : ListedRow, row.In s ∧ row.transaction.pk = pk ∧ d.transaction.Of ctx row ∧
      d.values = s.readings d.transaction := by
  obtain ⟨form, conditions, row, hform, hconditions, hrow, hof, hvalues⟩ := details_listed hstore h
  rw [QueryForm.check_key] at hform
  cases hform
  cases conditions_key hconditions
  obtain ⟨hin, hmeets⟩ := mem_selected.1 hrow
  have hkey : (row.transaction.pk == pk && true) = true := hmeets
  rw [Bool.and_true, beq_iff_eq] at hkey
  exact ⟨row, Store.mem_completed.1 hin, hkey, hof, hvalues⟩

/-! ## When it is given -/

/-- The condition of a key fits just when the key does. -/
theorem fits_key (pk : Int) : [Condition.keyIs pk].all Condition.fits = fitsInt64 pk := by
  rw [List.all_cons, List.all_nil, Bool.and_true, Condition.fits]

/-- Details of an integer key are given when there is a day, the key fits, and one row with this key
is listed and has a record. -/
theorem details_eq_ok {pk : Int} {j : Journal} {d : TransactionDetails} :
    (ctx.details (.int pk) j).answer = .ok d ↔
      ∃ s today row, ctx.store = some s ∧ ctx.today = .ok today ∧ fitsInt64 pk = true ∧
        s.listed [.keyIs pk] = [row] ∧ ctx.record row = .ok d.transaction ∧
        d.values = s.readings d.transaction := by
  rw [details, QueryForm.check_key]
  show ctx.detailsOf { transactionPk := some pk } (.int pk) = .ok d ↔ _
  constructor
  · intro h
    obtain ⟨found, hfound, h⟩ := bind_eq_ok.1 h
    cases found with
    | none => cases h
    | some record =>
      obtain ⟨s', hread', h⟩ := bind_eq_ok.1 h
      cases h
      obtain ⟨conditions, row, hconditions, hrows, hrecord⟩ := transaction?_inv hfound
      obtain ⟨today, htoday, -⟩ := bind_eq_ok.1 hconditions
      cases conditions_key hconditions
      obtain ⟨s, hread, hrows⟩ := bind_eq_ok.1 hrows
      obtain ⟨hstore, hfits⟩ := read_eq_ok.1 hread
      cases hstore.symm.trans (read_eq_ok.1 hread').1
      exact ⟨_, today, row, hstore, htoday, (fits_key pk).symm.trans hfits, Except.ok.inj hrows,
        hrecord, rfl⟩
  · rintro ⟨s, today, row, hstore, htoday, hkey, hrows, hrecord, hvalues⟩
    have hconditions : ctx.conditions { transactionPk := some pk } = .ok [.keyIs pk] := by
      rw [conditions, htoday]
      rfl
    have hlisted : ctx.listedRows [.keyIs pk] = .ok [row] :=
      bind_eq_ok.2 ⟨s, read_eq_ok.2 ⟨hstore, (fits_key pk).trans hkey⟩, congrArg Except.ok hrows⟩
    have hfound : ctx.transaction? { transactionPk := some pk } = .ok (some d.transaction) :=
      bind_eq_ok.2 ⟨_, hconditions, bind_eq_ok.2 ⟨_, hlisted, bind_eq_ok.2 ⟨_, hrecord, rfl⟩⟩⟩
    refine bind_eq_ok.2 ⟨_, hfound, bind_eq_ok.2 ⟨s, read_eq_ok.2 ⟨hstore, rfl⟩, ?_⟩⟩
    rw [← hvalues]
    rfl

/-- The condition of a key can be made when there is a day. -/
theorem conditions_key_ok (hnow : ctx.clock.instant = .ok now) (pk : Int) :
    ctx.conditions { transactionPk := some pk } = .ok [.keyIs pk] := by
  rw [conditions, today_ok hnow]
  rfl

/-- A session that is in the store with its connector, station and tag has details. -/
theorem details_found (hstore : ctx.store = some s) (hs : s.Satisfies Schema.declared)
    (hnow : ctx.clock.instant = .ok now) (hclock : ctx.ZoneReads now)
    (htimes : ctx.StoredTimesConvertible s) {row : ListedRow} (hrow : row.In s)
    (hkey : fitsInt64 row.transaction.pk = true) (j : Journal) :
    ∃ d, (ctx.details (.int row.transaction.pk) j).answer = .ok d ∧ d.transaction.Of ctx row := by
  obtain ⟨hstart, hstop⟩ := htimes row.transaction hrow.1.1
  obtain ⟨r, hrecord⟩ := record_ok hnow hclock hstart hstop
  have hlisted : s.listed [.keyIs row.transaction.pk] = [row] := Store.listed_key hs hrow
  refine ⟨⟨r, s.readings r⟩, ?_, record_spec hrecord⟩
  exact details_eq_ok.2 ⟨s, now.day, row, hstore, today_ok hnow, hkey, hlisted, hrecord, rfl⟩

/-- A key that fits and that no session in the store has is not found. -/
theorem details_missing (hstore : ctx.store = some s) (hnow : ctx.clock.instant = .ok now)
    {pk : Int} (hkey : fitsInt64 pk = true)
    (hpk : ∀ row : ListedRow, row.In s → row.transaction.pk ≠ pk) (j : Journal) :
    (ctx.details (.int pk) j).answer = .error (.notFound (Json.int pk).shown) := by
  have hfits : [Condition.keyIs pk].all Condition.fits = true := (fits_key pk).trans hkey
  have hrows : ctx.listedRows [.keyIs pk] = .ok [] := bind_eq_ok.2
    ⟨s, read_eq_ok.2 ⟨hstore, hfits⟩, congrArg Except.ok (Store.listed_key_eq_nil hpk)⟩
  have hfound : ctx.transaction? { transactionPk := some pk } = .ok none :=
    bind_eq_ok.2 ⟨_, conditions_key_ok hnow _, bind_eq_ok.2 ⟨_, hrows, rfl⟩⟩
  rw [details, QueryForm.check_key]
  show ctx.detailsOf { transactionPk := some pk } (.int pk) = _
  rw [detailsOf, hfound]
  rfl

/-- A key that does not fit into 64 bits is a failure of the database, found or not. -/
theorem details_keyRange (hstore : ctx.store = some s) (hnow : ctx.clock.instant = .ok now)
    {pk : Int} (hkey : fitsInt64 pk = false) (j : Journal) :
    (ctx.details (.int pk) j).answer = .error (.write .integerRange) := by
  have hfits : [Condition.keyIs pk].all Condition.fits = false := (fits_key pk).trans hkey
  rw [details, QueryForm.check_key]
  show ctx.detailsOf { transactionPk := some pk } (.int pk) = _
  rw [detailsOf, transaction?, conditions_key_ok hnow]
  show (ctx.listedRows [.keyIs pk] >>= _) >>= _ = _
  rw [listedRows, read_integerRange hstore hfits]
  rfl

end ReportContext

end ChargingReport
