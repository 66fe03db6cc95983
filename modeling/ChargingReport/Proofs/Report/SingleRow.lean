import ChargingReport.Proofs.Report.Agreement
import ChargingReport.Proofs.Report.Lookup
import ChargingReport.Proofs.Web.Ledger

/-!
# One record beside a listing

A form that has a transaction key asks for one session.  Three joins stand between this session and
its record, and each of them could repeat it or leave it out.

* `ReportContext.single?` is the single record of a list, and `ReportContext.transaction?_of_listing`
  reads it off the listing of any form.
* `ReportContext.length_le_one_of_key` says that a listing with a key has at most one record, since
  no key is repeated.
* `ReportContext.details_of_listing` is the same for details, and `ReportContext.details_error_values`
  says what details that fail leave in the metrics.

`ReportContext.single_row_agrees` puts them together.
-/

namespace ChargingReport

namespace ReportContext

variable {ctx : ReportContext} {s : Store} {now : Instant} {form : QueryForm} {pk : Int}
  {records : List TransactionRecord} {j j' : Journal}

/-- The single record of a list, if it has one record at all.  More of them are a failure. -/
def single? : List TransactionRecord → Except Failure (Option TransactionRecord)
  | [] => .ok none
  | [record] => .ok (some record)
  | _ => .error .multipleRows

/-- The single record is that of the listing. -/
theorem transaction?_of_listing (h : (ctx.transactions form j).answer = .ok records) :
    ctx.transaction? form = single? records := by
  obtain ⟨conditions, _, _, s, hconditions, -, -, hread, hrecords⟩ := transactions_eq_ok.1 h
  have hrows : ctx.listedRows conditions = .ok (s.listed conditions) := by
    rw [listedRows, hread]
    rfl
  rw [transaction?, hconditions]
  show ctx.listedRows conditions >>= _ = _
  rw [hrows]
  generalize s.listed conditions = rows at hrecords
  cases forall₂_of_mapM_ok hrecords with
  | nil => rfl
  | @cons row record rows records hrecord hrest =>
    cases hrest with
    | nil =>
      show (ctx.record row >>= fun r => pure (some r)) = _
      rw [hrecord]
      rfl
    | cons _ _ => rfl

/-- The conditions of a form with a key ask for the key. -/
theorem keyIs_mem_conditions (hpk : form.transactionPk = some pk) {conditions : List Condition}
    (h : ctx.conditions form = .ok conditions) : .keyIs pk ∈ conditions := by
  obtain ⟨today, -, h⟩ := bind_eq_ok.1 h
  obtain ⟨period, -, h⟩ := bind_eq_ok.1 h
  cases h
  simp [hpk, QueryForm.criterion]

/-- Rows with strictly falling keys that have one key in common are at most one. -/
theorem length_le_one_of_falling {α : Type} {rows : List α} {key : α → Int} {k : Int}
    (h : rows.Pairwise fun a b => key b < key a) (hkey : ∀ row ∈ rows, key row = k) :
    rows.length ≤ 1 := by
  match rows with
  | [] => exact Nat.zero_le 1
  | [_] => exact Nat.le_refl 1
  | a :: b :: _ =>
    have hlt : key b < key a := (List.pairwise_cons.1 h).1 b List.mem_cons_self
    rw [hkey a List.mem_cons_self, hkey b (List.mem_cons_of_mem _ List.mem_cons_self)] at hlt
    exact absurd hlt (Int.lt_irrefl k)

/-- A listing with a key has at most one record. -/
theorem length_le_one_of_key (hstore : ctx.store = some s) (hs : s.Satisfies Schema.declared)
    (hpk : form.transactionPk = some pk) (h : (ctx.transactions form j).answer = .ok records) :
    records.length ≤ 1 := by
  obtain ⟨conditions, _, _, s', hconditions, -, -, hread, hrecords⟩ := transactions_eq_ok.1 h
  cases hstore.symm.trans (read_eq_ok.1 hread).1
  have hkey : ∀ row ∈ s.listed conditions, row.exported.transaction.pk = pk := by
    intro row hrow
    have hmeets := (mem_selected.1 hrow).2
    exact beq_iff_eq.1 (List.all_eq_true.1 hmeets _ (keyIs_mem_conditions hpk hconditions))
  rw [← (forall₂_of_mapM_ok hrecords).length_eq]
  exact length_le_one_of_falling (Store.listed_pairwise hs conditions) hkey

/-! ## Details -/

theorem details_key (pk : Int) (j : Journal) :
    (ctx.details (.int pk) j).answer = ctx.detailsOf { transactionPk := some pk } (.int pk) := by
  rw [details, QueryForm.check_key]

/-- Details go with the listing of their key, if this has at most one record. -/
theorem details_of_listing (hstore : ctx.store = some s)
    (h : (ctx.transactions { transactionPk := some pk } j).answer = .ok records)
    (hlength : records.length ≤ 1) :
    (records = [] ∧ (ctx.details (.int pk) j').answer = .error (.notFound (intText pk))) ∨
      ∃ record, records = [record] ∧
        (ctx.details (.int pk) j').answer = .ok ⟨record, s.readings record⟩ := by
  have hread : ctx.read [] = .ok s := read_eq_ok.2 ⟨hstore, rfl⟩
  rw [details_key, detailsOf, transaction?_of_listing h]
  obtain hempty | hone := Nat.le_one_iff_eq_zero_or_eq_one.1 hlength
  · cases List.eq_nil_of_length_eq_zero hempty
    exact .inl ⟨rfl, rfl⟩
  · obtain ⟨record, rfl⟩ := List.length_eq_one_iff.1 hone
    refine .inr ⟨record, rfl, ?_⟩
    show ctx.read [] >>= _ = _
    rw [hread]
    rfl

/-- Details that fail observe no number of meter values. -/
theorem details_error_values {key : Json} {f : Failure} (h : (ctx.details key j).answer = .error f) :
    (ctx.details key j).journal.metrics.valuesReturned = j.metrics.valuesReturned := by
  rw [metrics_details, ← answer_details key j, h]
  cases f <;> rfl

/-! ## The single record -/

/-- A form with a key that can be stored, for a clock in an ordinary year and stored times that can
be displayed.

* Its listing has at most one record, and this is its single record.
* If the listing of the key alone is empty, there are no details, and the failure names the key.
  Otherwise there are details, of the only record.
* Details that fail leave the histogram of meter values as it is. -/
theorem single_row_agrees (hstore : ctx.store = some s) (hs : s.Satisfies Schema.declared)
    (hnow : ctx.clock.instant = .ok now) (hyear : now.InOrdinaryYear)
    (htimes : ctx.StoredTimesConvertible s) (hkey : fitsInt64 pk = true) :
    (∀ form : QueryForm, form.Checked → form.transactionPk = some pk → ∀ j,
      ((ctx.transactions form j).answer = .ok [] ∧ ctx.transaction? form = .ok none) ∨
        ∃ record, (ctx.transactions form j).answer = .ok [record] ∧
          ctx.transaction? form = .ok (some record)) ∧
      (∀ j j', ((ctx.transactions { transactionPk := some pk } j).answer = .ok [] ∧
          (ctx.details (.int pk) j').answer = .error (.notFound (intText pk))) ∨
        ∃ details, (ctx.transactions { transactionPk := some pk } j).answer =
            .ok [details.transaction] ∧
          (ctx.details (.int pk) j').answer = .ok details) ∧
      ∀ key j f, (ctx.details key j).answer = .error f →
        (ctx.details key j).journal.metrics.valuesReturned = j.metrics.valuesReturned := by
  have hlisting : ∀ form : QueryForm, form.Checked → form.transactionPk = some pk → ∀ j,
      ∃ records, (ctx.transactions form j).answer = .ok records ∧ records.length ≤ 1 := by
    intro form hform hpk j
    have hfits : form.KeyFits := by
      intro pk' hpk'
      cases hpk.symm.trans hpk'
      exact hkey
    obtain ⟨conditions, hconditions, hfit, -⟩ :=
      conditions_ok hform hfits hnow (lookBackFits_of_ordinary hyear)
    obtain ⟨records, hanswer, -⟩ := transactions_answer hstore hform hconditions hfit hnow
      (zoneReads_of_ordinary hyear) htimes j
    exact ⟨records, hanswer, length_le_one_of_key hstore hs hpk hanswer⟩
  refine ⟨fun form hform hpk j => ?_, fun j j' => ?_, fun key j f => details_error_values⟩
  · obtain ⟨records, hanswer, hlength⟩ := hlisting form hform hpk j
    have hsingle := transaction?_of_listing hanswer
    obtain hempty | hone := Nat.le_one_iff_eq_zero_or_eq_one.1 hlength
    · cases List.eq_nil_of_length_eq_zero hempty
      exact .inl ⟨hanswer, hsingle⟩
    · obtain ⟨record, rfl⟩ := List.length_eq_one_iff.1 hone
      exact .inr ⟨record, hanswer, hsingle⟩
  · obtain ⟨records, hanswer, hlength⟩ := hlisting _ ⟨_, QueryForm.check_key pk⟩ rfl j
    obtain ⟨rfl, hmissing⟩ | ⟨record, rfl, hfound⟩ := details_of_listing hstore hanswer hlength
    · exact .inl ⟨hanswer, hmissing⟩
    · exact .inr ⟨_, hanswer, hfound⟩

/-- At the beginning of 2026 the session of the small store is the only record of its key. -/
theorem single_row_agrees_tokyo : ∃ record,
    ((tokyo newYear2026).transactions { transactionPk := some 7 } {}).answer = .ok [record] ∧
      (tokyo newYear2026).transaction? { transactionPk := some 7 } = .ok (some record) ∧
      ∃ details, ((tokyo newYear2026).details (.int 7) {}).answer = .ok details ∧
        details.transaction = record := by
  have hyear : newYear2026.InOrdinaryYear := by decide
  have hkey : fitsInt64 7 = true := by decide
  obtain ⟨hsingle, hdetails, -⟩ := single_row_agrees rfl Store.small_satisfies
    (tokyo_instant _ _) hyear (tokyo_storedTimes newYear2026 1) hkey
  obtain ⟨found, hfound, -⟩ := details_found rfl Store.small_satisfies
    (tokyo_instant newYear2026 1) (zoneReads_of_ordinary hyear) (tokyo_storedTimes _ _) smallRow_in
    hkey {}
  obtain ⟨-, hmissing⟩ | ⟨details, hlisted, hanswer⟩ := hdetails {} {}
  · cases hfound.symm.trans hmissing
  · obtain ⟨hnone, -⟩ | ⟨record, hrecord, hone⟩ :=
      hsingle { transactionPk := some 7 } ⟨_, QueryForm.check_key 7⟩ rfl {}
    · cases hlisted.symm.trans hnone
    · cases hlisted.symm.trans hrecord
      exact ⟨_, hlisted, hone, details, hanswer, rfl⟩

end ReportContext

end ChargingReport
