import ChargingReport.Report.Export
import ChargingReport.Proofs.Except
import ChargingReport.Proofs.Query.Join

/-!
# Forms that reports do not tell apart

Reports look at a form through its conditions, and at conditions through the rows that meet them.

* `Conditions.Alike` says that two lists of conditions are met by the same rows and can be stored
  alike.  Then all selections are equal (`Store.exported_alike`, `Store.listed_alike`).
* `ReportContext.ReportAlike` says that two forms have the same listing, the same single record, the
  same export and the same stream, whether these are given or fail.  Forms with conditions that are
  alike have (`ReportContext.reportAlike_of_conditions`).
* `Store.listed_sublist` and `Store.exported_sublist` are the rows of narrower conditions.
-/

namespace ChargingReport

/-! ## Conditions -/

namespace Conditions

/-- The same rows meet the conditions, and their numbers can be stored alike. -/
structure Alike (a b : List Condition) : Prop where
  fits : a.all Condition.fits = b.all Condition.fits
  meets : ∀ r : ExportedRow, r.meets a = r.meets b

/-- Conditions in front do not matter. -/
theorem Alike.append_left {a b : List Condition} (h : Alike a b) (front : List Condition) :
    Alike (front ++ a) (front ++ b) := by
  refine ⟨?_, fun r => ?_⟩
  · rw [List.all_append, List.all_append, h.fits]
  · have hmeets := h.meets r
    unfold ExportedRow.meets at hmeets ⊢
    rw [List.all_append, List.all_append, hmeets]

end Conditions

/-! ## Selections -/

section Selections

variable {α : Type} {session : α → ExportedRow} {a b : List Condition} {rows : List α}

theorem selected_alike (h : Conditions.Alike a b) :
    selected session a rows = selected session b rows := by
  unfold selected
  simp only [h.meets]

/-- Narrower conditions select a part of the rows, in the same order. -/
theorem selected_sublist (h : ∀ r : ExportedRow, r.meets a = true → r.meets b = true) :
    (selected session a rows).Sublist (selected session b rows) := by
  rw [selected_eq_filter, selected_eq_filter]
  exact List.monotone_filter_right _ fun r => h (session r)

theorem Store.exported_alike (h : Conditions.Alike a b) (s : Store) :
    s.exported a = s.exported b :=
  selected_alike h

theorem Store.listed_alike (h : Conditions.Alike a b) (s : Store) : s.listed a = s.listed b :=
  selected_alike h

theorem Store.exported_sublist (h : ∀ r : ExportedRow, r.meets a = true → r.meets b = true)
    (s : Store) : (s.exported a).Sublist (s.exported b) :=
  selected_sublist h

theorem Store.listed_sublist (h : ∀ r : ExportedRow, r.meets a = true → r.meets b = true)
    (s : Store) : (s.listed a).Sublist (s.listed b) :=
  selected_sublist h

end Selections

/-! ## Reports -/

namespace ReportContext

variable {ctx : ReportContext} {f g : QueryForm} {a b : List Condition}

/-- The reports on two forms are equal, whether they are given or fail. -/
structure ReportAlike (ctx : ReportContext) (f g : QueryForm) : Prop where
  listing : ∀ j j', (ctx.transactions f j).answer = (ctx.transactions g j').answer
  single : ctx.transaction? f = ctx.transaction? g
  text : ∀ j j', (ctx.csvExport f j).text = (ctx.csvExport g j').text
  rows : ∀ j j', (ctx.csvExport f j).answer = (ctx.csvExport g j').answer
  chunks : ∀ j j', (ctx.stream f j).chunks = (ctx.stream g j').chunks
  failure : ∀ j j', (ctx.stream f j).failure = (ctx.stream g j').failure

/-- Reports do not look at the journal. -/
theorem ReportAlike.refl (ctx : ReportContext) (f : QueryForm) : ctx.ReportAlike f f where
  listing j j' := by
    unfold transactions
    split <;> rfl
  single := rfl
  text j j' := by
    unfold csvExport writeCsv
    split <;> rfl
  rows j j' := by
    unfold csvExport writeCsv
    split <;> rfl
  chunks j j' := by
    unfold stream
    split <;> rfl
  failure j j' := by
    unfold stream
    split <;> rfl

theorem read_alike (h : Conditions.Alike a b) : ctx.read a = ctx.read b := by
  unfold read
  rw [h.fits]

theorem listedRows_alike (h : Conditions.Alike a b) : ctx.listedRows a = ctx.listedRows b := by
  unfold listedRows
  rw [read_alike h]
  simp only [Store.listed_alike h]

theorem exportBatches_alike (h : Conditions.Alike a b) :
    ctx.exportBatches a = ctx.exportBatches b := by
  unfold exportBatches
  rw [read_alike h]
  simp only [Store.exported_alike h]

/-- The chunks of a stream and its end come from the rows of the export. -/
theorem chunks_alike (h : Conditions.Alike a b) : ctx.chunks a = ctx.chunks b := by
  unfold chunks
  rw [exportBatches_alike h]

theorem reportAlike_of_conditions {p q : QueryPeriod} (hf : f.period = .known p)
    (hg : g.period = .known q) (htype : f.type = g.type) (ha : ctx.conditions f = .ok a)
    (hb : ctx.conditions g = .ok b) (h : Conditions.Alike a b) : ctx.ReportAlike f g := by
  have hlisting : ∀ j j', (ctx.transactions f j).answer = (ctx.transactions g j').answer := by
    intro j j'
    unfold transactions listingPlan
    rw [ha, hb, hf, hg, htype]
    cases g.type with
    | unchecked value => rfl
    | known type =>
      show (ctx.listedRows a).bind _ = (ctx.listedRows b).bind _
      rw [listedRows_alike h]
  have hsingle : ctx.transaction? f = ctx.transaction? g := by
    unfold transaction?
    rw [ha, hb]
    show ctx.listedRows a >>= _ = ctx.listedRows b >>= _
    rw [listedRows_alike h]
  -- the attributes of the two plans differ, but only a span shows them
  have hplan : ∀ {form : QueryForm} {r : QueryPeriod} {c : List Condition},
      form.period = .known r → ctx.conditions form = .ok c →
        ctx.exportPlan form = .ok ⟨c, [("period_type", .text r.name)]⟩ := by
    intro form r c hform hc
    rw [exportPlan, hc, hform]
    rfl
  refine ⟨hlisting, hsingle, fun j j' => ?_, fun j j' => ?_, fun j j' => ?_, fun j j' => ?_⟩
  · unfold csvExport writeCsv
    rw [hplan hf ha, hplan hg hb]
    simp only [exportBatches_alike h, Export.text]
  · unfold csvExport writeCsv
    rw [hplan hf ha, hplan hg hb]
    simp only [exportBatches_alike h]
  · unfold stream
    rw [hplan hf ha, hplan hg hb]
    simp only [chunks_alike h]
  · unfold stream
    rw [hplan hf ha, hplan hg hb]
    simp only [chunks_alike h]

end ReportContext

end ChargingReport
