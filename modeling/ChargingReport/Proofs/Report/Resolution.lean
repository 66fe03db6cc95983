import ChargingReport.Proofs.Report.Agreement
import ChargingReport.Proofs.Report.Lookup
import ChargingReport.Proofs.Store.References

/-!
# Dangling references in reports

An export shows every session that has a connector.  Listings and details also want the station of
the connector and the tag of the session.  So a session of an export can be listed and looked up just
when these two are there (`ReportContext.exported_listed_iff`, `ReportContext.exported_found_iff`).

References that resolve are enough for that (`Store.ReferencesResolve.stationsAndTags`), and
`Store.run_references` says over which histories they do.
-/

namespace ChargingReport

/-! ## Stations and tags -/

/-- Where references resolve, connectors have their stations, and sessions their tags. -/
theorem Store.ReferencesResolve.stationsAndTags {s : Store}
    (h : s.ReferencesResolve Schema.declared) : s.StationsAndTagsResolve := by
  constructor
  · intro c hc
    have hset : cellAt c.cells "charge_box_id" = .text c.chargeBoxId := by
      simp [cellAt, Connector.cells, List.lookup_cons]
    obtain ⟨row, hrow, hsame⟩ := h.named .connector .chargeBox rfl
      (List.mem_singleton_self _) (List.mem_map_of_mem hc) (by simp [hset])
    obtain ⟨b, hb, rfl⟩ := List.mem_map.1 hrow
    rw [hset] at hsame
    refine ⟨b, hb, ?_⟩
    simpa [cellAt, ChargeBox.cells, List.lookup_cons] using hsame
  · intro t ht
    have hset : cellAt t.cells "id_tag" = .text t.idTag := by
      simp [cellAt, Transaction.cells, List.lookup_cons]
    obtain ⟨row, hrow, hsame⟩ := h.named .transaction .tag rfl
      (List.mem_cons_of_mem _ (List.mem_singleton_self _)) (List.mem_map_of_mem ht)
      (by simp [hset])
    obtain ⟨g, hg, rfl⟩ := List.mem_map.1 hrow
    rw [hset] at hsame
    refine ⟨g, hg, ?_⟩
    simpa [cellAt, Tag.cells, List.lookup_cons] using hsame

/-- Where references resolve, every session has its row of the four tables. -/
theorem Store.ReferencesResolve.exists_row {s : Store} (h : s.ReferencesResolve Schema.declared)
    {t : Transaction} (ht : t ∈ s.transactions) :
    ∃ row : ListedRow, row.In s ∧ row.transaction = t := by
  have hset : cellAt t.cells "connector_pk" = .integer t.connectorPk := by
    simp [cellAt, Transaction.cells, List.lookup_cons]
  obtain ⟨cells, hcells, hsame⟩ := h.named .transaction .connector rfl List.mem_cons_self
    (List.mem_map_of_mem ht) (by simp [hset])
  obtain ⟨c, hc, rfl⟩ := List.mem_map.1 hcells
  rw [hset] at hsame
  have hconnector : c.pk = t.connectorPk := by
    simpa [cellAt, Connector.cells, List.lookup_cons] using hsame
  obtain ⟨b, hb, hbox⟩ := h.stationsAndTags.1 c hc
  obtain ⟨g, hg, htag⟩ := h.stationsAndTags.2 t ht
  exact ⟨⟨t, c, b, g⟩, ⟨⟨ht, hc, hconnector.symm⟩, ⟨hb, hbox⟩, hg, htag⟩, rfl⟩

/-! ## Sessions that are exported -/

namespace Store

variable {s : Store}

/-- An exported row is complete just when the four tables have a row with its session. -/
theorem complete_iff_in {row : ExportedRow} (hrow : row.In s) :
    row.Complete s ↔ ∃ listed : ListedRow, listed.In s ∧ listed.exported = row := by
  constructor
  · rintro ⟨⟨b, hb, hbox⟩, g, hg, htag⟩
    exact ⟨⟨row.transaction, row.connector, b, g⟩, ⟨hrow, ⟨hb, hbox⟩, hg, htag⟩, rfl⟩
  · rintro ⟨listed, ⟨-, ⟨hb, hbox⟩, hg, htag⟩, rfl⟩
    exact ⟨⟨listed.chargeBox, hb, hbox⟩, listed.tag, hg, htag⟩

/-- A row of the four tables with the key of an exported row has this row in it. -/
theorem exported_eq_of_key (hs : s.Satisfies Schema.declared) {row : ExportedRow} (hrow : row.In s)
    {listed : ListedRow} (hlisted : listed.In s)
    (hkey : listed.transaction.pk = row.transaction.pk) : listed.exported = row :=
  List.inj_on_of_nodup_map (connected_keys_nodup hs) (mem_connected.2 hlisted.1)
    (mem_connected.2 hrow) hkey

end Store

namespace ReportContext

variable {ctx : ReportContext} {s : Store} {now : Instant} {conditions : List Condition}

/-- Of the sessions of an export, those that are complete are listed. -/
theorem exported_listed_iff (hs : s.Satisfies Schema.declared) {records : List TransactionRecord}
    (hall : List.Forall₂ (TransactionRecord.Of ctx) (s.listed conditions) records)
    {row : ExportedRow} (hrow : row ∈ s.exported conditions) :
    (∃ r ∈ records, r.pk = row.transaction.pk) ↔ row.Complete s := by
  obtain ⟨hin, hmeets⟩ := mem_selected.1 hrow
  rw [Store.mem_connected] at hin
  constructor
  · rintro ⟨r, hr, hpk⟩
    -- the record was made from a row of the four tables, which has the session of this row
    obtain ⟨listed, hlisted, hof⟩ := forall₂_mem_right hall hr
    have hlistedIn := Store.mem_completed.1 (mem_selected.1 hlisted).1
    refine (Store.complete_iff_in hin).2 ⟨listed, hlistedIn, ?_⟩
    exact Store.exported_eq_of_key hs hin hlistedIn (hof.pk.symm.trans hpk)
  · intro hcomplete
    obtain ⟨listed, hlistedIn, rfl⟩ := (Store.complete_iff_in hin).1 hcomplete
    have hlisted : listed ∈ s.listed conditions :=
      mem_selected.2 ⟨Store.mem_completed.2 hlistedIn, hmeets⟩
    obtain ⟨r, hr, hof⟩ := forall₂_mem_left hall hlisted
    exact ⟨r, hr, hof.pk⟩

/-- A stored session that has a connector has details if it is complete, and is not found if it is
not. -/
theorem exported_found_iff (hstore : ctx.store = some s) (hs : s.Satisfies Schema.declared)
    (hfit : s.NumbersFit) (hnow : ctx.clock.instant = .ok now) (hclock : ctx.ZoneReads now)
    (htimes : ctx.StoredTimesConvertible s) {row : ExportedRow} (hrow : row.In s) (j : Journal) :
    (row.Complete s → ∃ d, (ctx.details (.int row.transaction.pk) j).answer = .ok d) ∧
      (¬ row.Complete s → (ctx.details (.int row.transaction.pk) j).answer =
        .error (.notFound (Json.int row.transaction.pk).shown)) := by
  have hkey : fitsInt64 row.transaction.pk = true := hfit.transactionKey hrow.1
  constructor
  · intro hcomplete
    obtain ⟨listed, hlistedIn, rfl⟩ := (Store.complete_iff_in hrow).1 hcomplete
    obtain ⟨d, hd, -⟩ := details_found hstore hs hnow hclock htimes hlistedIn hkey j
    exact ⟨d, hd⟩
  · intro hpartial
    refine details_missing hstore hnow hkey (fun listed hlistedIn hpk => ?_) j
    apply hpartial
    exact (Store.complete_iff_in hrow).2
      ⟨listed, hlistedIn, Store.exported_eq_of_key hs hrow hlistedIn hpk⟩

end ReportContext

/-! ## Histories -/

namespace Store

/-- No reference dangles over a history just when no accepted write adds a row that dangles, and
whether a row is accepted depends on its own table alone.  A session of an export is listed, and has
details, just when its station and its tag are there.  Where references resolve they are. -/
theorem run_references (writes : List Write) :
    let s := empty.run Schema.declared writes
    ((∀ n, (empty.run Schema.declared (writes.take n)).ReferencesResolve Schema.declared) ↔
        ∀ n w, writes[n]? = some w →
          (empty.run Schema.declared (writes.take n)).AddsResolved Schema.declared w) ∧
      (∀ (draft : Draft) (s' : Store), s'.rowCells draft.table = s.rowCells draft.table →
        (s'.insert Schema.declared draft).map Prod.fst =
          (s.insert Schema.declared draft).map Prod.fst) ∧
      ∀ (ctx : ReportContext) (form : QueryForm) (now : Instant) (j : Journal),
        ctx.store = some s → form.Checked → form.KeyFits → ctx.clock.instant = .ok now →
        now.InOrdinaryYear → ctx.StoredTimesConvertible s → 0 < ctx.batchSize →
        ctx.batchSize ≤ batchLimit →
        ∃ records rows, (ctx.transactions form j).answer = .ok records ∧
          (ctx.csvExport form j).text = exportText rows ∧
          (∀ row, row ∈ rows ↔
            row.In s ∧ form.Selects ctx.days now.day row.transaction row.connector) ∧
          (∀ row ∈ rows, ((∃ r ∈ records, r.pk = row.transaction.pk) ↔ row.Complete s) ∧
            (row.Complete s → ∃ d, (ctx.details (.int row.transaction.pk) j).answer = .ok d) ∧
            (¬ row.Complete s → (ctx.details (.int row.transaction.pk) j).answer =
              .error (.notFound (Json.int row.transaction.pk).shown))) ∧
          (s.ReferencesResolve Schema.declared → ∀ row ∈ rows, row.Complete s) := by
  intro s
  have hs : s.Satisfies Schema.declared := run_satisfies empty_satisfies writes
  have hfit : s.NumbersFit := run_numbersFit empty_numbersFit writes
  refine ⟨run_resolve_iff writes, fun draft s' => insert_answer_congr,
    fun ctx form now j hstore hform hkey hnow hyear htimes hbatch hlimit => ?_⟩
  have hclock : ctx.ZoneReads now := ReportContext.zoneReads_of_ordinary hyear
  obtain ⟨conditions, hconditions, hfits, hholds⟩ := ReportContext.conditions_ok hform hkey hnow
    (ReportContext.lookBackFits_of_ordinary hyear)
  obtain ⟨records, hanswer, hall⟩ :=
    ReportContext.transactions_answer hstore hform hconditions hfits hnow hclock htimes j
  obtain ⟨attributes, hplan⟩ := ReportContext.exportPlan_ok hform hconditions
  have hfetch := ReportContext.fetches_of_le (ReportContext.read_eq_ok.2 ⟨hstore, hfits⟩) hlimit
  obtain ⟨htext, -, -⟩ := ReportContext.csvExport_ok hbatch hplan hfetch j
  have hin : ∀ row ∈ s.exported conditions, row.In s := fun row hrow =>
    mem_connected.1 (mem_selected.1 hrow).1
  refine ⟨records, s.exported conditions, hanswer, htext,
    fun row => ReportContext.mem_exported_iff hholds, fun row hrow => ?_,
    fun hresolve row hrow => (hin row hrow).complete hresolve.stationsAndTags⟩
  exact ⟨ReportContext.exported_listed_iff hs hall hrow,
    ReportContext.exported_found_iff hstore hs hfit hnow hclock htimes (hin row hrow) j⟩

/-- A write with a connector whose station is not there, and a session on this connector. -/
def unplacedWrite : Write :=
  .add [.connector { pk := some 3, chargeBoxId := some "CB", number := some 1 },
    .tag { pk := some 2, idTag := some "TAG" },
    .transaction
      { pk := some 7, connectorPk := some 3, idTag := some "TAG", start := some newYear2026.stamp,
        startValue := some "100", stop := Transaction.small.stop.map Instant.stamp,
        stopValue := some "200" }]

/-- The small store without its station and its readings. -/
def unplaced : Store := { small with chargeBoxes := [], meterValues := [] }

theorem run_unplacedWrite : empty.run Schema.declared [unplacedWrite] = unplaced := by
  decide

/-- The write is accepted, and its connector names no station. -/
theorem unplacedWrite_dangles : ∃ (w : Write) (s' : Store),
    empty.write Schema.declared w = .ok s' ∧ ¬ s'.ReferencesResolve Schema.declared ∧
      ∃ c ∈ s'.connectors, ∀ b ∈ s'.chargeBoxes, b.chargeBoxId ≠ c.chargeBoxId :=
  ⟨unplacedWrite, unplaced, by decide, by decide, by decide⟩

/-- The session that has no station is exported, and it is neither listed nor found. -/
theorem run_references_unplaced :
    let ctx := { ReportContext.tokyo newYear2026 with store := some unplaced }
    ∃ records rows, (ctx.transactions {} {}).answer = .ok records ∧
      (ctx.csvExport {} {}).text = exportText rows ∧ ReportContext.smallRow.exported ∈ rows ∧
      (¬ ∃ r ∈ records, r.pk = 7) ∧
      (ctx.details (.int 7) {}).answer = .error (.notFound (Json.int 7).shown) := by
  intro ctx
  have htimes : ctx.StoredTimesConvertible (empty.run Schema.declared [unplacedWrite]) := by
    rw [run_unplacedWrite]
    exact ReportContext.tokyo_storedTimes newYear2026 1
  obtain ⟨-, -, hreport⟩ := run_references [unplacedWrite]
  obtain ⟨records, rows, hanswer, htext, hmem, hrows, -⟩ := hreport ctx {} newYear2026 {}
    (congrArg some run_unplacedWrite.symm) ⟨.object [], rfl⟩ ReportContext.keyFits_default
    (ReportContext.tokyo_instant newYear2026 1) (by decide) htimes (by decide) (by decide)
  rw [run_unplacedWrite] at hmem hrows
  have hrow : ReportContext.smallRow.exported ∈ rows :=
    (hmem _).2 ⟨ReportContext.smallRow_in.1, ReportContext.selects_default _ _ _ _⟩
  have hpartial : ¬ ReportContext.smallRow.exported.Complete unplaced := by decide
  obtain ⟨hlisted, -, hmissing⟩ := hrows _ hrow
  exact ⟨records, rows, hanswer, htext, hrow, fun h => hpartial (hlisted.1 h), hmissing hpartial⟩

end Store

end ChargingReport
