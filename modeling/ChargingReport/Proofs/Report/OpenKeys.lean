import ChargingReport.Proofs.Report.Lossless

/-!
# The keys of open sessions

The keys of the open sessions at a station come from a query of their own, which tests the station
where it joins the connectors and asks for no day.  `Store.openKeys_eq` says that it selects the rows
that the two conditions of `QueryForm.openAt` select.

* `QueryForm.check_openAt` is the form that asks for the same sessions.
* `Store.mem_openKeys` says which sessions these are.
* `ReportContext.openKeys_exported` and `ReportContext.openKeys_listed` find the keys in the export
  and in the listing of the form.

`ReportContext.open_keys_agree` puts them together.
-/

namespace ChargingReport

/-! ## The form -/

namespace QueryForm

/-- The open sessions at a station. -/
def openAt (chargeBoxId : String) : QueryForm :=
  { chargeBoxId := some chargeBoxId, type := .known .active }

/-- Every text that is not too long and not blank is the station of a form. -/
theorem check_openAt {chargeBoxId : String} (hlength : chargeBoxId.length ≤ textLimit)
    (hvisible : isBlank chargeBoxId = false) :
    check (.object [("charge_box_id", .text chargeBoxId), ("type", .text "ACTIVE")]) =
      .ok (openAt chargeBoxId) := by
  have hfilter : readFilter (.text chargeBoxId) = .ok (some chargeBoxId) := by
    rw [readFilter, if_neg (Nat.not_lt.2 hlength), hvisible]
    rfl
  have hread : FieldReadings.ofJson
      (.object [("charge_box_id", .text chargeBoxId), ("type", .text "ACTIVE")]) =
      ⟨.ok none, readFilter (.text chargeBoxId), .ok none, .ok .active, .ok .all, .ok none,
        .ok none⟩ := rfl
  rw [check, hread, hfilter]
  rfl

end QueryForm

/-! ## The rows -/

/-- A test of the right side can be made in the join or after it. -/
theorem joinOn_filter {α β γ : Type} {rows : List α} {table : List β} {fits : α → β → Bool}
    {pair : α → β → γ} {keep : β → Bool} {kept : γ → Bool} (h : ∀ a b, kept (pair a b) = keep b) :
    joinOn rows table (fun a b => fits a b && keep b) pair =
      (joinOn rows table fits pair).filter kept := by
  have hkept : ∀ a, kept ∘ pair a = keep := fun a => funext (h a)
  simp only [joinOn, List.filter_flatMap, List.filter_map, hkept, List.filter_filter]
  congr
  funext a
  congr
  funext b
  exact Bool.and_comm _ _

namespace Store

variable {s : Store} {chargeBoxId : String}

/-- The keys are those of the rows that the form of the station selects. -/
theorem openKeys_eq (s : Store) (chargeBoxId : String) :
    s.openKeys chargeBoxId =
      (s.exported [.stationIs chargeBoxId, .isOpen]).map fun r => r.transaction.pk := by
  have hstation : s.connectedAt chargeBoxId =
      s.connected.filter fun r => r.connector.chargeBoxId == chargeBoxId :=
    joinOn_filter fun _ _ => rfl
  rw [openKeys, hstation, List.filter_filter, exported, selected]
  congr
  funext r
  simp [ExportedRow.meets, Condition.holds, Bool.and_comm]

/-- The keys are those of the sessions without stop time on a connector of the station. -/
theorem mem_openKeys {k : Int} :
    k ∈ s.openKeys chargeBoxId ↔ ∃ t ∈ s.transactions, ∃ c ∈ s.connectors,
      t.connectorPk = c.pk ∧ c.chargeBoxId = chargeBoxId ∧ t.stop = none ∧ t.pk = k := by
  rw [openKeys_eq, List.mem_map]
  simp only [exported, mem_selected, mem_connected, ExportedRow.In, ExportedRow.meets, id,
    List.all_cons, List.all_nil, Condition.holds, Bool.and_true, Bool.and_eq_true, beq_iff_eq,
    Option.isNone_iff_eq_none]
  constructor
  · rintro ⟨r, ⟨⟨ht, hc, hfits⟩, hstation, hopen⟩, hpk⟩
    exact ⟨r.transaction, ht, r.connector, hc, hfits, hstation, hopen, hpk⟩
  · rintro ⟨t, ht, c, hc, hfits, hstation, hopen, hpk⟩
    exact ⟨⟨t, c⟩, ⟨⟨ht, hc, hfits⟩, hstation, hopen⟩, hpk⟩

/-- The keys fall strictly. -/
theorem openKeys_pairwise (hs : s.Satisfies Schema.declared) (chargeBoxId : String) :
    (s.openKeys chargeBoxId).Pairwise fun a b => b < a := by
  rw [openKeys_eq]
  exact List.pairwise_map.2 (exported_pairwise hs _)

end Store

/-! ## The reports -/

namespace ReportContext

variable {ctx : ReportContext} {s : Store} {now : Instant} {chargeBoxId : String}

theorem activeKeys_answer (hstore : ctx.store = some s) (chargeBoxId : String) (j : Journal) :
    (ctx.activeKeys chargeBoxId j).answer = .ok (s.openKeys chargeBoxId) := by
  have hread : ctx.read [] = .ok s := read_eq_ok.2 ⟨hstore, rfl⟩
  show (ctx.read []).map _ = _
  rw [hread]
  rfl

theorem conditions_openAt (hnow : ctx.clock.instant = .ok now) :
    ctx.conditions (.openAt chargeBoxId) = .ok [.stationIs chargeBoxId, .isOpen] := by
  rw [conditions, today_ok hnow]
  rfl

/-- The keys are the first column of the export, if it comes about. -/
theorem openKeys_exported (hstore : ctx.store = some s) (hnow : ctx.clock.instant = .ok now)
    (hbatch : 0 < ctx.batchSize) (j : Journal) :
    (∃ lines,
        Csv.read (ctx.csvExport (.openAt chargeBoxId) j).text = .ok (exportColumns :: lines) ∧
        lines.map List.head? = (s.openKeys chargeBoxId).map (fun k => some (intText k)) ∧
        (ctx.csvExport (.openAt chargeBoxId) j).answer = .ok (s.openKeys chargeBoxId).length) ∨
      batchLimit < ctx.batchSize ∧
        ∃ f, (ctx.csvExport (.openAt chargeBoxId) j).answer = .error f := by
  have hplan : ctx.exportPlan (.openAt chargeBoxId) =
      .ok ⟨[.stationIs chargeBoxId, .isOpen], [("period_type", .text "ALL")]⟩ := by
    rw [exportPlan, conditions_openAt hnow]
    rfl
  refine (csvExport_cases hbatch hplan (read_eq_ok.2 ⟨hstore, rfl⟩) j).imp_left ?_
  rintro ⟨htext, hcount⟩
  refine ⟨_, by rw [htext, Csv.read_exportText], ?_, ?_⟩
  · rw [Store.openKeys_eq, List.map_map, List.map_map, List.map_map]
    rfl
  · rw [hcount, Store.openKeys_eq, List.length_map]

/-- The keys are those of the listing, if the station of every connector and the tag of every session
are there. -/
theorem openKeys_listed (hstore : ctx.store = some s) (hs : s.Satisfies Schema.declared)
    (hform : (QueryForm.openAt chargeBoxId).Checked) (hnow : ctx.clock.instant = .ok now)
    (hclock : ctx.ZoneReads now) (htimes : ctx.StoredTimesConvertible s)
    (hresolve : s.StationsAndTagsResolve) (j : Journal) :
    ∃ records, (ctx.transactions (.openAt chargeBoxId) j).answer = .ok records ∧
      records.map TransactionRecord.pk = s.openKeys chargeBoxId := by
  obtain ⟨records, hanswer, hall⟩ := transactions_answer hstore hform (conditions_openAt hnow) rfl
    hnow hclock htimes j
  have hcomplete : (s.exported [.stationIs chargeBoxId, .isOpen]).filter
      (fun r => decide (r.Complete s)) = s.exported [.stationIs chargeBoxId, .isOpen] := by
    refine List.filter_eq_self.2 fun r hr => ?_
    have hin : r.In s := Store.mem_connected.1 (mem_selected.1 hr).1
    exact decide_eq_true (hin.complete hresolve)
  have hrows := Store.map_exported_listed hs [.stationIs chargeBoxId, .isOpen]
  rw [hcomplete] at hrows
  refine ⟨records, hanswer, ?_⟩
  rw [map_pk_records hall, Store.openKeys_eq, ← hrows, List.map_map]
  rfl

/-- The keys of the open sessions at a station, for any text that a form takes as a station.

* They are given and fall strictly.
* They are those of the sessions without stop time on a connector of the station.
* The form of the station and of open sessions is accepted.  If there is a day, the keys are the
  first column of its export, unless the export fails for batches that are too large.
* The listing of the form can be made if the clock instant and the stored times can be displayed.
  Then the keys are those of its records, if the station of every connector and the tag of every
  session are there. -/
theorem open_keys_agree (hstore : ctx.store = some s) (hs : s.Satisfies Schema.declared)
    (hlength : chargeBoxId.length ≤ textLimit) (hvisible : isBlank chargeBoxId = false) :
    ∃ keys : List Int, (∀ j, (ctx.activeKeys chargeBoxId j).answer = .ok keys) ∧
      keys.Pairwise (fun a b => b < a) ∧
      (∀ k, k ∈ keys ↔ ∃ t ∈ s.transactions, ∃ c ∈ s.connectors,
        t.connectorPk = c.pk ∧ c.chargeBoxId = chargeBoxId ∧ t.stop = none ∧ t.pk = k) ∧
      ∃ form, QueryForm.check
          (.object [("charge_box_id", .text chargeBoxId), ("type", .text "ACTIVE")]) = .ok form ∧
        ∀ now, ctx.clock.instant = .ok now →
          (0 < ctx.batchSize → ∀ j,
            (∃ lines, Csv.read (ctx.csvExport form j).text = .ok (exportColumns :: lines) ∧
              lines.map List.head? = keys.map (fun k => some (intText k)) ∧
              (ctx.csvExport form j).answer = .ok keys.length) ∨
            batchLimit < ctx.batchSize ∧ ∃ f, (ctx.csvExport form j).answer = .error f) ∧
          (ctx.ZoneReads now → ctx.StoredTimesConvertible s → s.StationsAndTagsResolve → ∀ j,
            ∃ records, (ctx.transactions form j).answer = .ok records ∧
              records.map TransactionRecord.pk = keys) := by
  have hcheck := QueryForm.check_openAt hlength hvisible
  refine ⟨s.openKeys chargeBoxId, activeKeys_answer hstore chargeBoxId,
    Store.openKeys_pairwise hs chargeBoxId, fun _ => Store.mem_openKeys,
    .openAt chargeBoxId, hcheck, fun now hnow => ⟨fun hbatch => ?_,
    fun hclock htimes hresolve => ?_⟩⟩
  · exact openKeys_exported hstore hnow hbatch
  · exact openKeys_listed hstore hs ⟨_, hcheck⟩ hnow hclock htimes hresolve

/-! ## An open session in Tokyo -/

/-- The session of the small store while it is still open. -/
def smallOpen : Transaction := { Transaction.small with stop := none, stopValue := none }

/-- The small store while its session is still open. -/
def openStore : Store := { Store.small with transactions := [smallOpen] }

/-- A report on the small store while its session is still open. -/
def tokyoOpen (clock : Instant) (batchSize : Nat) : ReportContext :=
  { tokyo clock batchSize with store := some openStore }

theorem openStore_satisfies : openStore.Satisfies Schema.declared := by decide

theorem tokyoOpen_instant (clock : Instant) (batchSize : Nat) :
    (tokyoOpen clock batchSize).clock.instant = .ok clock :=
  stamp_instant clock

theorem tokyoOpen_storedTimes (clock : Instant) (batchSize : Nat) :
    (tokyoOpen clock batchSize).StoredTimesConvertible openStore := by
  intro t ht
  cases List.mem_singleton.1 ht
  exact ⟨⟨_, ofKey_tokyo, by decide⟩, nofun⟩

/-- The key of the open session is a key, and no other number is. -/
theorem mem_openStore_iff (k : Int) :
    (∃ t ∈ openStore.transactions, ∃ c ∈ openStore.connectors,
      t.connectorPk = c.pk ∧ c.chargeBoxId = "CB" ∧ t.stop = none ∧ t.pk = k) ↔ k = 7 := by
  simp [openStore, Store.small, smallOpen, Transaction.small, eq_comm]

theorem keys_eq_seven {keys : List Int} (hfalling : keys.Pairwise fun a b => b < a)
    (hmem : ∀ k, k ∈ keys ↔ k = 7) : keys = [7] := by
  have hkey : keys.Pairwise fun a b => id b < id a := hfalling
  exact eq_of_falling hkey (List.pairwise_singleton _ _) fun k => (hmem k).trans (by simp)

theorem length_cb : "CB".length ≤ textLimit := by decide

theorem isBlank_cb : isBlank "CB" = false := by decide

/-- At the beginning of 2026 the one open session is exported and listed. -/
theorem open_keys_agree_tokyo : ∃ form lines records,
    ((tokyoOpen newYear2026 1).activeKeys "CB" {}).answer = .ok [7] ∧
      QueryForm.check (.object [("charge_box_id", .text "CB"), ("type", .text "ACTIVE")]) =
        .ok form ∧
      Csv.read ((tokyoOpen newYear2026 1).csvExport form {}).text =
        .ok (exportColumns :: lines) ∧
      lines.map List.head? = [some "7"] ∧
      ((tokyoOpen newYear2026 1).transactions form {}).answer = .ok records ∧
      records.map TransactionRecord.pk = [7] := by
  have hstore : (tokyoOpen newYear2026 1).store = some openStore := rfl
  obtain ⟨keys, hkeys, hfalling, hmem, form, hform, hreports⟩ :=
    open_keys_agree hstore openStore_satisfies length_cb isBlank_cb
  have hone : keys = [7] := keys_eq_seven hfalling fun k => (hmem k).trans (mem_openStore_iff k)
  subst hone
  obtain ⟨hexport, hlisting⟩ := hreports newYear2026 (tokyoOpen_instant _ _)
  obtain ⟨lines, hlines, hfirst, -⟩ :=
    (hexport (by decide) {}).resolve_right fun h => absurd h.1 (by decide)
  have hseven : intText 7 = "7" := by simp [intText, natText, natDigits, digitChar]
  rw [List.map_singleton, hseven] at hfirst
  obtain ⟨records, hrecords, hpks⟩ := hlisting (zoneReads_of_ordinary (by decide))
    (tokyoOpen_storedTimes _ _) (by decide) {}
  exact ⟨form, lines, records, hkeys {}, hform, hlines, hfirst, hrecords, hpks⟩

/-- The row of the open session. -/
def openRow : ListedRow := ⟨smallOpen, ⟨3, "CB", 1⟩, ⟨1, "CB", none⟩, ⟨2, "TAG", none⟩⟩

theorem openRow_listed : openRow ∈ openStore.listed [.stationIs "CB", .isOpen] :=
  mem_selected.2 (by decide)

/-- The keys ask for no day, no batch and no display.  So there are settings and a clock for which
they are given, and neither the export nor the listing has a row. -/
theorem open_keys_alone : ∃ (ctx : ReportContext) (s : Store) (chargeBoxId : String)
    (form : QueryForm), ctx.store = some s ∧ s.Satisfies Schema.declared ∧
      s.StationsAndTagsResolve ∧ chargeBoxId.length ≤ textLimit ∧ isBlank chargeBoxId = false ∧
      QueryForm.check
        (.object [("charge_box_id", .text chargeBoxId), ("type", .text "ACTIVE")]) = .ok form ∧
      (ctx.activeKeys chargeBoxId {}).answer = .ok [7] ∧
      (ctx.csvExport form {}).text = Csv.encode [exportColumns] ∧
      (ctx.csvExport form {}).answer = .error .batchUnbounded ∧
      ∀ records, (ctx.transactions form {}).answer ≠ .ok records := by
  have hcheck := QueryForm.check_openAt length_cb isBlank_cb
  have hconditions : (tokyoOpen lastHour uncountedBatch).conditions (.openAt "CB") =
      .ok [.stationIs "CB", .isOpen] := conditions_openAt (tokyoOpen_instant _ _)
  have hread : (tokyoOpen lastHour uncountedBatch).read [.stationIs "CB", .isOpen] =
      .ok openStore := rfl
  have hkeys : openStore.openKeys "CB" = [7] :=
    keys_eq_seven (Store.openKeys_pairwise openStore_satisfies "CB") fun k =>
      Store.mem_openKeys.trans (mem_openStore_iff k)
  obtain ⟨attributes, hplan⟩ := exportPlan_ok ⟨_, hcheck⟩ hconditions
  obtain ⟨htext, hanswer⟩ := csvExport_error hplan (exportBatches_uncounted rfl rfl hread) {}
  refine ⟨tokyoOpen lastHour uncountedBatch, openStore, "CB", .openAt "CB", rfl,
    openStore_satisfies, by decide, length_cb, isBlank_cb, hcheck, ?_, htext, hanswer,
    fun records hrecords => ?_⟩
  · rw [activeKeys_answer rfl, hkeys]
  · obtain ⟨conditions, _, _, s, hfound, -, -, hread', hmap⟩ := transactions_eq_ok.1 hrecords
    cases hconditions.symm.trans hfound
    cases hread.symm.trans hread'
    obtain ⟨r, -, hr⟩ := forall₂_mem_left (forall₂_of_mapM_ok hmap) openRow_listed
    -- a display compares with the clock, which Tokyo cannot read
    have hdisplay : (tokyoOpen lastHour uncountedBatch).display (some newYear2026) =
        .error (.calendar .outOfRange) := by
      unfold display displayStamp
      simp only [tokyoOpen, tokyo, ofKey_tokyo, Option.map_some]
      rfl
    cases hdisplay.symm.trans (record_spec hr).startDisplay

end ReportContext

end ChargingReport
