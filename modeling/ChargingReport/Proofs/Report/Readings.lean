import ChargingReport.Report.Details
import ChargingReport.Proofs.Calendar.Column
import Mathlib.Data.List.Nodup

/-!
# Groups of candidates

`firstSeen` makes readings of candidates.

* Every sample of a candidate is in exactly one reading (`nodup_firstSeen`, `mem_firstSeen_sample`).
* `mem_firstSeen` says that the time of a reading is the time of a candidate with its sample, and
  that no other one is earlier.
* `firstSeen_pairwise` says that readings are in the order of their times.
-/

namespace ChargingReport

/-- What is kept of a list without its repetitions has none. -/
theorem nodup_eraseDups {α : Type} [BEq α] [LawfulBEq α] (xs : List α) : xs.eraseDups.Nodup := by
  match xs with
  | [] =>
    rw [List.eraseDups_nil]
    exact List.nodup_nil
  | x :: xs =>
    rw [List.eraseDups_cons, List.nodup_cons]
    refine ⟨fun hx => ?_, nodup_eraseDups _⟩
    have hne := (List.mem_filter.1 (List.mem_eraseDups.1 hx)).2
    rw [beq_self_eq_true] at hne
    cases hne
termination_by xs.length
decreasing_by
  exact Nat.lt_succ_of_le (List.length_filter_le _ _)

variable {candidates : List Candidate} {sample : Sample} {r : Reading}

/-! ## Samples and times -/

theorem mem_timesOf {time : Instant} :
    time ∈ timesOf candidates sample ↔ ∃ c ∈ candidates, c.sample = sample ∧ c.time = time := by
  simp only [timesOf, List.mem_map, List.mem_filter, decide_eq_true_eq, and_assoc]

theorem nodup_samplesOf (candidates : List Candidate) : (samplesOf candidates).Nodup := by
  rw [samplesOf, (List.mergeSort_perm _ _).nodup_iff]
  exact nodup_eraseDups _

theorem mem_samplesOf : sample ∈ samplesOf candidates ↔ ∃ c ∈ candidates, c.sample = sample := by
  rw [samplesOf, (List.mergeSort_perm _ _).mem_iff, List.mem_eraseDups, List.mem_map]

/-- A sample of a candidate has an earliest time. -/
theorem earliest_timesOf (h : sample ∈ samplesOf candidates) :
    ∃ time, Instant.earliest? (timesOf candidates sample) = some time := by
  obtain ⟨c, hc, hsample⟩ := mem_samplesOf.1 h
  have hmem : c.time ∈ timesOf candidates sample := mem_timesOf.2 ⟨c, hc, hsample, rfl⟩
  exact Instant.earliest?_isSome (List.ne_nil_of_mem hmem)

/-! ## Groups -/

theorem mem_grouped : r ∈ grouped candidates ↔ r.sample ∈ samplesOf candidates ∧
    Instant.earliest? (timesOf candidates r.sample) = some r.time := by
  simp only [grouped, List.mem_filterMap, Option.map_eq_some_iff]
  constructor
  · rintro ⟨sample, hsample, time, htime, rfl⟩
    exact ⟨hsample, htime⟩
  · rintro ⟨hsample, htime⟩
    exact ⟨r.sample, hsample, r.time, htime, rfl⟩

/-- There is one group for every sample. -/
theorem map_sample_grouped (candidates : List Candidate) :
    (grouped candidates).map Reading.sample = samplesOf candidates := by
  have hgroup : ∀ sample ∈ samplesOf candidates,
      ((Instant.earliest? (timesOf candidates sample)).map fun time => (⟨time, sample⟩ : Reading)).map
        Reading.sample = some sample := by
    intro sample hsample
    obtain ⟨time, htime⟩ := earliest_timesOf hsample
    rw [htime]
    rfl
  rw [grouped, List.map_filterMap, List.filterMap_congr hgroup, List.filterMap_some]

/-! ## First readings -/

theorem firstSeen_perm (candidates : List Candidate) :
    (firstSeen candidates).Perm (grouped candidates) :=
  List.mergeSort_perm _ _

theorem nodup_firstSeen (candidates : List Candidate) :
    ((firstSeen candidates).map Reading.sample).Nodup := by
  rw [((firstSeen_perm candidates).map Reading.sample).nodup_iff, map_sample_grouped]
  exact nodup_samplesOf candidates

theorem mem_firstSeen_sample :
    sample ∈ (firstSeen candidates).map Reading.sample ↔ ∃ c ∈ candidates, c.sample = sample := by
  rw [((firstSeen_perm candidates).map Reading.sample).mem_iff, map_sample_grouped, mem_samplesOf]

/-- A reading has the least time of the candidates with its sample. -/
theorem mem_firstSeen (h : r ∈ firstSeen candidates) :
    (∃ c ∈ candidates, c.sample = r.sample ∧ c.time = r.time) ∧
      ∀ c ∈ candidates, c.sample = r.sample → r.time.ticks ≤ c.time.ticks := by
  obtain ⟨-, htime⟩ := mem_grouped.1 ((firstSeen_perm candidates).mem_iff.1 h)
  obtain ⟨hmem, hleast⟩ := Instant.earliest?_eq_some htime
  refine ⟨mem_timesOf.1 hmem, fun c hc hsample => ?_⟩
  exact hleast c.time (mem_timesOf.2 ⟨c, hc, hsample, rfl⟩)

/-- With more candidates a reading is not lost, and its time is not later.  It is the same if no new
candidate with its sample is earlier. -/
theorem firstSeen_widens {more : List Candidate} (hmore : candidates ⊆ more)
    (h : r ∈ firstSeen candidates) :
    ∃ q ∈ firstSeen more, q.sample = r.sample ∧ q.time.ticks ≤ r.time.ticks ∧
      ((∀ c ∈ more, c ∉ candidates → c.sample = r.sample → r.time.ticks ≤ c.time.ticks) →
        q.time = r.time) := by
  obtain ⟨⟨c, hc, hsample, htime⟩, hleast⟩ := mem_firstSeen h
  obtain ⟨q, hq, hqsample⟩ := List.mem_map.1 (mem_firstSeen_sample.2 ⟨c, hmore hc, hsample⟩)
  obtain ⟨⟨c', hc', hsample', htime'⟩, hleast'⟩ := mem_firstSeen hq
  have hle : q.time.ticks ≤ r.time.ticks :=
    htime ▸ hleast' c (hmore hc) (hsample.trans hqsample.symm)
  refine ⟨q, hq, hqsample, hle, fun hnew => Instant.ext_ticks (Nat.le_antisymm hle ?_)⟩
  rw [← htime']
  by_cases hold : c' ∈ candidates
  · exact hleast c' hold (hsample'.trans hqsample)
  · exact hnew c' hc' hold (hsample'.trans hqsample)

theorem firstSeen_pairwise (candidates : List Candidate) :
    (firstSeen candidates).Pairwise fun a b => a.time.ticks ≤ b.time.ticks := by
  have hsorted : (firstSeen candidates).Pairwise fun a b => a.time.columnLe b.time = true := by
    refine List.pairwise_mergeSort ?_ ?_ (grouped candidates)
    · intro a b c hab hbc
      rw [Instant.columnLe_iff] at hab hbc ⊢
      exact Nat.le_trans hab hbc
    · intro a b
      rw [Bool.or_eq_true, Instant.columnLe_iff, Instant.columnLe_iff]
      exact Nat.le_total _ _
  exact hsorted.imp fun h => Instant.columnLe_iff.1 h

end ChargingReport
