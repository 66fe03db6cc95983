import ChargingReport.Csv.Reader
import ChargingReport.Journal.Metrics
import ChargingReport.Report.Details

/-!
# The books of the service

`Finished` is how a request ended, and `Metrics.record` is what the service counts of it.
`Metrics.Balances` says that the metrics are what a list of finished requests adds up to, each number
by itself and all of them against each other.  `Metrics.Balances.record` is the step: the books
balance again when one more request is counted.

The numbers are read off tallies.  A label counts what was added to it (`Tally.lookup_add`), and so
does every group of labels (`Tally.totalOf_add`).
-/

namespace ChargingReport

/-! ## Tallies -/

namespace Tally

variable {κ : Type} [DecidableEq κ] {tally : Tally κ} {label other : κ}

/-- The counts of all labels of a group together. -/
def totalOf (group : κ → Bool) (tally : Tally κ) : Nat :=
  sumOf ((tally.filter fun entry => group entry.1).map Prod.snd)

theorem lookup_entry (first other : κ) (n : Nat) (rest : List (κ × Nat)) :
    List.lookup other ((first, n) :: rest) =
      if first = other then some n else List.lookup other rest := by
  by_cases h : first = other
  · simp [h]
  · have hne : (other == first) = false := beq_false_of_ne fun heq => h heq.symm
    simp [List.lookup_cons, hne, h]

theorem lookup_add (tally : Tally κ) (label other : κ) (n : Nat) :
    (tally.add label n).lookup other =
      if label = other then some (tally.count label + n) else tally.lookup other := by
  induction tally with
  | nil => simp [add, count, lookup_entry]
  | cons entry rest ih =>
    obtain ⟨first, m⟩ := entry
    simp only [add]
    by_cases hfirst : first = label
    · subst hfirst
      by_cases h : first = other
      · simp [count, h]
      · simp [lookup_entry, h]
    · rw [if_neg hfirst, lookup_entry, lookup_entry, ih]
      by_cases hother : first = other
      · have hlabel : ¬ label = other := fun heq => hfirst (hother.trans heq.symm)
        simp [hother, hlabel]
      · simp [count, lookup_entry, hother, hfirst]

theorem count_add (tally : Tally κ) (label other : κ) (n : Nat) :
    (tally.add label n).count other = tally.count other + if label = other then n else 0 := by
  unfold count
  rw [lookup_add]
  by_cases h : label = other
  · subst h
    simp [count]
  · simp [h]

/-- A group counts what is added to its labels. -/
theorem totalOf_add (group : κ → Bool) (tally : Tally κ) (label : κ) (n : Nat) :
    (tally.add label n).totalOf group = tally.totalOf group + if group label then n else 0 := by
  induction tally with
  | nil =>
    by_cases h : group label
    · simp [add, totalOf, h, sumOf]
    · simp [add, totalOf, h, sumOf]
  | cons entry rest ih =>
    obtain ⟨first, count⟩ := entry
    unfold totalOf at ih ⊢
    simp only [add]
    by_cases hfirst : first = label
    · subst hfirst
      rw [if_pos rfl]
      by_cases h : group first
      · simp [h, sumOf]
        omega
      · simp [h]
    · rw [if_neg hfirst]
      by_cases h : group first
      · simp [h, sumOf, ih]
        omega
      · simp [h, ih]

end Tally

theorem sumOf_append (xs ys : List Nat) : sumOf (xs ++ ys) = sumOf xs + sumOf ys := by
  induction xs with
  | nil => simp [sumOf]
  | cons n xs ih =>
    simp only [List.cons_append, sumOf, ih]
    omega

/-! ## Finished requests -/

/-- The number of data rows of a text with a header. -/
def dataRows (text : String) : Nat :=
  match Csv.read text with
  | .ok (_ :: records) => records.length
  | _ => 0

/-- The rows that an export is counted with, by its text and the failure that broke it off.  Only an
export that ran to its end is counted. -/
def countedRows : Option (String × Option Failure) → Nat
  | some (text, none) => dataRows text
  | _ => 0

/-- How a request ended: the labels that it is counted under, the failure that left its handler before
there was an answer, what a lookup of a session ended with, and the text of an export with the failure
that broke it off. -/
structure Finished where
  label : StatusLabel
  escaped : Option Failure := none
  lookup : Option (Except Failure TransactionDetails) := none
  exported : Option (String × Option Failure) := none

namespace Finished

/-- The number of meter values that a successful lookup returned. -/
def returned (f : Finished) : Option Nat :=
  match f.lookup with
  | some (.ok details) => some details.values.length
  | _ => none

/-- Whether a lookup found no session. -/
def missed (f : Finished) : Bool :=
  match f.lookup with
  | some (.error (.notFound _)) => true
  | _ => false

end Finished

namespace Metrics

/-- Counts a lookup. -/
def recordLookup (m : Metrics) : Option (Except Failure TransactionDetails) → Metrics
  | some (.ok details) => m.recordHit details.values.length
  | some (.error (.notFound _)) => m.recordMiss
  | _ => m

/-- Counts a finished request, with the lookup or the export that was made for it. -/
def record (m : Metrics) (f : Finished) : Metrics :=
  ((m.recordLookup f.lookup).recordExport (countedRows f.exported)).recordRequest f.label

/-- The metrics are those of some finished requests. -/
structure Balances (m : Metrics) (finished : List Finished) : Prop where
  requests : ∀ label, m.requests.count label = finished.countP fun f => f.label = label
  total : m.requests.total = finished.length
  latencies : ∀ request,
    m.latencies.count request = m.requests.totalOf fun label => label.request = request
  errors : ∀ label, isServerError label.status = true →
    m.requestErrors.count label = m.requests.count label
  noErrors : ∀ label, isServerError label.status = false → m.requestErrors.lookup label = none
  found : m.lookups.count .found = (finished.filterMap Finished.returned).length
  observed : m.valuesReturned.count = m.lookups.count .found
  returned : m.valuesReturned.sum = sumOf (finished.filterMap Finished.returned)
  missed : m.lookups.count .notFound = finished.countP Finished.missed
  exported : m.exportedRows = sumOf (finished.map fun f => countedRows f.exported)

/-- The books of no request. -/
theorem balances_empty : Balances {} [] where
  requests _ := rfl
  total := rfl
  latencies _ := rfl
  errors _ _ := rfl
  noErrors _ _ := rfl
  found := rfl
  observed := rfl
  returned := rfl
  missed := rfl
  exported := rfl

variable {m : Metrics} {finished : List Finished}

/-- A lookup is counted apart from requests and exports. -/
theorem recordLookup_apart (m : Metrics) (lookup : Option (Except Failure TransactionDetails)) :
    (m.recordLookup lookup).requests = m.requests ∧
      (m.recordLookup lookup).latencies = m.latencies ∧
      (m.recordLookup lookup).requestErrors = m.requestErrors ∧
      (m.recordLookup lookup).exportedRows = m.exportedRows := by
  match lookup with
  | none => exact ⟨rfl, rfl, rfl, rfl⟩
  | some (.ok details) => exact ⟨rfl, rfl, rfl, rfl⟩
  | some (.error e) => cases e <;> exact ⟨rfl, rfl, rfl, rfl⟩

/-- The numbers that a lookup changes. -/
theorem recordLookup_numbers (m : Metrics) (f : Finished) :
    (m.recordLookup f.lookup).lookups.count .found =
        m.lookups.count .found + f.returned.toList.length ∧
      (m.recordLookup f.lookup).lookups.count .notFound =
        m.lookups.count .notFound + (if f.missed then 1 else 0) ∧
      (m.recordLookup f.lookup).valuesReturned.count =
        m.valuesReturned.count + f.returned.toList.length ∧
      (m.recordLookup f.lookup).valuesReturned.sum =
        m.valuesReturned.sum + sumOf f.returned.toList := by
  obtain ⟨label, escaped, lookup, exported⟩ := f
  match lookup with
  | none => simp [recordLookup, Finished.returned, Finished.missed, sumOf]
  | some (.ok details) =>
    refine ⟨Tally.count_add _ _ _ _, Tally.count_add _ _ _ _, rfl, ?_⟩
    show details.values.length + m.valuesReturned.sum = _
    simp [Finished.returned, sumOf, Nat.add_comm]
  | some (.error e) =>
    cases e with
    | notFound shown => exact ⟨Tally.count_add _ _ _ _, Tally.count_add _ _ _ _, rfl, rfl⟩
    | _ => exact ⟨rfl, rfl, rfl, rfl⟩

theorem record_requests (m : Metrics) (f : Finished) :
    (m.record f).requests = m.requests.add f.label 1 := by
  show (m.recordLookup f.lookup).requests.add f.label 1 = _
  rw [(recordLookup_apart m f.lookup).1]

theorem record_latencies (m : Metrics) (f : Finished) :
    (m.record f).latencies = m.latencies.add f.label.request 1 := by
  show (m.recordLookup f.lookup).latencies.add f.label.request 1 = _
  rw [(recordLookup_apart m f.lookup).2.1]

theorem record_errors (m : Metrics) (f : Finished) :
    (m.record f).requestErrors =
      if isServerError f.label.status then m.requestErrors.add f.label 1 else m.requestErrors := by
  show (if isServerError f.label.status then (m.recordLookup f.lookup).requestErrors.add f.label 1
    else (m.recordLookup f.lookup).requestErrors) = _
  rw [(recordLookup_apart m f.lookup).2.2.1]

theorem record_exported (m : Metrics) (f : Finished) :
    (m.record f).exportedRows = m.exportedRows + countedRows f.exported := by
  show (m.recordLookup f.lookup).exportedRows + countedRows f.exported = _
  rw [(recordLookup_apart m f.lookup).2.2.2]

/-! ## Balance -/

/-- The step: the books balance again when one more request is counted. -/
theorem Balances.record (h : m.Balances finished) (f : Finished) :
    (m.record f).Balances (finished ++ [f]) := by
  obtain ⟨hfound, hmissed, hcount, hsum⟩ := recordLookup_numbers m f
  have hlist : (finished ++ [f]).filterMap Finished.returned =
      finished.filterMap Finished.returned ++ f.returned.toList := by
    rw [List.filterMap_append]
    cases hreturned : f.returned <;> simp [hreturned]
  refine ⟨?_, ?_, ?_, ?_, ?_, ?_, ?_, ?_, ?_, ?_⟩
  · intro label
    rw [record_requests, Tally.count_add, h.requests label, List.countP_append]
    simp [List.countP_cons]
  · rw [record_requests, Tally.total_add, h.total, List.length_append]
    rfl
  · intro request
    rw [record_latencies, record_requests, Tally.count_add, Tally.totalOf_add, h.latencies request]
    simp
  · intro label hlabel
    rw [record_errors, record_requests, Tally.count_add, ← h.errors label hlabel]
    by_cases hsame : f.label = label
    · simp [hsame, hlabel, Tally.count_add]
    · by_cases hserver : isServerError f.label.status = true
      · simp [hserver, Tally.count_add, hsame]
      · simp [hserver, hsame]
  · intro label hlabel
    rw [record_errors]
    split
    · rename_i hserver
      have hother : ¬ f.label = label := by
        intro hsame
        rw [hsame, hlabel] at hserver
        cases hserver
      rw [Tally.lookup_add, if_neg hother]
      exact h.noErrors label hlabel
    · exact h.noErrors label hlabel
  · show (m.recordLookup f.lookup).lookups.count .found = _
    rw [hfound, h.found, hlist, List.length_append]
  · show (m.recordLookup f.lookup).valuesReturned.count =
      (m.recordLookup f.lookup).lookups.count .found
    rw [hcount, hfound, h.observed]
  · show (m.recordLookup f.lookup).valuesReturned.sum = _
    rw [hsum, h.returned, hlist, sumOf_append]
  · show (m.recordLookup f.lookup).lookups.count .notFound = _
    rw [hmissed, h.missed, List.countP_append]
    simp [List.countP_cons]
  · rw [record_exported, h.exported, List.map_append, sumOf_append]
    simp [sumOf]

/-- The run: the books of any number of requests balance. -/
theorem Balances.foldl_record (h : m.Balances finished) (more : List Finished) :
    (more.foldl Metrics.record m).Balances (finished ++ more) := by
  induction more generalizing m finished with
  | nil =>
    rw [List.append_nil]
    exact h
  | cons f more ih =>
    have hnext := ih (h.record f)
    rw [List.append_assoc] at hnext
    exact hnext

end Metrics

end ChargingReport
