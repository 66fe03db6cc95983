import ChargingReport.Failure
import ChargingReport.Query.Select

/-!
# Fetching rows in batches

The rows of an export are fetched in batches, by the library that talks to the database.

* `batches` are groups of one size, and `batchLimit` is a size that every library can fetch.
* `Fetcher` is what a library does with any size. It fetches all rows in batches, or it fails on the
  way.
* `fetchBatches` is how rows are fetched by a driver that can be asked for a limited number at once,
  and `Fetcher.buffered` is the library on top of it.
-/

namespace ChargingReport

/-! ## Groups of rows -/

section Batches

variable {α : Type}

/-- Groups of `size` elements in order, where the last group may be smaller. -/
def batches (size : Nat) (xs : List α) : List (List α) :=
  match size, xs with
  | 0, _ => []
  | _, [] => []
  | size + 1, x :: rest => (x :: rest.take size) :: batches (size + 1) (rest.drop size)
termination_by xs.length
decreasing_by
  simp only [List.length_cons, List.length_drop]
  omega

theorem batches_zero (xs : List α) : batches 0 xs = [] := by
  rw [batches]

theorem batches_nil (size : Nat) : batches size ([] : List α) = [] := by
  cases size with
  | zero => exact batches_zero []
  | succ size =>
    rw [batches]
    exact Nat.succ_ne_zero size

/-- The first batch, and the batches of what is left. -/
theorem batches_cons (size : Nat) (x : α) (rest : List α) :
    batches (size + 1) (x :: rest) =
      (x :: rest.take size) :: batches (size + 1) (rest.drop size) := by
  rw [batches]

theorem batches_of_ne_nil {size : Nat} {xs : List α} (hsize : size ≠ 0) (hxs : xs ≠ []) :
    batches size xs = xs.take size :: batches size (xs.drop size) := by
  obtain ⟨size, rfl⟩ := Nat.exists_eq_succ_of_ne_zero hsize
  obtain ⟨x, rest, rfl⟩ := List.exists_cons_of_ne_nil hxs
  exact batches_cons size x rest

end Batches

/-! ## Fetching -/

/-- The batches that were fetched, and the failure that ended this, if any. -/
structure Fetched where
  batches : List (List ExportedRow)
  failure : Option Failure

/-- The number of rows that a driver can be asked for at once. -/
def batchLimit : Nat := 2147483647

/-- The largest number that can bound a batch. -/
def batchBound : Nat := 9223372036854775807

/-- The batches of some rows, of which `ahead` have come already. The driver is asked for what a batch
lacks, and for a whole batch more where it gave some rows and the batch is not full. A failure loses
the batch that it comes in. -/
def fetchBatches (size ahead : Nat) (rows : List ExportedRow) : Fetched :=
  if size = 0 then ⟨[], none⟩
  else if batchLimit < size - ahead then ⟨[], some .batchTooLarge⟩
  else if size ≤ rows.length then
    let rest := fetchBatches size 0 (rows.drop size)
    ⟨rows.take size :: rest.batches, rest.failure⟩
  else if ahead < rows.length ∧ batchLimit < size then ⟨[], some .batchTooLarge⟩
  else ⟨batches size rows, none⟩
termination_by rows.length
decreasing_by
  rw [List.length_drop]
  omega

/-- Batches that the driver can be asked for are all fetched. -/
theorem fetchBatches_of_le {size : Nat} (hsize : size ≤ batchLimit) (ahead : Nat)
    (rows : List ExportedRow) : fetchBatches size ahead rows = ⟨batches size rows, none⟩ := by
  fun_induction fetchBatches size ahead rows with
  | case1 ahead rows hzero => rw [hzero, batches_zero]
  | case2 ahead rows hne hlimit => omega
  | case3 ahead rows hne hlimit hfull rest ih =>
    have hrows : rows ≠ [] := List.ne_nil_of_length_pos (by omega)
    rw [batches_of_ne_nil hne hrows, show rest = _ from ih]
  | case4 ahead rows hne hlimit hfull hagain => omega
  | case5 ahead rows hne hlimit hfull hagain => rfl

/-- Where nothing fails, all rows are fetched. -/
theorem fetchBatches_complete {size ahead : Nat} {rows : List ExportedRow}
    (h : (fetchBatches size ahead rows).failure = none) :
    (fetchBatches size ahead rows).batches = batches size rows := by
  fun_induction fetchBatches size ahead rows with
  | case1 ahead rows hzero => rw [hzero, batches_zero]
  | case2 ahead rows hne hlimit => cases h
  | case3 ahead rows hne hlimit hfull rest ih =>
    have hrows : rows ≠ [] := List.ne_nil_of_length_pos (by omega)
    rw [batches_of_ne_nil hne hrows, ← ih h]
  | case4 ahead rows hne hlimit hfull hagain => cases h
  | case5 ahead rows hne hlimit hfull hagain => rfl

/-- How a library fetches rows in batches of a size. Up to the limit it fetches all of them, and
beyond it may fail. -/
structure Fetcher where
  fetch : Nat → List ExportedRow → Fetched
  fetch_of_le : ∀ {size : Nat}, size ≤ batchLimit → ∀ rows,
    fetch size rows = ⟨batches size rows, none⟩
  fetch_complete : ∀ {size : Nat} {rows : List ExportedRow}, (fetch size rows).failure = none →
    (fetch size rows).batches = batches size rows

/-- A library that gets the first row with the query itself. -/
def Fetcher.buffered : Fetcher where
  fetch size rows :=
    if batchBound < size then ⟨[], some .batchUnbounded⟩
    else fetchBatches size (min 1 rows.length) rows
  fetch_of_le {size} hsize rows := by
    have hbound : ¬ batchBound < size := Nat.not_lt.2 (Nat.le_trans hsize (by decide))
    rw [if_neg hbound, fetchBatches_of_le hsize]
  fetch_complete {size rows} h := by
    split at h
    · cases h
    · rename_i hbound
      rw [if_neg hbound]
      exact fetchBatches_complete h

end ChargingReport
