import KeyedBatching.Controller
import KeyedBatching.Telemetry.Logger

/-!
# Configuration

The settings of a controller and of the log together, the values that stand in
for what nobody chose, and the summary of the values in effect.
-/

namespace KeyedBatching

/-- Everything that can be configured. -/
structure Configuration where
  controller : ControllerSettings := {}
  log : Telemetry.LogSettings := {}
deriving DecidableEq

/-- The values in effect, as numbers of milliseconds and texts. -/
structure EffectiveValues where
  timeout : Nat
  interval : Nat
  batchSize : Nat
  logLevel : String
  logFormat : String
deriving DecidableEq

namespace Configuration

/-- The milliseconds of the timeout that nobody chose. -/
def usualTimeout : Nat := 1000

/-- The milliseconds of the interval that nobody chose. -/
def usualInterval : Nat := 100

/-- The batch size that nobody chose. -/
def usualBatchSize : Nat := 1000

/-- The log filter that nobody chose. -/
def usualLogLevel : String := "info"

/-- Controller settings from milliseconds and a size; interval and size are at least one. -/
def clamped (timeout interval batchSize : Nat) : ControllerSettings :=
  { buffer :=
      { timeout := Duration.ofMilliseconds timeout
        interval := Duration.ofMilliseconds (max interval 1) }
    batchSize := max batchSize 1 }

/-- The values in effect. -/
def effective (configuration : Configuration) : EffectiveValues :=
  { timeout := Duration.reportedMilliseconds configuration.controller.buffer.timeout
    interval := Duration.reportedMilliseconds configuration.controller.buffer.interval
    batchSize := configuration.controller.batchSize
    logLevel := configuration.log.level
    logFormat := configuration.log.format.name }

end Configuration

end KeyedBatching
