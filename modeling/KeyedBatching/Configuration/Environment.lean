import KeyedBatching.Configuration.Basic
import KeyedBatching.Text.Numeral

/-!
# Configuration from the environment

Five variables configure the program. A variable that is missing, that is no
text, or that does not read leaves the usual value in place, so this never fails.
-/

namespace KeyedBatching

/-- What a process holds under each name; a value need not be a text. -/
abbrev ProcessVariables := String → Option ByteArray

/-- The texts of the five variables; one that is missing or no text has none. -/
structure Environment where
  timeout : Option String := none
  interval : Option String := none
  batchSize : Option String := none
  logLevel : Option String := none
  logFormat : Option String := none
deriving DecidableEq

namespace Environment

/-- The five variables among all that a process has. -/
def ofVariables (text : String → Option String) : Environment :=
  { timeout := text "ARB_BUFFER_TIMEOUT_MS"
    interval := text "ARB_TIMEOUT_CHECK_INTERVAL_MS"
    batchSize := text "ARB_BATCH_SIZE"
    logLevel := text "ARB_LOG_LEVEL"
    logFormat := text "ARB_LOG_FORMAT" }

/-- The five variables of a process; a value is a text if its bytes are well-formed UTF-8. -/
def ofProcess (held : ProcessVariables) : Environment :=
  ofVariables fun name => (held name).bind String.fromUTF8?

/-- The number that a variable holds, or the usual one. -/
def numberOr (usual : Nat) (text : Option String) : Nat :=
  (text.bind Text.readWord).getD usual

/-- The log format that a variable names, or the usual one. -/
def formatOr (text : Option String) : Telemetry.LogFormat :=
  match text with
  | none => .usual
  | some text =>
      match Telemetry.LogFormat.ofText text with
      | .ok format => format
      | .error _ => .usual

/-- The configuration that the variables describe. -/
def configuration (environment : Environment) : Configuration :=
  { controller :=
      Configuration.clamped
        (numberOr Configuration.usualTimeout environment.timeout)
        (numberOr Configuration.usualInterval environment.interval)
        (numberOr Configuration.usualBatchSize environment.batchSize)
    log :=
      { format := formatOr environment.logFormat
        level := environment.logLevel.getD Configuration.usualLogLevel
        output := none } }

end Environment

end KeyedBatching
