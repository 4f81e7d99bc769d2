import KeyedBatching.Telemetry.LogEvent
import KeyedBatching.Telemetry.LogFormat

/-!
# The logger

A process installs at most one logger. Its settings are checked first, then its
file is opened, and only then is it known whether a logger was there before.
How the text of a filter reads is up to whoever installs the logger.
-/

namespace KeyedBatching.Telemetry

/-- What a logger is asked to do. -/
structure LogSettings where
  format : LogFormat := .usual
  /-- The text of the filter. -/
  level : String := "info"
  /-- The file to write to; without one, the standard error stream. -/
  output : Option String := none
deriving DecidableEq

/-- Reads the text of a filter, and tells which events pass it. -/
abbrev FilterReader := String → Option (LogEvent → Bool)

/-- A logger that receives the events of the process. -/
structure Logger where
  admits : LogEvent → Bool
  format : LogFormat
  output : Option String

namespace Logger

/-- Installs a logger, given how the system answers when its file is opened. -/
def install (read : FilterReader) (installed : Option Logger) (settings : LogSettings)
    (opened : Except FileFault Unit) : Except LogError Logger := do
  let some admits := read settings.level
    | throw .invalidFilter
  if settings.output.isSome then
    match opened with
    | .error fault => throw (.fileOpen fault)
    | .ok _ => pure ()
  if installed.isSome then throw .alreadyInitialized
  pure { admits, format := settings.format, output := settings.output }

/-- The events that a logger writes. -/
def written (logger : Logger) (events : List LogEvent) : List LogEvent :=
  events.filter logger.admits

/-- The keys of a line of the format with one object for each line, in order. -/
def lineKeys : List String :=
  ["fields", "level", "target", "timestamp"]

end Logger

end KeyedBatching.Telemetry
