import KeyedBatching.Error
import KeyedBatching.Text.Blank

/-!
# Log formats

How events are written, and the name of each way.
-/

namespace KeyedBatching.Telemetry

/-- A way to write events. -/
inductive LogFormat where
  /-- One object for each line. -/
  | json
  /-- Several lines for a person to read. -/
  | pretty
deriving DecidableEq

namespace LogFormat

/-- The format that is used when none is chosen. -/
def usual : LogFormat :=
  json

/-- The name of a format. -/
def name : LogFormat → String
  | json => "json"
  | pretty => "pretty"

/-- A text between blank characters, its ASCII letters in lower case. -/
def normalize (text : String) : String :=
  String.ofList ((Text.trimBlank text.toList).map Char.toLower)

/-- Reads the name of a format, in any case and between blank characters. -/
def ofText (text : String) : Except LogError LogFormat :=
  if normalize text = "json" then .ok json
  else if normalize text = "pretty" then .ok pretty
  else .error (.invalidFormat (normalize text))

end LogFormat

end KeyedBatching.Telemetry
