import KeyedBatching.Telemetry.LogEvent
import KeyedBatching.Text.Numeral

/-!
# Level limits

A limit lets the events of one level and of all more urgent levels pass, or none
at all. It is written as a rank from 0 to 5 or as the name of a level.
-/

namespace KeyedBatching.Telemetry

/-- The least urgent level that passes; none stands for no event at all. -/
abbrev LevelLimit := Option LogLevel

namespace LevelLimit

/-- An event of the given level passes. -/
def admits (limit : LevelLimit) (level : LogLevel) : Bool :=
  match limit with
  | none => false
  | some least => level.rank ≤ least.rank

/-- The limit with the given rank. -/
def ofRank? : Nat → Option LevelLimit
  | 0 => some none
  | 1 => some (some .error)
  | 2 => some (some .warn)
  | 3 => some (some .info)
  | 4 => some (some .debug)
  | 5 => some (some .trace)
  | _ => none

/-- The limit with the given name in lower case. -/
def ofName? (name : List Char) : Option LevelLimit :=
  if name = "off".toList then some none
  else if name = "error".toList then some (some .error)
  else if name = "warn".toList then some (some .warn)
  else if name = "info".toList then some (some .info)
  else if name = "debug".toList then some (some .debug)
  else if name = "trace".toList then some (some .trace)
  else none

/-- Reads a limit: its rank as a numeral, or its name in any case. -/
def read? (word : List Char) : Option LevelLimit :=
  match (Text.readNumeral wordLimit word).bind ofRank? with
  | some limit => some limit
  | none => ofName? (word.map Char.toLower)

end LevelLimit

end KeyedBatching.Telemetry
