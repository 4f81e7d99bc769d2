import KeyedBatching.Configuration.Basic
import KeyedBatching.Decimal.Shortest
import KeyedBatching.Text.Quoted
import KeyedBatching.Toml.Value

/-!
# Configuration from a document

A document reads as pairs of names and values, unless it is malformed; how it reads
is given from outside. It may set five fields. The first pair that does not fit refuses
the document; after that the log format, the batch size and the timing are judged in
this order. Fields that are left out have the usual values.
-/

namespace KeyedBatching

/-- Reads a document as its pairs, in order. -/
abbrev DocumentReader := String → Option (List (String × Toml.Value))

/-- What is relied on of a reader: at the top level of a document that reads no name stands twice,
and an integer is a signed number of 64 bits. -/
structure DocumentReader.IsLawful (read : DocumentReader) : Prop where
  distinct : ∀ text pairs, read text = some pairs → (pairs.map Prod.fst).Nodup
  signed : ∀ text pairs, read text = some pairs → ∀ name number,
    (name, .integer number) ∈ pairs → -9223372036854775808 ≤ number ∧ number < 9223372036854775808

/-- The fields that a document sets. -/
structure DocumentFields where
  timeout : Option Nat := none
  interval : Option Nat := none
  batchSize : Option Nat := none
  logLevel : Option String := none
  logFormat : Option String := none
deriving DecidableEq

namespace DocumentFields

/-- The names of the fields. -/
def names : List String :=
  ["buffer_timeout_ms", "timeout_check_interval_ms", "batch_size", "log_level", "log_format"]

/-- What a value is, in the words of a mismatch. -/
def kindOf : Toml.Value → String
  | .string text => "string " ++ Text.quoted text
  | .integer value => "integer " ++ Mismatch.ticked (toString value)
  | .float value => "floating point " ++ Mismatch.ticked value.text
  | .boolean value => "boolean " ++ Mismatch.ticked (toString value)
  | .moment _ => "map"
  | .array _ => "sequence"
  | .table _ => "map"

/-- Reads a value as a count. -/
def countOf (expected : String) (value : Toml.Value) : Except Mismatch Nat :=
  match value with
  | .integer number =>
      if number < 0 then .error (.invalidValue (kindOf value) expected) else .ok number.toNat
  | _ => .error (.invalidType (kindOf value) expected)

/-- Reads a value as a text. -/
def textOf (value : Toml.Value) : Except Mismatch String :=
  match value with
  | .string text => .ok text
  | _ => .error (.invalidType (kindOf value) "a string")

/-- Sets the field that a pair names. -/
def set (fields : DocumentFields) (name : String) (value : Toml.Value) :
    Except Mismatch DocumentFields :=
  if name = "buffer_timeout_ms" then
    (countOf "u64" value).map fun count => { fields with timeout := some count }
  else if name = "timeout_check_interval_ms" then
    (countOf "u64" value).map fun count => { fields with interval := some count }
  else if name = "batch_size" then
    (countOf "usize" value).map fun count => { fields with batchSize := some count }
  else if name = "log_level" then
    (textOf value).map fun text => { fields with logLevel := some text }
  else if name = "log_format" then
    (textOf value).map fun text => { fields with logFormat := some text }
  else .error (.unknownField name names)

/-- Sets the fields that some pairs name, in order. -/
def setAll (fields : DocumentFields) : List (String × Toml.Value) → Except Mismatch DocumentFields
  | [] => .ok fields
  | (name, value) :: rest =>
      match fields.set name value with
      | .error fault => .error fault
      | .ok changed => changed.setAll rest

/-- The log format that a document names, or the usual one. -/
def format (fields : DocumentFields) : Except ConfigurationError Telemetry.LogFormat :=
  match fields.logFormat with
  | none => .ok .usual
  | some text =>
      match Telemetry.LogFormat.ofText text with
      | .ok format => .ok format
      | .error fault => .error (.invalid fault.message)

/-- The configuration that some fields describe. -/
def configuration (fields : DocumentFields) : Except ConfigurationError Configuration :=
  match fields.format with
  | .error fault => .error fault
  | .ok format =>
      let timeout := fields.timeout.getD Configuration.usualTimeout
      let interval := fields.interval.getD Configuration.usualInterval
      if fields.batchSize = some 0 then .error .zeroBatchSize
      else if 0 < timeout ∧ interval = 0 then .error .zeroInterval
      else
        .ok
          { controller :=
              Configuration.clamped timeout interval
                (fields.batchSize.getD Configuration.usualBatchSize)
            log :=
              { format
                level := fields.logLevel.getD Configuration.usualLogLevel
                output := none } }

end DocumentFields

namespace Configuration

/-- The configuration that the pairs of a document describe. -/
def ofPairs (pairs : List (String × Toml.Value)) : Except ConfigurationError Configuration :=
  match ({} : DocumentFields).setAll pairs with
  | .error fault => .error (.mismatch fault)
  | .ok fields => fields.configuration

/-- The configuration that a document describes. -/
def ofDocument (read : DocumentReader) (text : String) :
    Except ConfigurationError Configuration :=
  match read text with
  | none => .error .malformed
  | some pairs => ofPairs pairs

/-- The configuration in a file, given what the system answers when it is read. -/
def ofFile (read : DocumentReader) (contents : Except FileFault ByteArray) :
    Except ConfigurationError Configuration :=
  match contents with
  | .error fault => .error (.unreadable fault)
  | .ok bytes =>
      match String.fromUTF8? bytes with
      | none => .error (.unreadable .invalidText)
      | some text => ofDocument read text

end Configuration

end KeyedBatching
