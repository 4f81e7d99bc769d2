import KeyedBatching.Error
import KeyedBatching.Time

/-!
# Settings of a buffer

How old the oldest request may grow before its batch is due, and how often the
ticker looks. A timeout of zero switches the ticker's part off.
-/

namespace KeyedBatching

/-- The timing of a buffer. -/
structure BufferSettings where
  /-- The age of the oldest request at which a batch is due; zero for never. -/
  timeout : Duration := Duration.ofMilliseconds 1000
  /-- The time between two looks of the ticker. -/
  interval : Duration := Duration.ofMilliseconds 100
deriving DecidableEq

namespace BufferSettings

/-- The settings of a buffer without a timeout. -/
def disabled : BufferSettings :=
  { timeout := 0 }

/-- Batches fall due by age. -/
def timeoutEnabled (settings : BufferSettings) : Bool :=
  settings.timeout ≠ 0

/-- A timeout needs an interval at which it is checked. -/
def validate (settings : BufferSettings) : Except BufferError Unit :=
  if settings.timeoutEnabled && settings.interval = 0 then .error .zeroInterval else .ok ()

/-- The description of the settings. -/
def describe (settings : BufferSettings) : String :=
  "BufferConfig \x7b buffer_timeout: " ++ Duration.text settings.timeout ++
    ", check_interval: " ++ Duration.text settings.interval ++ " \x7d"

end BufferSettings

end KeyedBatching
