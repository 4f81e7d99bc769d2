/-!
# Errors

What can go wrong with the ticker, a buffer, the configuration or the log, each
as a cause, and the message of every cause.
-/

namespace KeyedBatching

/-- Failures of the ticker. -/
inductive TickerError where
  | shutdown
  | unknownRegistration (id : Nat)
  | spawn (reason : String)
deriving DecidableEq

namespace TickerError

/-- The text of a ticker's failure. -/
def message : TickerError → String
  | shutdown => "Timeout ticker is shut down"
  | unknownRegistration id =>
      "Registration " ++ toString id ++ " is not known to the timeout ticker"
  | spawn reason => "Failed to spawn ticker thread: " ++ reason

end TickerError

/-- Failures of a buffer. -/
inductive BufferError where
  | invalidSettings (reason : String)
  | register (cause : TickerError)
  | close (cause : TickerError)
deriving DecidableEq

namespace BufferError

/-- The text of a buffer's failure. -/
def message : BufferError → String
  | invalidSettings reason => "Invalid buffer config: " ++ reason
  | register cause => "Failed to register buffer timeout: " ++ cause.message
  | close cause => "Failed to cancel buffer timeout: " ++ cause.message

/-- The failure of the ticker behind a buffer's failure. -/
def cause? : BufferError → Option TickerError
  | invalidSettings _ => none
  | register cause => some cause
  | close cause => some cause

/-- The buffer failed because its ticker was shut down. -/
def isTickerShutdown (error : BufferError) : Bool :=
  error.cause? = some .shutdown

/-- A timeout without an interval at which to check it. -/
def zeroInterval : BufferError :=
  invalidSettings "check_interval must be non-zero when buffer_timeout is enabled"

/-- A controller whose batches could hold nothing. -/
def zeroBatchSize : BufferError :=
  invalidSettings "batch_size must be at least 1"

end BufferError

/-- Reasons for which the system refuses a file. -/
inductive FileFault where
  | notFound
  | isDirectory
  | invalidText
deriving DecidableEq

namespace FileFault

/-- The text of a refusal. -/
def message : FileFault → String
  | notFound => "No such file or directory (os error 2)"
  | isDirectory => "Is a directory (os error 21)"
  | invalidText => "stream did not contain valid UTF-8"

end FileFault

/-- Failures of setting up the log. -/
inductive LogError where
  | invalidFilter
  | invalidFormat (text : String)
  | fileOpen (fault : FileFault)
  | alreadyInitialized
deriving DecidableEq

namespace LogError

/-- The text of a failure to set up the log. -/
def message : LogError → String
  | invalidFilter => "Invalid log filter"
  | invalidFormat text => "Invalid log format: " ++ text
  | fileOpen fault => "Failed to open log file: " ++ fault.message
  | alreadyInitialized => "Subscriber already initialized"

end LogError

/-- A top-level pair of a document that does not fit the configuration. -/
inductive Mismatch where
  | unknownField (name : String) (known : List String)
  | invalidType (found expected : String)
  | invalidValue (found expected : String)
deriving DecidableEq

namespace Mismatch

/-- A name between backticks. -/
def ticked (name : String) : String :=
  "\x60" ++ name ++ "\x60"

/-- The text of a mismatch. -/
def message : Mismatch → String
  | unknownField name known =>
      "unknown field " ++ ticked name ++ ", expected one of " ++
        ", ".intercalate (known.map ticked)
  | invalidType found expected => "invalid type: " ++ found ++ ", expected " ++ expected
  | invalidValue found expected => "invalid value: " ++ found ++ ", expected " ++ expected

end Mismatch

/-- Failures of reading the configuration. -/
inductive ConfigurationError where
  | unreadable (fault : FileFault)
  | malformed
  | mismatch (fault : Mismatch)
  | invalid (reason : String)
deriving DecidableEq

namespace ConfigurationError

/-- The text of a failure; a document that is malformed has none of its own. -/
def message? : ConfigurationError → Option String
  | unreadable fault => some ("Failed to read config file: " ++ fault.message)
  | malformed => none
  | mismatch fault => some fault.message
  | invalid reason => some ("Invalid config value: " ++ reason)

/-- A document whose batches could hold nothing. -/
def zeroBatchSize : ConfigurationError :=
  invalid "batch_size must be at least 1"

/-- A document with a timeout and no interval at which to check it. -/
def zeroInterval : ConfigurationError :=
  invalid "timeout_check_interval_ms must be at least 1 when buffer_timeout_ms is set"

end ConfigurationError

end KeyedBatching
