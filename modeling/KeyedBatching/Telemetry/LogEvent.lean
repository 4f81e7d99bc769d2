import KeyedBatching.Error
import KeyedBatching.Priority
import KeyedBatching.Time

/-!
# Log events

What the buffers, the ticker and the controller report while they work: each
event has a level, a target and named fields, the first of them its message.
-/

namespace KeyedBatching.Telemetry

/-- How urgent an event is, the most urgent first. -/
inductive LogLevel where
  | error
  | warn
  | info
  | debug
  | trace
deriving DecidableEq

namespace LogLevel

/-- The position of a level; a filter for one level lets every smaller rank pass. -/
def rank : LogLevel → Nat
  | error => 1
  | warn => 2
  | info => 3
  | debug => 4
  | trace => 5

/-- The name of a level. -/
def name : LogLevel → String
  | error => "error"
  | warn => "warn"
  | info => "info"
  | debug => "debug"
  | trace => "trace"

end LogLevel

/-- The value of a field of an event. -/
inductive FieldValue where
  | text (value : String)
  | count (value : Nat)
  | flag (value : Bool)
deriving DecidableEq

/-- What happened. -/
inductive LogEvent where
  | tickerStarted (ticker : String)
  | tickerStopped (ticker : String)
  | tickerFailed (ticker reason : String)
  | checkRegistered (ticker : String) (registration : Nat) (period : Duration)
  | timeoutFired (registration generation : Nat)
  | handlerPanicked (registration generation : Nat)
  | bufferCreated (timeout interval : Duration) (registered : Bool)
  | bufferClosed (registration : Nat)
  | closeFailed (error : BufferError)
  | timerArmed (generation : Nat)
  | requestPromoted (priority : Priority)
  | staleTimeout (generation : Nat)
  | batchFlushed (generation size : Nat) (byTimeout : Bool)
deriving DecidableEq

namespace LogEvent

/-- The target of the ticker's events. -/
def tickerTarget : String :=
  "async_request_buffer::buffer::ticker"

/-- The target of the events of a buffer. -/
def bufferTarget : String :=
  "async_request_buffer::buffer::facade"

/-- The target of the events of a controller. -/
def controllerTarget : String :=
  "async_request_buffer::controller"

/-- The level of an event. -/
def level : LogEvent → LogLevel
  | tickerStarted _ | tickerStopped _ | bufferCreated .. | bufferClosed _ | batchFlushed .. =>
      .debug
  | checkRegistered .. | timeoutFired .. | timerArmed _ | requestPromoted _ | staleTimeout _ =>
      .trace
  | tickerFailed .. | handlerPanicked .. => .error
  | closeFailed _ => .warn

/-- The part of the program that an event comes from. -/
def target : LogEvent → String
  | tickerStarted _ | tickerStopped _ | tickerFailed .. | checkRegistered .. | timeoutFired ..
  | handlerPanicked .. => tickerTarget
  | bufferCreated .. | bufferClosed _ | closeFailed _ | timerArmed _ => bufferTarget
  | requestPromoted _ | staleTimeout _ | batchFlushed .. => controllerTarget

/-- The message of an event. -/
def message : LogEvent → String
  | tickerStarted _ => "timeout ticker started"
  | tickerStopped _ => "timeout ticker stopped"
  | tickerFailed .. => "timeout ticker thread panicked"
  | checkRegistered .. => "timeout check registered"
  | timeoutFired .. => "buffer timeout fired"
  | handlerPanicked .. => "timeout handler panicked; ticker keeps serving other buffers"
  | bufferCreated .. => "request buffer created"
  | bufferClosed _ => "request buffer closed"
  | closeFailed _ => "failed to close request buffer on drop"
  | timerArmed _ => "batch timer armed"
  | requestPromoted _ => "promoted blocked request"
  | staleTimeout _ => "stale timeout ignored"
  | batchFlushed .. => "batch flushed"

/-- The fields of an event beside its message. -/
def details : LogEvent → List (String × FieldValue)
  | tickerStarted ticker | tickerStopped ticker => [("ticker", .text ticker)]
  | tickerFailed ticker reason => [("ticker", .text ticker), ("reason", .text reason)]
  | checkRegistered ticker registration period =>
      [("ticker", .text ticker), ("registration", .count registration),
        ("period", .text (Duration.text period))]
  | timeoutFired registration generation | handlerPanicked registration generation =>
      [("registration", .count registration), ("generation", .count generation)]
  | bufferCreated timeout interval registered =>
      [("buffer_timeout_ms", .count (Duration.reportedMilliseconds timeout)),
        ("check_interval_ms", .count (Duration.reportedMilliseconds interval)),
        ("registered", .flag registered)]
  | bufferClosed registration => [("registration", .count registration)]
  | closeFailed error => [("error", .text error.message)]
  | timerArmed generation | staleTimeout generation => [("generation", .count generation)]
  | requestPromoted priority => [("priority", .text priority.text)]
  | batchFlushed generation size byTimeout =>
      [("generation", .count generation), ("size", .count size), ("by_timeout", .flag byTimeout)]

/-- All fields of an event. -/
def fields (event : LogEvent) : List (String × FieldValue) :=
  ("message", .text event.message) :: event.details

end LogEvent

end KeyedBatching.Telemetry
