import KeyedBatching.Telemetry.Noted
import KeyedBatching.Ticker.Schedule

/-!
# The ticker

One thread that serves many buffers: it collects the registrations that are due,
polls the timer of each, and calls the handler of each window that has expired.
It looks at the request to stop only between two rounds. A look that would lie
beyond the clock's range ends the thread, yet the ticker goes on to register and
to cancel. What the thread does is cut into single steps here; the timers it
polls belong to others and answer from outside.
-/

namespace KeyedBatching

open Telemetry

/-- What the thread of a ticker is doing. -/
inductive Activity where
  /-- Between two checks, with the registrations still to check in this round. -/
  | serving (collected : List Registration)
  /-- In the handler of a registration, until the given instant. -/
  | handling (registration : Registration) (generation : Nat) (ends : Instant)
      (collected : List Registration)
  /-- The thread has returned. -/
  | finished
  /-- The thread has died. -/
  | crashed (reason : String)
deriving DecidableEq

/-- A ticker with its registrations and its thread. -/
structure Ticker where
  name : String
  nextId : Nat := 1
  schedule : Schedule := {}
  stopRequested : Bool := false
  /-- Registrations whose checks are skipped from now on. -/
  cancelled : List Nat := []
  /-- Nobody has taken the thread yet in order to wait for its end. -/
  joinable : Bool := true
  activity : Activity := .serving []
deriving DecidableEq

namespace Ticker

/-- The name of the ticker that a process shares. -/
def sharedName : String :=
  "async-request-buffer-timeout"

/-- Why a thread dies whose next look has no instant. -/
def overflowReason : String :=
  "overflow when adding duration to instant"

/-- A ticker whose thread has just started. -/
def start (name : String) : Noted Ticker := do
  Noted.log (.tickerStarted name)
  pure { name }

/-- The number of live registrations. -/
def registrationCount (ticker : Ticker) : Nat :=
  ticker.schedule.size

/-- The thread neither runs nor will run. -/
def hasEnded (ticker : Ticker) : Bool :=
  match ticker.activity with
  | .serving _ | .handling .. => false
  | .finished | .crashed _ => true

/-- The description of a ticker. -/
def describe (nameText : String → String) (ticker : Ticker) : String :=
  "TimeoutTicker \x7b name: " ++ nameText ticker.name ++ ", registrations: " ++
    toString ticker.registrationCount ++ " \x7d"

/-- The description of a registration. -/
def describeRegistration (id : Nat) : String :=
  "TickerRegistration \x7b id: " ++ toString id ++ " \x7d"

/-! ## Calls from other threads -/

/-- Watches a timer from now on; a refused registration uses up a number too. -/
def register (timer inbox : Nat) (handler : Handler) (now : Instant) (delay period : Duration)
    (ticker : Ticker) : Noted (Except TickerError Nat × Ticker) :=
  let id := ticker.nextId
  let counted := { ticker with nextId := id + 1 }
  if ticker.stopRequested then pure (.error .shutdown, counted)
  else do
    let due ← Noted.later now delay
    let appointment : Appointment := ⟨⟨id, timer, inbox, handler⟩, due, period⟩
    Noted.log (.checkRegistered ticker.name id period)
    pure (.ok id, { counted with schedule := ticker.schedule.put id appointment })

/-- The first half of a cancellation: no check of the registration begins any more. -/
def silence (id : Nat) (ticker : Ticker) : Ticker :=
  { ticker with cancelled := id :: ticker.cancelled }

/-- The second half of a cancellation: the registration leaves the schedule. -/
def remove (id : Nat) (ticker : Ticker) : Except TickerError Unit × Ticker :=
  if ticker.stopRequested then (.error .shutdown, ticker)
  else if ticker.schedule.contains id then
    (.ok (), { ticker with schedule := ticker.schedule.erase id })
  else (.error (.unknownRegistration id), ticker)

/-- Cancels a registration that is not being checked. -/
def cancel (id : Nat) (ticker : Ticker) : Except TickerError Unit × Ticker :=
  (ticker.silence id).remove id

/-- Asks the thread to return before its next round. -/
def requestStop (ticker : Ticker) : Ticker :=
  { ticker with stopRequested := true }

/-- The end of a shutdown, after the thread has been waited for if nobody had taken it. -/
def conclude (ticker : Ticker) : Noted Ticker := do
  if ticker.joinable then
    match ticker.activity with
    | .crashed reason => Noted.log (.tickerFailed ticker.name reason)
    | _ => pure ()
  Noted.log (.tickerStopped ticker.name)
  pure { ticker with joinable := false }

/-! ## Steps of the thread -/

/-- Between two rounds: returns if asked to stop, else collects what is due.  Some registrations
may have got their next looks when one is found that has none.  The schedule is left as it was
all the same: nobody but the thread, which is dead then, reads when a registration is due. -/
def beginRound (now : Instant) (ticker : Ticker) : Ticker :=
  if ticker.stopRequested then { ticker with activity := .finished }
  else
    match ticker.schedule.collect now with
    | none => { ticker with activity := .crashed overflowReason }
    | some (due, schedule) => { ticker with schedule, activity := .serving due }

/-- A shutdown by the thread itself, which cannot wait for its own end. -/
def stopFromHandler (ticker : Ticker) : Noted Ticker := do
  Noted.log (.tickerStopped ticker.name)
  pure { ticker with stopRequested := true, joinable := false }

/-- Calls the handler of a registration whose timer has reported a generation. -/
def beginHandling (registration : Registration) (generation : Nat) (ends : Instant)
    (collected : List Registration) (ticker : Ticker) : Noted Ticker := do
  Noted.log (.timeoutFired registration.id generation)
  Noted.measure .timeoutFired
  pure { ticker with activity := .handling registration generation ends collected }

/-- The handler is done; if it panicked this time, the thread goes on all the same. -/
def finishHandling (registration : Registration) (generation : Nat) (panicked : Bool)
    (collected : List Registration) (ticker : Ticker) : Noted Ticker := do
  if panicked then
    Noted.measure .handlerPanicked
    Noted.log (.handlerPanicked registration.id generation)
  pure { ticker with activity := .serving collected }

/-- Some registration of the timer is still referred to by the schedule or by the thread. -/
def watches (timer : Nat) (ticker : Ticker) : Bool :=
  let scheduled := ticker.schedule.values.map Appointment.registration
  let begun :=
    match ticker.activity with
    | .serving collected => collected
    | .handling registration _ _ collected => registration :: collected
    | .finished | .crashed _ => []
  (scheduled ++ begun).any fun registration => registration.timer = timer

/-- The time that the thread needs for what it has begun. -/
def remaining (now : Instant) (ticker : Ticker) : Duration :=
  let durationOf (collected : List Registration) : Duration :=
    collected.foldl (fun total registration => total + registration.handler.duration) 0
  match ticker.activity with
  | .serving collected => durationOf collected
  | .handling _ _ ends collected => ends - now + durationOf collected
  | .finished | .crashed _ => 0

/-- The thread is in the handler of the registration. -/
def isHandling (id : Nat) (ticker : Ticker) : Bool :=
  match ticker.activity with
  | .handling registration _ _ _ => registration.id = id
  | _ => false

end Ticker

end KeyedBatching
