import KeyedBatching.ActiveQueue
import KeyedBatching.BatchTimer
import KeyedBatching.BufferSettings
import KeyedBatching.Ticker.Basic
import KeyedBatching.WaitingRoom

/-!
# Request buffers

A buffer keeps admitted requests in an active queue and the requests of busy
keys in a waiting room. Admission opens a window of its timer, which a ticker
watches as long as the buffer holds a registration. Closing empties the slot of
the registration first, so a failure shows at most once.
-/

namespace KeyedBatching

open Telemetry

/-- A claim on a registration: the number of its ticker, and its own. -/
structure RegistrationHandle where
  ticker : Nat
  id : Nat
deriving DecidableEq

/-- A buffer of requests that leave in batches. -/
structure RequestBuffer (K P : Type) where
  active : ActiveQueue (Request K P) := {}
  waiting : WaitingRoom K P := {}
  timer : BatchTimer
  settings : BufferSettings
  registration : Option RegistrationHandle := none
deriving DecidableEq

/-- The sizes of a buffer and the state of its timer. -/
structure BufferStats where
  active : Nat
  waiting : Nat
  waitingKeys : Nat
  generation : Nat
  timerArmed : Bool
deriving DecidableEq

namespace RequestBuffer

variable {K P : Type}

/-- A buffer whose batches never fall due by age, and which reports nothing. -/
def withoutTimeout : RequestBuffer K P :=
  { timer := { timeout := 0 }, settings := .disabled }

/-- An empty buffer that holds the given claim. -/
def empty (settings : BufferSettings) (registration : Option RegistrationHandle) :
    RequestBuffer K P :=
  { timer := { timeout := settings.timeout }, settings, registration }

/-- Reports a new buffer. -/
def created (buffer : RequestBuffer K P) : Noted (RequestBuffer K P) := do
  Noted.log (.bufferCreated buffer.settings.timeout buffer.settings.interval
    buffer.registration.isSome)
  pure buffer

/-- A buffer that no ticker watches. -/
def unwatched (settings : BufferSettings) :
    Noted (Except BufferError (RequestBuffer K P)) :=
  match settings.validate with
  | .error fault => pure (.error fault)
  | .ok _ => do
      let buffer ← created (empty settings none)
      pure (.ok buffer)

/-- A buffer whose timer a ticker watches from now on, if the settings have a timeout. -/
def watched (settings : BufferSettings) (place timer inbox : Nat) (handler : Handler)
    (now : Instant) (ticker : Ticker) :
    Noted (Except BufferError (RequestBuffer K P) × Ticker) :=
  match settings.validate with
  | .error fault => pure (.error fault, ticker)
  | .ok _ =>
      if settings.timeoutEnabled then do
        let (outcome, ticker) ←
          ticker.register timer inbox handler now settings.timeout settings.interval
        match outcome with
        | .error cause => pure (.error (.register cause), ticker)
        | .ok id =>
            let buffer ← created (empty settings (some ⟨place, id⟩))
            pure (.ok buffer, ticker)
      else do
        let buffer ← created (empty settings none)
        pure (.ok buffer, ticker)

/-! ## Sizes and the timer -/

/-- The sizes of a buffer and the state of its timer. -/
def stats (buffer : RequestBuffer K P) : BufferStats :=
  { active := buffer.active.size
    waiting := buffer.waiting.size
    waitingKeys := buffer.waiting.keyCount
    generation := buffer.timer.current
    timerArmed := buffer.timer.isArmed }

/-- The buffer still holds its registration. -/
def isRegistered (buffer : RequestBuffer K P) : Bool :=
  buffer.registration.isSome

/-- The description of a buffer. -/
def describe (buffer : RequestBuffer K P) : String :=
  "AsyncRequestBuffer \x7b active: " ++ toString buffer.active.size ++ ", blocking: " ++
    toString buffer.waiting.size ++ ", generation: " ++ toString buffer.timer.current ++
    ", config: " ++ buffer.settings.describe ++ " \x7d"

/-- Starts the next generation. -/
def advanceGeneration (buffer : RequestBuffer K P) : Nat × RequestBuffer K P :=
  (buffer.timer.advance.1, { buffer with timer := buffer.timer.advance.2 })

/-! ## Requests -/

/-- Admits a request, and opens a window if none is open. -/
def enqueueActive (now : Instant) (request : Request K P) (buffer : RequestBuffer K P) :
    Noted (RequestBuffer K P) := do
  let buffer := { buffer with active := buffer.active.push request }
  let (opened, timer) ← buffer.timer.armIfIdle now
  if opened then Noted.log (.timerArmed timer.current)
  pure { buffer with timer }

/-- Moves up to `count` of the oldest admitted requests into a container that a factory makes. -/
def popActive {C : Type} {m : Type → Type} [Monad m] [Container C (Request K P)] (count : Nat)
    (factory : m C) (buffer : RequestBuffer K P) : m (Option C × RequestBuffer K P) := do
  let (container, active) ← buffer.active.popInto count factory
  pure (container, { buffer with active })

variable [DecidableEq K]

/-- Parks a request whose key is busy. -/
def enqueueWaiting (request : Request K P) (buffer : RequestBuffer K P) : RequestBuffer K P :=
  { buffer with waiting := buffer.waiting.enqueue request }

/-- Takes the first waiting request of a key. -/
def unblockOne (key : K) (buffer : RequestBuffer K P) :
    Option (Request K P) × RequestBuffer K P :=
  let outcome := buffer.waiting.unblockOne key
  (outcome.1, { buffer with waiting := outcome.2 })

end RequestBuffer

/-! ## Closing -/

/-- What closing a buffer leaves behind. -/
structure Closing where
  outcome : Except BufferError Unit
  /-- The slot after the call, which is always empty. -/
  slot : Option RegistrationHandle
  /-- The ticker after the call, if there is one. -/
  ticker : Option Ticker

namespace Closing

/-- Empties a slot and cancels the claim that it held; a ticker that is gone counts as shut down. -/
def ofSlot (slot : Option RegistrationHandle) (ticker : Option Ticker) : Noted Closing :=
  match slot with
  | none => pure ⟨.ok (), none, ticker⟩
  | some handle =>
      match ticker with
      | none => pure ⟨.error (.close .shutdown), none, none⟩
      | some ticker =>
          match ticker.cancel handle.id with
          | (.error cause, ticker) => pure ⟨.error (.close cause), none, some ticker⟩
          | (.ok _, ticker) => do
              Noted.log (.bufferClosed handle.id)
              pure ⟨.ok (), none, some ticker⟩

/-- Reports a failure to close a buffer that goes away. -/
def onDrop (closing : Closing) : Noted Closing := do
  match closing.outcome with
  | .error fault => Noted.log (.closeFailed fault)
  | .ok _ => pure ()
  pure closing

end Closing

end KeyedBatching
