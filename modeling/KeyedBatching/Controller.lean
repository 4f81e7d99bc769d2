import KeyedBatching.RequestBuffer

/-!
# The controller

A controller lets at most one request of a key out at a time. A submitted request
of a free key is admitted, one of a busy key waits, and completing a key admits
its next waiting request or frees it. A batch leaves as soon as the active queue
holds enough requests, when the owner flushes, or on the signal of the ticker for
the generation in progress.
-/

namespace KeyedBatching

open Telemetry

/-- The settings of a controller. -/
structure ControllerSettings where
  buffer : BufferSettings := {}
  /-- The size of the active queue at which a batch leaves. -/
  batchSize : Nat := 1000
deriving DecidableEq

/-- A buffer with the keys in flight and the signals of its ticker. -/
structure Controller (K P : Type) where
  buffer : RequestBuffer K P
  /-- The keys with a request in the active queue or outside. -/
  inFlight : List K := []
  batchSize : Nat
  /-- The generations that the ticker has signalled, the oldest first. -/
  signals : List Nat := []
deriving DecidableEq

/-- An empty batch with room for a number of requests from the beginning. -/
def Batch.withRoom {K P : Type} (requests : Nat) : Noted (Batch (Request K P)) := do
  Noted.demand (.room requests)
  pure {}

namespace Controller

variable {K P : Type}

/-- A batch size of zero is refused before anything else. -/
def checkSettings (settings : ControllerSettings) : Except BufferError Unit :=
  if settings.batchSize = 0 then .error .zeroBatchSize else .ok ()

/-- A controller around a new buffer. -/
def around (settings : ControllerSettings) (buffer : RequestBuffer K P) : Controller K P :=
  { buffer, batchSize := settings.batchSize }

/-- A controller that no ticker watches. -/
def unwatched (settings : ControllerSettings) : Noted (Except BufferError (Controller K P)) :=
  match checkSettings settings with
  | .error fault => pure (.error fault)
  | .ok _ => do
      let outcome ← RequestBuffer.unwatched settings.buffer
      pure (outcome.map (around settings))

/-- A controller that a ticker watches from now on, if its settings have a timeout. -/
def watched (settings : ControllerSettings) (place timer inbox : Nat) (handler : Handler)
    (now : Instant) (ticker : Ticker) :
    Noted (Except BufferError (Controller K P) × Ticker) :=
  match checkSettings settings with
  | .error fault => pure (.error fault, ticker)
  | .ok _ => do
      let outcome ← RequestBuffer.watched settings.buffer place timer inbox handler now ticker
      pure (outcome.1.map (around settings), outcome.2)

/-- The number of keys in flight. -/
def inFlightCount (controller : Controller K P) : Nat :=
  controller.inFlight.length

/-- Publishes the depths of the queues. -/
def publishDepths (controller : Controller K P) : Noted Unit :=
  Noted.measure (.queueDepths controller.buffer.active.size controller.buffer.waiting.size
    controller.buffer.waiting.keyCount)

/-- Hands out up to a batch of admitted requests and starts the next generation.  If there is
any, the batch has room for as many requests as the controller ever hands out together, before
the first of them moves. -/
def flushBatch (byTimeout : Bool) (controller : Controller K P) :
    Noted (Option (Batch (Request K P)) × Controller K P) := do
  let generation := controller.buffer.timer.current
  let (popped?, buffer) ←
    controller.buffer.popActive controller.batchSize (Batch.withRoom controller.batchSize)
  match popped? with
  | none => pure (none, { controller with buffer })
  | some popped =>
      let batch := { popped with generation }
      let controller := { controller with buffer := buffer.advanceGeneration.2 }
      Noted.measure (.batchFlushed batch.size byTimeout)
      controller.publishDepths
      Noted.log (.batchFlushed generation batch.size byTimeout)
      pure (some batch, controller)

/-- Hands out what is admitted, however little it is. -/
def flush (controller : Controller K P) :
    Noted (Option (Batch (Request K P)) × Controller K P) :=
  controller.flushBatch false

/-- Hands out a batch once enough requests are admitted. -/
def flushIfFull (controller : Controller K P) :
    Noted (Option (Batch (Request K P)) × Controller K P) :=
  if controller.batchSize ≤ controller.buffer.active.size then controller.flushBatch false
  else do
    controller.publishDepths
    pure (none, controller)

/-- Admits a request, and hands out a batch if that fills one. -/
def enqueue (now : Instant) (request : Request K P) (controller : Controller K P) :
    Noted (Option (Batch (Request K P)) × Controller K P) := do
  let buffer ← controller.buffer.enqueueActive now request
  flushIfFull { controller with buffer }

/-- Acts on a signal: hands out a batch if the signalled generation is in progress. -/
def onTimeout (generation : Nat) (controller : Controller K P) :
    Noted (Option (Batch (Request K P)) × Controller K P) :=
  if controller.buffer.timer.isCurrent generation then controller.flushBatch true
  else do
    Noted.log (.staleTimeout generation)
    pure (none, controller)

/-! ## Signals -/

/-- The ticker's handler leaves a signal. -/
def signal (generation : Nat) (controller : Controller K P) : Controller K P :=
  { controller with signals := controller.signals ++ [generation] }

/-- Takes the oldest signal. -/
def takeSignal (controller : Controller K P) : Option Nat × Controller K P :=
  match controller.signals with
  | [] => (none, controller)
  | generation :: later => (some generation, { controller with signals := later })

/-- Acts on some signals in order. -/
def actOn (controller : Controller K P) :
    List Nat → Noted (List (Batch (Request K P)) × Controller K P)
  | [] => pure ([], controller)
  | generation :: later => do
      let (batch, controller) ← controller.onTimeout generation
      let (batches, controller) ← controller.actOn later
      pure (batch.toList ++ batches, controller)

/-- Takes all signals and acts on them in order. -/
def processTimeouts (controller : Controller K P) :
    Noted (List (Batch (Request K P)) × Controller K P) :=
  { controller with signals := [] }.actOn controller.signals

variable [DecidableEq K]

/-! ## Requests -/

/-- The key has a request in the active queue or outside. -/
def isInFlight (key : K) (controller : Controller K P) : Bool :=
  key ∈ controller.inFlight

/-- Submits a request: admits it if its key is free, else lets it wait. -/
def submit (now : Instant) (request : Request K P) (controller : Controller K P) :
    Noted (Option (Batch (Request K P)) × Controller K P) :=
  if controller.isInFlight request.key then do
    let controller := { controller with buffer := controller.buffer.enqueueWaiting request }
    controller.publishDepths
    pure (none, controller)
  else
    { controller with inFlight := request.key :: controller.inFlight }.enqueue now request

/-- Completes a key: admits its next waiting request, or frees the key. -/
def complete (now : Instant) (key : K) (controller : Controller K P) :
    Noted (Option (Batch (Request K P)) × Controller K P) :=
  match controller.buffer.unblockOne key with
  | (some next, buffer) => do
      Noted.log (.requestPromoted next.priority)
      { controller with buffer }.enqueue now next
  | (none, buffer) =>
      pure (none, { controller with buffer, inFlight := controller.inFlight.erase key })

end Controller

end KeyedBatching
