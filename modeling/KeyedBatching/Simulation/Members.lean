import KeyedBatching.Simulation.Tickers

/-!
# The members of a simulation

Opening, closing and dropping the buffers and controllers of a simulation. The
number of a member is also the number of its timer and of its inbox. Closing
waits for a running check of the member before it cancels anything.
-/

namespace KeyedBatching

open Telemetry

/-- Things that hold a claim on a registration until they are closed. -/
class Claimant (α : Type) where
  claim : α → Option RegistrationHandle
  withClaim : Option RegistrationHandle → α → α

instance {K P : Type} : Claimant (RequestBuffer K P) where
  claim := RequestBuffer.registration
  withClaim registration buffer := { buffer with registration }

instance {K P : Type} : Claimant (Controller K P) where
  claim controller := controller.buffer.registration
  withClaim registration controller :=
    { controller with buffer := { controller.buffer with registration } }

/-- How a member comes into being, with a ticker or without one. -/
structure Opening (α : Type) where
  /-- The member falls back on the shared ticker if it is not given one. -/
  wantsTicker : Bool
  unwatched : Noted (Except BufferError α)
  /-- The arguments are the place of the ticker, the number of the member, and the time. -/
  watched : Nat → Nat → Instant → Ticker → Noted (Except BufferError α × Ticker)

/-- The opening of a buffer. -/
def RequestBuffer.opening {K P : Type} (settings : BufferSettings) (handler : Handler) :
    Opening (RequestBuffer K P) where
  wantsTicker := settings.timeoutEnabled
  unwatched := RequestBuffer.unwatched settings
  watched place number := RequestBuffer.watched settings place number number handler

/-- The opening of a buffer without a timeout, which cannot fail and reports nothing. -/
def RequestBuffer.openingWithoutTimeout {K P : Type} : Opening (RequestBuffer K P) where
  wantsTicker := false
  unwatched := pure (.ok RequestBuffer.withoutTimeout)
  watched _ _ _ ticker := pure (.ok RequestBuffer.withoutTimeout, ticker)

/-- The opening of a controller, whose handler only leaves a signal. -/
def Controller.opening {K P : Type} (settings : ControllerSettings) :
    Opening (Controller K P) where
  wantsTicker := settings.batchSize ≠ 0 && settings.buffer.timeoutEnabled
  unwatched := Controller.unwatched settings
  watched place number := Controller.watched settings place number number {}

namespace Simulation

variable {α β : Type}

/-- Puts a new member into its place, unless it could not be made. -/
def settleMember (number : Nat) (outcome : Except BufferError α) (simulation : Simulation α) :
    Except BufferError Unit × Simulation α :=
  match outcome with
  | .error fault => (.error fault, simulation)
  | .ok member => (.ok (), simulation.putMember number member)

/-- Opens a member without a ticker. -/
def openUnwatched (opening : Opening α) (number : Nat) (simulation : Simulation α) :
    Except BufferError Unit × Simulation α :=
  let (outcome, simulation) := simulation.perform .owner opening.unwatched
  simulation.settleMember number outcome

/-- Opens a member with the ticker at a place. -/
def openWatched (opening : Opening α) (place number : Nat) (simulation : Simulation α) :
    Except BufferError Unit × Simulation α :=
  match simulation.ticker? place with
  | none => simulation.openUnwatched opening number
  | some ticker =>
      let ((outcome, ticker), simulation) :=
        simulation.perform .owner (opening.watched place number simulation.clock ticker)
      (simulation.putTicker place ticker).settleMember number outcome

/-- Opens a member without naming a ticker: with the shared one if it wants any. -/
def openMember (opening : Opening α) (number : Nat) (simulation : Simulation α) :
    Except BufferError Unit × Simulation α :=
  if opening.wantsTicker then simulation.joinShared.openWatched opening sharedPlace number
  else simulation.openUnwatched opening number

/-- Performs an operation of the owner on a member. -/
def onMember (number : Nat) (operation : Instant → α → Noted (β × α))
    (simulation : Simulation α) : Option β × Simulation α :=
  match simulation.member? number with
  | none => (none, simulation)
  | some member =>
      let ((value, member), simulation) :=
        simulation.perform .owner (operation simulation.clock member)
      (some value, simulation.putMember number member)

section Closing

variable [Timed α] [Claimant α]

/-- Closes a member in the given way, after a running check of it has ended. -/
def closeMemberBy (close : Option RegistrationHandle → Option Ticker → Noted Closing)
    (number : Nat) (simulation : Simulation α) :
    Except BufferError Unit × Simulation α :=
  match simulation.member? number with
  | none => (.ok (), simulation)
  | some member =>
      match Claimant.claim member with
      | none =>
          let (closing, simulation) := simulation.perform .owner (close none none)
          (closing.outcome, simulation)
      | some handle =>
          let waited := simulation.awaitHandler handle.ticker handle.id
          let (closing, reported) :=
            waited.perform .owner (close (some handle) (waited.ticker? handle.ticker))
          let tickers :=
            match closing.ticker with
            | none => reported.tickers
            | some ticker => reported.tickers.put handle.ticker ticker
          let members :=
            match reported.member? number with
            | none => reported.members
            | some member =>
                reported.members.put number (Claimant.withClaim closing.slot member)
          (closing.outcome, { reported with tickers, members })

/-- Closes a member. -/
def closeMember (number : Nat) (simulation : Simulation α) :
    Except BufferError Unit × Simulation α :=
  simulation.closeMemberBy Closing.ofSlot number

/-- Drops a member, which closes it first. -/
def dropMember (number : Nat) (simulation : Simulation α) : Simulation α :=
  let dropping (slot : Option RegistrationHandle) (ticker : Option Ticker) : Noted Closing := do
    let closing ← Closing.ofSlot slot ticker
    closing.onDrop
  let closed := (simulation.closeMemberBy dropping number).2
  { closed with members := closed.members.erase number }

/-- Drops all members in order, then the simulation's own ticker. -/
def tearDown (simulation : Simulation α) : Simulation α :=
  (simulation.members.keys.foldl (fun reached number => reached.dropMember number)
    simulation).dropTicker ownPlace

end Closing

end Simulation

end KeyedBatching
