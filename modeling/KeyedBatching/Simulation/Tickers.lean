import KeyedBatching.Simulation.Basic

/-!
# The tickers of a simulation

A simulation has up to two tickers: one of its own, and the one that the whole
process shares, which starts when it is first needed and is never taken down.
Stopping a ticker waits for the end of its thread.
-/

namespace KeyedBatching

namespace Ticker

/-- The instant at which the thread leaves the handler of a registration, if it is in it. -/
def leaves? (id : Nat) (ticker : Ticker) : Option Instant :=
  match ticker.activity with
  | .handling registration _ ends _ => if registration.id = id then some ends else none
  | _ => none

end Ticker

namespace Simulation

variable {α β : Type}

/-- Starts a simulation's own ticker. -/
def startTicker (name : String) (simulation : Simulation α) : Simulation α :=
  let (ticker, simulation) := simulation.perform .owner (Ticker.start name)
  simulation.putTicker ownPlace ticker

/-- Makes sure that the shared ticker is in its place; its start is reported once. -/
def joinShared (simulation : Simulation α) : Simulation α :=
  match simulation.ticker? sharedPlace with
  | some _ => simulation
  | none =>
      let started := Ticker.start Ticker.sharedName
      if simulation.sharedStarted then simulation.putTicker sharedPlace started.value
      else
        let (ticker, simulation) := simulation.perform .owner started
        { simulation with sharedStarted := true }.putTicker sharedPlace ticker

/-- Lets the ticker at a place, if there is one, take part in an operation. -/
def withTicker (place : Nat) (operation : Ticker → β × Ticker) (simulation : Simulation α) :
    Option β × Simulation α :=
  match simulation.ticker? place with
  | none => (none, simulation)
  | some ticker =>
      let (value, ticker) := operation ticker
      (some value, simulation.putTicker place ticker)

/-- The number of live registrations at a place. -/
def registrationCount? (place : Nat) (simulation : Simulation α) : Option Nat :=
  (simulation.ticker? place).map Ticker.registrationCount

/-- The thread at a place has ended. -/
def hasEnded (place : Nat) (simulation : Simulation α) : Bool :=
  (simulation.ticker? place).all Ticker.hasEnded

variable [Timed α]

/-- Waits until a thread has left the handler of a registration. -/
def awaitHandler (place id : Nat) (simulation : Simulation α) : Simulation α :=
  match (simulation.ticker? place).bind (Ticker.leaves? id) with
  | none => simulation
  | some ends =>
      let hasLeft (reached : Simulation α) : Bool :=
        (reached.ticker? place).all fun ticker => !ticker.isHandling id
      simulation.runUntil ends hasLeft simulation.clock

/-- Waits until a thread has ended that was asked to stop. -/
def awaitEnd (place : Nat) (simulation : Simulation α) : Simulation α :=
  match simulation.ticker? place with
  | none => simulation
  | some ticker =>
      simulation.runUntil (simulation.clock + ticker.remaining simulation.clock)
        (hasEnded place) simulation.clock

/-- Stops the ticker at a place, and waits for its thread, or for whoever waits for that already.
If the thread itself has given its handle away, nobody waits any more. -/
def shutdownTicker (place : Nat) (simulation : Simulation α) : Simulation α :=
  match simulation.ticker? place with
  | none => simulation
  | some ticker =>
      let awaited := simulation.ownAwaited || ticker.joinable
      let asked := { simulation.putTicker place ticker.requestStop with ownAwaited := awaited }
      let waited := if awaited then asked.awaitEnd place else asked
      match waited.ticker? place with
      | none => waited
      | some ended =>
          let (concluded, reported) := waited.perform .owner ended.conclude
          reported.putTicker place concluded

/-- Takes down the ticker at a place, which stops it first. -/
def dropTicker (place : Nat) (simulation : Simulation α) : Simulation α :=
  let stopped := simulation.shutdownTicker place
  { stopped with tickers := stopped.tickers.erase place }

end Simulation

end KeyedBatching
