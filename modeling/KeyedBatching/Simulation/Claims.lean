import KeyedBatching.Simulation.Tickers

/-!
# Claims on registrations

Registering a timer with the ticker gives a claim, which is kept in a slot of its
own. A refused registration takes a slot too and leaves it empty, and cancelling
uses the claim up whatever comes of it.
-/

namespace KeyedBatching

namespace Simulation

variable {α : Type} [Timed α]

/-- Registers a timer with the simulation's own ticker, and keeps the claim in the next slot. -/
def registerTimer (timer : Nat) (handler : Handler) (delay period : Duration)
    (simulation : Simulation α) : Option (Except TickerError Nat) × Simulation α :=
  match simulation.ticker? ownPlace with
  | none => (none, simulation)
  | some ticker =>
      let slot := simulation.slots
      let ((outcome, ticker), simulation) :=
        simulation.perform .owner
          (ticker.register timer slot handler simulation.clock delay period)
      let registered := { simulation with slots := slot + 1 }.putTicker ownPlace ticker
      match outcome with
      | .error fault => (some (.error fault), registered)
      | .ok id =>
          (some (.ok id),
            { registered with claims := registered.claims.put slot ⟨ownPlace, id⟩ })

/-- Uses up the claim of a slot, after a running check of it has ended. -/
def cancelClaim (slot : Nat) (simulation : Simulation α) :
    Option (Except TickerError Unit) × Simulation α :=
  match simulation.claims.get? slot with
  | none => (none, simulation)
  | some handle =>
      let released := { simulation with claims := simulation.claims.erase slot }
      let waited := released.awaitHandler handle.ticker handle.id
      match waited.ticker? handle.ticker with
      | none => (some (.error .shutdown), waited)
      | some ticker =>
          let (outcome, ticker) := ticker.cancel handle.id
          (some outcome, waited.putTicker handle.ticker ticker)

end Simulation

end KeyedBatching
