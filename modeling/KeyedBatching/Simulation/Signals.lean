import KeyedBatching.Simulation.Members

/-!
# Signals to a simulated controller

The owner of a controller sleeps until its ticker has signalled, and acts on what
has arrived. Signals can arrive as long as the controller holds its claim or a
ticker still refers to its timer.
-/

namespace KeyedBatching

namespace Simulation

variable {K P : Type} [DecidableEq K]

/-- The signals that have arrived at a controller and were not taken yet. -/
def pendingSignals (number : Nat) (simulation : Simulation (Controller K P)) : List Nat :=
  (simulation.member? number).elim [] Controller.signals

/-- Somebody may still signal to a controller. -/
def isConnected (number : Nat) (simulation : Simulation (Controller K P)) : Bool :=
  (simulation.member? number).any (fun controller => controller.buffer.isRegistered) ||
    simulation.tickers.values.any (Ticker.watches number)

/-- Waits for the next signal and takes it; there is none once nobody may signal any more. -/
def nextSignal (number : Nat) (simulation : Simulation (Controller K P)) :
    Option Nat × Simulation (Controller K P) :=
  let hasCome (reached : Simulation (Controller K P)) : Bool :=
    !(reached.pendingSignals number).isEmpty || !reached.isConnected number
  let (taken, simulation) :=
    (simulation.waitFor hasCome).onMember number fun _ controller => pure controller.takeSignal
  (taken.join, simulation)

/-- Acts on all signals that have arrived at a controller. -/
def processSignals (number : Nat) (simulation : Simulation (Controller K P)) :
    List (Batch (Request K P)) × Simulation (Controller K P) :=
  let (batches, simulation) :=
    simulation.onMember number fun _ controller => controller.processTimeouts
  (batches.getD [], simulation)

/-- Acts on signals and waits for more, at most `rounds` times, until enough batches came. -/
def collectBatches (number count : Nat) :
    Nat → List (Batch (Request K P)) → Simulation (Controller K P) →
      List (Batch (Request K P)) × Simulation (Controller K P)
  | 0, batches, simulation => (batches, simulation)
  | rounds + 1, batches, simulation =>
      if count ≤ batches.length then (batches, simulation)
      else
        let (more, simulation) := simulation.processSignals number
        let batches := batches ++ more
        let hasCome (reached : Simulation (Controller K P)) : Bool :=
          count ≤ batches.length || !(reached.pendingSignals number).isEmpty
        collectBatches number count rounds batches (simulation.waitFor hasCome)

/-- Acts on signals until a number of batches came; for no batch at all, signals stay untaken. -/
def processUntil (number count : Nat) (simulation : Simulation (Controller K P)) :
    List (Batch (Request K P)) × Simulation (Controller K P) :=
  simulation.collectBatches number count (count + 2) []

end Simulation

end KeyedBatching
