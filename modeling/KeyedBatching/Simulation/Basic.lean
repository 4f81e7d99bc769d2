import KeyedBatching.Controller

/-!
# Simulation in virtual time

Buffers, controllers or bare timers together with the tickers that watch them,
on one virtual clock. The calls of their owner take no time; the threads of the
tickers run while the owner sleeps or waits, each on the earliest instant at
which it has something to do. A handler may stop the simulation's own ticker,
also when the ticker that the process shares calls it. Everything reported is
kept in order.

Whoever shuts a ticker down from outside lets nobody else at its handle until the
thread has ended.  If a handler on that very thread stops the ticker meanwhile,
neither goes on: the owner never gets an answer, and the simulation says so.  It
also says so when a call of the owner asks for more than the machine has.
-/

namespace KeyedBatching

open Telemetry

/-- Things with a batch timer that can be told of an expired window. -/
class Timed (α : Type) where
  timer : α → BatchTimer
  withTimer : BatchTimer → α → α
  signal : Nat → α → α

instance : Timed BatchTimer where
  timer := id
  withTimer timer _ := timer
  signal _ timer := timer

instance {K P : Type} : Timed (RequestBuffer K P) where
  timer := RequestBuffer.timer
  withTimer timer buffer := { buffer with timer }
  signal _ buffer := buffer

instance {K P : Type} : Timed (Controller K P) where
  timer controller := controller.buffer.timer
  withTimer timer controller :=
    { controller with buffer := { controller.buffer with timer } }
  signal := Controller.signal

/-- Which thread an event comes from. -/
inductive Origin where
  | owner
  | ticker
deriving DecidableEq

/-- Members with timers, the tickers that watch them, and what they reported. -/
structure Simulation (α : Type) where
  clock : Instant
  members : KeyTable Nat α := {}
  tickers : KeyTable Nat Ticker := {}
  /-- The claims on registrations of bare timers, by the slots that they are kept in. -/
  claims : KeyTable Nat RegistrationHandle := {}
  /-- The number of slots that were taken so far. -/
  slots : Nat := 0
  /-- The generations that each handler was called with, the first call first. -/
  inboxes : KeyTable Nat (List Nat) := {}
  log : List (Origin × LogEvent) := []
  metrics : Metrics := {}
  /-- The number of panics on the threads of the tickers. -/
  panics : Nat := 0
  /-- The process had started its shared ticker before. -/
  sharedStarted : Bool := true
  /-- Somebody has waited for the end of the own ticker's thread, and may still do so. -/
  ownAwaited : Bool := false
  /-- The own ticker's thread waits, in a handler, for somebody who waits for its end. -/
  deadlocked : Bool := false
  machine : Machine := {}
  /-- A call of the owner asked for more than the machine has, and does not return. -/
  stopped : Bool := false

namespace Simulation

variable {α β : Type}

/-- The instant at which a simulation starts: the machine has been up for a day. -/
def origin : Instant := 86400 * Duration.second

/-- A simulation without members and tickers. -/
def initial : Simulation α :=
  { clock := origin }

/-- The first simulation of a process, which has not started its shared ticker yet. -/
def first : Simulation α :=
  { clock := origin, sharedStarted := false }

/-- Keeps what an operation reported, and goes on with its value.  If the operation does not
return on the machine, nothing that comes after counts. -/
def perform (origin : Origin) (noted : Noted β) (simulation : Simulation α) :
    β × Simulation α :=
  (noted.value,
    { simulation with
      log := simulation.log ++ (eventsOf noted.notices).map fun event => (origin, event)
      metrics := simulation.metrics.absorb noted.notices
      stopped := simulation.stopped || !noted.returns simulation.machine })

/-- The events of one thread, without the given number of events of both that came first. -/
def eventsSince (count : Nat) (origin : Origin) (simulation : Simulation α) : List LogEvent :=
  ((simulation.log.drop count).filter fun entry => entry.1 = origin).map Prod.snd

/-- What a handler was called with. -/
def inbox (number : Nat) (simulation : Simulation α) : List Nat :=
  (simulation.inboxes.get? number).getD []

/-- A member. -/
def member? (index : Nat) (simulation : Simulation α) : Option α :=
  simulation.members.get? index

/-- The simulation with a member put into place. -/
def putMember (index : Nat) (member : α) (simulation : Simulation α) : Simulation α :=
  { simulation with members := simulation.members.put index member }

/-- The place of a simulation's own ticker. -/
def ownPlace : Nat := 0

/-- The place of the ticker that the process shares. -/
def sharedPlace : Nat := 1

/-- The ticker at a place. -/
def ticker? (place : Nat) (simulation : Simulation α) : Option Ticker :=
  simulation.tickers.get? place

/-- The simulation with a ticker put into place. -/
def putTicker (place : Nat) (ticker : Ticker) (simulation : Simulation α) : Simulation α :=
  { simulation with tickers := simulation.tickers.put place ticker }

/-! ## The threads of the tickers -/

/-- The instant at which a thread has something to do. -/
def wakesAt (now : Instant) (ticker : Ticker) : Option Instant :=
  match ticker.activity with
  | .serving (_ :: _) => some now
  | .serving [] => if ticker.stopRequested then some now else ticker.schedule.earliest
  | .handling _ _ ends _ => some ends
  | .finished | .crashed _ => none

/-- The thread of the ticker at a place never goes on. -/
def isStuck (place : Nat) (simulation : Simulation α) : Bool :=
  place = ownPlace && simulation.deadlocked

/-- The earliest instant at which some thread has something to do. -/
def nextWake (now : Instant) (simulation : Simulation α) : Option Instant :=
  (simulation.tickers.entries.filterMap fun entry =>
    if simulation.isStuck entry.1 then none else wakesAt now entry.2).min?

/-- The time that a round takes at least. -/
def roundTime : Duration := 20000

variable [Timed α]

/-- Polls the timer that a registration watches. -/
def poll (registration : Registration) (now : Instant) (simulation : Simulation α) :
    Option Nat × Simulation α :=
  match simulation.member? registration.timer with
  | none => (none, simulation)
  | some member =>
      let outcome := (Timed.timer member).pollExpired now
      (outcome.1, simulation.putMember registration.timer (Timed.withTimer outcome.2 member))

/-- The handler of a registration leaves a generation where it belongs. -/
def deliver (registration : Registration) (generation : Nat) (simulation : Simulation α) :
    Simulation α :=
  let received := simulation.inbox registration.inbox ++ [generation]
  let simulation :=
    { simulation with inboxes := simulation.inboxes.put registration.inbox received }
  match simulation.member? registration.timer with
  | none => simulation
  | some member => simulation.putMember registration.timer (Timed.signal generation member)

/-- The end of a handler's run. -/
def endHandling (registration : Registration) (generation : Nat) (collected : List Registration)
    (ticker : Ticker) (simulation : Simulation α) : Ticker × Simulation α :=
  let panicked := registration.handler.panics
  let simulation := simulation.deliver registration generation
  let simulation :=
    { simulation with panics := simulation.panics + if panicked then 1 else 0 }
  simulation.perform .ticker (ticker.finishHandling registration generation panicked collected)

/-- How long the ticker at a place is in the handler of a registration. A handler that stops the
simulation's own ticker waits for the thread of that, like whoever waits for it already, but no
thread waits for its own end. -/
def handlerTime (place : Nat) (registration : Registration) (now : Instant)
    (simulation : Simulation α) : Duration :=
  let waits :=
    match simulation.ticker? ownPlace with
    | none => 0
    | some own =>
        if registration.handler.stopsTicker && place ≠ ownPlace &&
            (own.joinable || simulation.ownAwaited) then
          own.remaining now
        else 0
  waits + registration.handler.duration

/-- A handler that the ticker at a place calls stops the simulation's own ticker. On the thread of
that ticker it is stuck for good if somebody waits for the thread already. -/
def stopOwnFromHandler (place : Nat) (ticker : Ticker) (simulation : Simulation α) :
    Ticker × Simulation α :=
  if place = ownPlace then
    if simulation.ownAwaited then (ticker.requestStop, { simulation with deadlocked := true })
    else simulation.perform .ticker ticker.stopFromHandler
  else
    match simulation.ticker? ownPlace with
    | none => (ticker, simulation)
    | some own =>
        let (concluded, reported) := simulation.perform .ticker own.requestStop.conclude
        let stopped := reported.putTicker ownPlace concluded
        (ticker, { stopped with ownAwaited := stopped.ownAwaited || own.joinable })

/-- The ticker at a place calls the handler of a registration. -/
def callHandler (place : Nat) (registration : Registration) (generation : Nat) (ends : Instant)
    (collected : List Registration) (ticker : Ticker) (simulation : Simulation α) :
    Ticker × Simulation α :=
  let (ticker, simulation) :=
    simulation.perform .ticker (ticker.beginHandling registration generation ends collected)
  if registration.handler.stopsTicker then simulation.stopOwnFromHandler place ticker
  else (ticker, simulation)

/-- Checks the registrations that the ticker at a place has collected one by one, up to a handler
that takes time. -/
def serve (place : Nat) (now : Instant) :
    List Registration → Ticker → Simulation α → Ticker × Simulation α
  | [], ticker, simulation => ({ ticker with activity := .serving [] }, simulation)
  | registration :: rest, ticker, simulation =>
      if registration.id ∈ ticker.cancelled then serve place now rest ticker simulation
      else
        match simulation.poll registration now with
        | (none, simulation) => serve place now rest ticker simulation
        | (some generation, simulation) =>
            let duration := simulation.handlerTime place registration now
            let (ticker, simulation) :=
              simulation.callHandler place registration generation (now + duration) rest ticker
            if duration = 0 && !simulation.isStuck place then
              let (ticker, simulation) :=
                simulation.endHandling registration generation rest ticker
              serve place now rest ticker simulation
            else (ticker, simulation)

/-- Goes on with what the thread of the ticker at a place has begun. -/
def resume (place : Nat) (now : Instant) (ticker : Ticker) (simulation : Simulation α) :
    Ticker × Simulation α :=
  match ticker.activity with
  | .serving collected => serve place now collected ticker simulation
  | .handling registration generation ends collected =>
      if ends ≤ now && !simulation.isStuck place then
        let (ticker, simulation) :=
          simulation.endHandling registration generation collected ticker
        serve place now collected ticker simulation
      else (ticker, simulation)
  | .finished | .crashed _ => (ticker, simulation)

/-- Starts a new round of a thread that has nothing left of the last one. -/
def startRound (place : Nat) (now : Instant) (ticker : Ticker) (simulation : Simulation α) :
    Ticker × Simulation α :=
  if ticker.activity = .serving [] then
    let ticker := ticker.beginRound now
    let died := if ticker.hasEnded && !ticker.stopRequested then 1 else 0
    resume place now ticker { simulation with panics := simulation.panics + died }
  else (ticker, simulation)

/-- A part of what the thread of the ticker at a place does at an instant. -/
abbrev ThreadPart (α : Type) :=
  Nat → Instant → Ticker → Simulation α → Ticker × Simulation α

/-- Runs a part of the thread of the ticker at one place. -/
def runAt (part : ThreadPart α) (now : Instant) (place : Nat) (simulation : Simulation α) :
    Simulation α :=
  match simulation.ticker? place with
  | none => simulation
  | some ticker =>
      let (ticker, simulation) := part place now ticker simulation
      simulation.putTicker place ticker

/-- Runs a part of the threads of all tickers. -/
def runAll (part : ThreadPart α) (now : Instant) (simulation : Simulation α) : Simulation α :=
  simulation.tickers.keys.foldl (fun reached place => runAt part now place reached) simulation

/-- Lets the threads run until the condition holds or the limit is reached. -/
def runUntil (limit : Instant) (enough : Simulation α → Bool) (now : Instant)
    (simulation : Simulation α) : Simulation α :=
  if enough simulation then { simulation with clock := now }
  else
    let resumed := simulation.runAll resume now
    if enough resumed then { resumed with clock := now }
    else
      let served := resumed.runAll startRound now
      if enough served then { served with clock := now }
      else if now < limit then
        match served.nextWake now with
        | none => { served with clock := limit }
        | some next =>
            runUntil limit enough (min limit (max next (now + roundTime))) served
      else { served with clock := now }
termination_by limit - now
decreasing_by
  have early : now < limit := by assumption
  have later : now < max next (now + roundTime) :=
    Nat.lt_of_lt_of_le (Nat.lt_add_of_pos_right (by decide)) (Nat.le_max_right _ _)
  have := Nat.lt_min.2 ⟨early, later⟩
  omega

/-- Lets some time pass. -/
def settle (duration : Duration) (simulation : Simulation α) : Simulation α :=
  simulation.runUntil (simulation.clock + duration) (fun _ => false) simulation.clock

/-- The time after which a wait is given up. -/
def patience : Duration := 5 * Duration.second

/-- Waits until a condition holds, up to a limit. -/
def waitFor (enough : Simulation α → Bool) (simulation : Simulation α) : Simulation α :=
  simulation.runUntil (simulation.clock + patience) enough simulation.clock

/-- Waits until a handler was called a number of times. -/
def awaitCalls (number count : Nat) (simulation : Simulation α) : Simulation α :=
  simulation.waitFor fun reached => count ≤ (reached.inbox number).length

/-- Waits until a number of timeouts fired. -/
def awaitFired (count : Nat) (simulation : Simulation α) : Simulation α :=
  simulation.waitFor fun reached => count ≤ reached.metrics.timeoutsFired

/-- Waits until a number of panics happened. -/
def awaitPanics (count : Nat) (simulation : Simulation α) : Simulation α :=
  simulation.waitFor fun reached => count ≤ reached.panics

end Simulation

end KeyedBatching
