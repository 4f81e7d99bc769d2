import KeyedBatching.Proofs.ClosingInterleaving
import KeyedBatching.Proofs.TickerMoves
import KeyedBatching.Simulation.Basic

/-!
# The ticker's thread in a simulation

A simulation lets the thread of a ticker run up to a handler that takes time.
All that it does is a run of the system of the ticker and its buffers: the
thread takes the lock of each registration, passes a silenced one over, polls,
calls a handler, and drops the lock.  So what no reachable state of the system
does, no simulation does either.
-/

namespace KeyedBatching

namespace WatchedBuffers

variable {K P : Type}

/-- The system with the buffers of a simulation and with one of its tickers. -/
def showing (ticker : Ticker) (simulation : Simulation (RequestBuffer K P))
    (system : WatchedBuffers K P) : WatchedBuffers K P :=
  { system with ticker, check := underway ticker.activity, buffers := simulation.members.get? }

/-- What a simulation does with one of its tickers is a run of the system. -/
def Follows (ticker : Ticker) (simulation : Simulation (RequestBuffer K P))
    (result : Ticker × Simulation (RequestBuffer K P)) : Prop :=
  ∀ system : WatchedBuffers K P, ∃ events,
    Relation.ReflTransGen Step (system.showing ticker simulation)
      ({ system with history := system.history ++ events }.showing result.1 result.2)

theorem get?_put_eq_update (members : KeyTable Nat (RequestBuffer K P)) (number : Nat)
    (buffer : RequestBuffer K P) :
    (members.put number buffer).get? = Function.update members.get? number (some buffer) := by
  funext other
  rw [KeyTable.get?_put, Function.update_apply]

theorem poll_showing (registration : Registration) (now : Instant) (ticker : Ticker)
    (simulation : Simulation (RequestBuffer K P)) (system : WatchedBuffers K P) :
    (system.showing ticker simulation).poll registration now =
      { system.showing ticker (simulation.poll registration now).2 with
        check := (simulation.poll registration now).1.map fun generation =>
          ⟨registration, .expired generation⟩ } := by
  have found : (system.showing ticker simulation).buffers registration.timer =
    simulation.member? registration.timer := rfl
  rw [poll, Simulation.poll, found]
  cases simulation.member? registration.timer with
  | none => rfl
  | some buffer =>
      simp only [withBuffer, showing, Simulation.putMember, get?_put_eq_update]
      rfl

/-- A handler that leaves a generation behind changes no buffer. -/
theorem deliver_members (registration : Registration) (generation : Nat)
    (simulation : Simulation (RequestBuffer K P)) :
    (simulation.deliver registration generation).members.get? = simulation.members.get? := by
  unfold Simulation.deliver
  cases found : simulation.member? registration.timer with
  | none =>
      have absent : simulation.members.get? registration.timer = none := found
      simp [Simulation.member?, absent]
  | some buffer =>
      have present : simulation.members.get? registration.timer = some buffer := found
      simp [Simulation.member?, present, Simulation.putMember, get?_put_eq_update, Timed.signal]

namespace Follows

variable {ticker : Ticker} {simulation : Simulation (RequestBuffer K P)}
  {middle result : Ticker × Simulation (RequestBuffer K P)}

theorem trans (first : Follows ticker simulation middle)
    (second : Follows middle.1 middle.2 result) : Follows ticker simulation result := by
  intro system
  obtain ⟨events, run⟩ := first system
  obtain ⟨more, later⟩ := second { system with history := system.history ++ events }
  refine ⟨events ++ more, ?_⟩
  rw [← List.append_assoc]
  exact run.trans later

theorem silent (run : ∀ system : WatchedBuffers K P,
    Relation.ReflTransGen Step (system.showing ticker simulation)
      (system.showing result.1 result.2)) : Follows ticker simulation result := by
  intro system
  refine ⟨[], ?_⟩
  rw [List.append_nil]
  exact run system

theorem refl (ticker : Ticker) (simulation : Simulation (RequestBuffer K P)) :
    Follows ticker simulation (ticker, simulation) :=
  silent fun _ => .refl

variable {registration : Registration} {later : List Registration}

/-- The thread takes the lock of the next registration. -/
theorem locks (registration : Registration) (later : List Registration) (ticker : Ticker)
    (simulation : Simulation (RequestBuffer K P)) (system : WatchedBuffers K P) :
    Step
      (system.showing { ticker with activity := .serving (registration :: later) } simulation)
      { system.showing { ticker with activity := .serving later } simulation with
        check := some ⟨registration, .locked⟩ } :=
  .thread (.lock rfl rfl)

theorem skip (silenced : registration.id ∈ ticker.cancelled) :
    Follows { ticker with activity := .serving (registration :: later) } simulation
      ({ ticker with activity := .serving later }, simulation) := by
  apply silent
  intro system
  have skips : Step
      { system.showing { ticker with activity := .serving later } simulation with
        check := some ⟨registration, .locked⟩ }
      (system.showing { ticker with activity := .serving later } simulation) :=
    .thread (.skip rfl silenced)
  exact .tail (.single (locks registration later ticker simulation system)) skips

/-- The thread polls the timer of a registration that is not silenced. -/
theorem polls (live : registration.id ∉ ticker.cancelled) {now : Instant} {answer : Option Nat}
    {polled : Simulation (RequestBuffer K P)}
    (outcome : simulation.poll registration now = (answer, polled)) (later : List Registration)
    (system : WatchedBuffers K P) :
    Relation.ReflTransGen Step
      (system.showing { ticker with activity := .serving (registration :: later) } simulation)
      { system.showing { ticker with activity := .serving later } polled with
        check := answer.map fun generation => ⟨registration, .expired generation⟩ } := by
  let serving := system.showing { ticker with activity := .serving later } simulation
  have allows : Step { serving with check := some ⟨registration, .locked⟩ }
      { serving with check := some ⟨registration, .admitted⟩ } :=
    .thread (.allow rfl live)
  have looks : Step { serving with check := some ⟨registration, .admitted⟩ }
      (serving.poll registration now) :=
    .thread (.poll now rfl)
  rw [poll_showing, outcome] at looks
  exact .tail (.tail (.single (locks registration later ticker simulation system)) allows) looks

theorem pass (live : registration.id ∉ ticker.cancelled) {now : Instant}
    {polled : Simulation (RequestBuffer K P)}
    (quiet : simulation.poll registration now = (none, polled)) :
    Follows { ticker with activity := .serving (registration :: later) } simulation
      ({ ticker with activity := .serving later }, polled) :=
  silent (polls live quiet later)

theorem call (live : registration.id ∉ ticker.cancelled) {now : Instant} {generation : Nat}
    {polled : Simulation (RequestBuffer K P)}
    (expired : simulation.poll registration now = (some generation, polled)) (ends : Instant) :
    Follows { ticker with activity := .serving (registration :: later) } simulation
      ((ticker.beginHandling registration generation ends later).value, polled) := by
  intro system
  refine ⟨[.called registration.timer generation], ?_⟩
  exact .tail (polls live expired later system) (.thread (.call ends rfl rfl))

/-- A handler stops the ticker that calls it, or another one. -/
theorem stop (place : Nat) {generation : Nat} {ends : Instant}
    (handling : ticker.activity = .handling registration generation ends later) :
    Follows ticker simulation (simulation.stopOwnFromHandler place ticker) := by
  apply silent
  intro system
  unfold Simulation.stopOwnFromHandler
  split
  · split
    · exact .single (.caller .requestStop)
    · have running : (system.showing ticker simulation).IsRunning registration.timer :=
        ⟨registration, generation, ends, later, handling, rfl⟩
      exact .single (.caller (.stopFromHandler running))
  · split <;> exact .refl

theorem leave {generation : Nat} {ends : Instant}
    (handling : ticker.activity = .handling registration generation ends later) :
    Follows ticker simulation
      (simulation.endHandling registration generation later ticker) := by
  apply silent
  intro system
  let panicked := registration.handler.panics
  let handled := (ticker.finishHandling registration generation panicked later).value
  let left : WatchedBuffers K P :=
    { system.showing ticker simulation with
      ticker := handled, check := some ⟨registration, .leaving⟩ }
  have leaves : Step (system.showing ticker simulation) left := .thread (.leave panicked handling)
  have unlocks : Step left { left with check := none } := .thread (.unlock rfl)
  have rests : underway handled.activity = none := by
    simp [handled, Ticker.finishHandling_value, underway]
  have shown : { left with check := none } = system.showing handled
      (simulation.endHandling registration generation later ticker).2 := by
    have kept : (simulation.endHandling registration generation later ticker).2.members.get? =
        simulation.members.get? := deliver_members registration generation simulation
    simp only [showing, rests, kept, left]
  rw [shown] at unlocks
  exact .tail (.single leaves) unlocks

/-- After a handler the thread serves what it had collected besides. -/
theorem leaveThen {generation : Nat} {ends : Instant}
    (handling : ticker.activity = .handling registration generation ends later)
    (next : let left := simulation.endHandling registration generation later ticker
      Follows { left.1 with activity := .serving later } left.2 result) :
    Follows ticker simulation result := by
  have serving : (simulation.endHandling registration generation later ticker).1.activity =
      .serving later := by
    simp [Simulation.endHandling, Simulation.perform, Ticker.finishHandling_value]
  simp only [← serving] at next
  exact (leave handling).trans next

/-- The thread calls a handler, which may stop a ticker. -/
theorem callHandler (place : Nat) (live : registration.id ∉ ticker.cancelled) {now : Instant}
    {generation : Nat} {polled : Simulation (RequestBuffer K P)}
    (expired : simulation.poll registration now = (some generation, polled)) (ends : Instant) :
    let called := polled.callHandler place registration generation ends later ticker
    called.1.activity = .handling registration generation ends later ∧
      Follows { ticker with activity := .serving (registration :: later) } simulation called := by
  let handling := (ticker.beginHandling registration generation ends later).value
  let begun := (polled.perform .ticker
    (ticker.beginHandling registration generation ends later)).2
  have calls : Follows { ticker with activity := .serving (registration :: later) } simulation
      (handling, begun) :=
    call live expired ends
  intro called
  by_cases stops : registration.handler.stopsTicker = true
  · have result : called = begun.stopOwnFromHandler place handling := if_pos stops
    rw [result]
    refine ⟨?_, calls.trans (stop place rfl)⟩
    unfold Simulation.stopOwnFromHandler
    split
    · split <;> rfl
    · split <;> rfl
  · have result : called = (handling, begun) := if_neg stops
    rw [result]
    exact ⟨rfl, calls⟩

/-- The thread serves what it has collected, up to a handler that takes time. -/
theorem serve (place : Nat) (now : Instant) (collected : List Registration) (ticker : Ticker)
    (simulation : Simulation (RequestBuffer K P)) :
    Follows { ticker with activity := .serving collected } simulation
      (Simulation.serve place now collected ticker simulation) := by
  induction collected generalizing ticker simulation with
  | nil => exact refl _ _
  | cons registration later ih =>
      rw [Simulation.serve]
      split
      next silenced => exact (skip silenced).trans (ih ticker simulation)
      next live =>
        rcases outcome : simulation.poll registration now with ⟨generation?, polled⟩
        cases generation? with
        | none =>
            exact (pass live outcome).trans (ih ticker polled)
        | some generation =>
            let ends := now + polled.handlerTime place registration now
            let called := polled.callHandler place registration generation ends later ticker
            have calls : called.1.activity = .handling registration generation ends later ∧
                Follows { ticker with activity := .serving (registration :: later) } simulation
                  called :=
              callHandler place live outcome ends
            dsimp only
            split
            · exact calls.2.trans (leaveThen calls.1 (ih _ _))
            · exact calls.2

/-- The thread goes on with what it has begun. -/
theorem resume (place : Nat) (now : Instant) (ticker : Ticker)
    (simulation : Simulation (RequestBuffer K P)) :
    Follows ticker simulation (Simulation.resume place now ticker simulation) := by
  unfold Simulation.resume
  split
  next collected serving =>
    have served := serve place now collected ticker simulation
    rw [← serving] at served
    exact served
  next registration generation ends collected handling =>
    split
    · exact leaveThen handling (serve place now collected _ _)
    · exact refl ticker simulation
  · exact refl ticker simulation
  · exact refl ticker simulation

/-- Between two rounds the thread starts the next one. -/
theorem startRound (place : Nat) (now : Instant) (ticker : Ticker)
    (simulation : Simulation (RequestBuffer K P)) :
    Follows ticker simulation (Simulation.startRound place now ticker simulation) := by
  unfold Simulation.startRound
  split
  next serving =>
    let died := if (ticker.beginRound now).hasEnded && !(ticker.beginRound now).stopRequested
      then 1 else 0
    let counted := { simulation with panics := simulation.panics + died }
    have began : Follows ticker simulation (ticker.beginRound now, counted) := by
      apply silent
      intro system
      have rests : underway ticker.activity = none := by
        rw [serving]
        rfl
      have begins : Step (system.showing ticker simulation)
          { system.showing ticker simulation with ticker := ticker.beginRound now } :=
        .thread (.beginRound now rests serving)
      have shown : { system.showing ticker simulation with ticker := ticker.beginRound now } =
          system.showing (ticker.beginRound now) counted := by
        simp only [showing, rests, underway_beginRound, counted]
      rw [shown] at begins
      exact .single begins
    exact began.trans (resume place now (ticker.beginRound now) counted)
  · exact refl ticker simulation

/-- From a reachable state the thread of a simulation gets to a reachable state. -/
theorem reachable (follows : Follows ticker simulation result) {system : WatchedBuffers K P}
    (reached : Reachable (system.showing ticker simulation)) :
    ∃ events, Reachable
      ({ system with history := system.history ++ events }.showing result.1 result.2) := by
  obtain ⟨events, run⟩ := follows system
  exact ⟨events, reached.run run⟩

end Follows

end WatchedBuffers

end KeyedBatching
