import KeyedBatching.Proofs.TickerInterleaving
import Mathlib.Logic.Function.Basic

/-!
# A timer under any number of pollers

The owner of a timer opens windows and goes on to the next generation, while
pollers ask for expired windows.  A step here is a single access to one of the
three shared fields, and the steps of the owner and of the pollers come in any
order.  So a poller may hold a window for as long as the owner needs to pass
several generations, and two pollers may both find the same window expired.
The instants are those that the calls are given, and need not grow.

Undisturbed, the accesses of a call add up to the operation of the timer.
-/

namespace KeyedBatching

/-- Where the owner of a timer stands in a call. -/
inductive OwnerStage where
  | resting
  /-- The timer is on and had no window open. -/
  | unarmed (now : Instant)
  /-- The window to be opened has got its generation. -/
  | numbered (now : Instant) (generation : Nat)
  /-- The window is closed, and its generation still in progress. -/
  | cleared
deriving DecidableEq

/-- What is remembered of a run. -/
inductive TimerEvent (ι : Type) where
  | opened (window : Window)
  | advanced
  /-- A poller compared the window that it held with the generation in progress. -/
  | looked (poller : ι) (now : Instant)
  | reported (poller : ι) (now : Instant) (generation : Nat)
deriving DecidableEq

namespace TimerEvent

variable {ι : Type}

def poller? : TimerEvent ι → Option ι
  | looked poller _ => some poller
  | reported poller _ _ => some poller
  | _ => none

def report? : TimerEvent ι → Option Nat
  | reported _ _ generation => some generation
  | _ => none

def isAdvance : TimerEvent ι → Bool
  | advanced => true
  | _ => false

end TimerEvent

/-- A timer with the stages of its owner and of each of its pollers. -/
structure SharedTimer (ι : Type) where
  timer : BatchTimer
  owner : OwnerStage := .resting
  pollers : ι → TickerPhase := fun _ => .resting
  history : List (TimerEvent ι) := []

namespace SharedTimer

variable {ι : Type}

/-! ## Steps -/

def note (event : TimerEvent ι) (system : SharedTimer ι) : SharedTimer ι :=
  { system with history := system.history ++ [event] }

/-- The owner makes a window known. -/
def publish (window : Window) (system : SharedTimer ι) : SharedTimer ι :=
  { system with timer := system.timer.store (some window), owner := .resting }.note
    (.opened window)

/-- The accesses of the owner. -/
inductive OwnerStep : SharedTimer ι → SharedTimer ι → Prop
  | keep {system} (resting : system.owner = .resting)
      (idle : (!system.timer.isEnabled || system.timer.isArmed) = true) :
      OwnerStep system system
  | findUnarmed {system} (now : Instant) (resting : system.owner = .resting)
      (unarmed : (!system.timer.isEnabled || system.timer.isArmed) = false) :
      OwnerStep system { system with owner := .unarmed now }
  | number {system} {now : Instant} (unarmed : system.owner = .unarmed now) :
      OwnerStep system { system with owner := .numbered now system.timer.current }
  | openWindow {system} {now : Instant} {generation : Nat}
      (numbered : system.owner = .numbered now generation) :
      OwnerStep system (system.publish
        (BatchTimer.openWindow system.timer.timeout generation now).value)
  | clear {system} (resting : system.owner = .resting) :
      OwnerStep system { system with timer := system.timer.store none, owner := .cleared }
  | advance {system} (cleared : system.owner = .cleared) :
      OwnerStep system
        ({ system with timer := system.timer.increment, owner := .resting }.note .advanced)

variable [DecidableEq ι]

def withPoller (poller : ι) (phase : TickerPhase) (system : SharedTimer ι) : SharedTimer ι :=
  { system with pollers := Function.update system.pollers poller phase }

@[simp] theorem withPoller_self (poller : ι) (phase : TickerPhase) (system : SharedTimer ι) :
    (system.withPoller poller phase).pollers poller = phase :=
  Function.update_self ..

theorem withPoller_other {poller other : ι} (differs : other ≠ poller) (phase : TickerPhase)
    (system : SharedTimer ι) :
    (system.withPoller poller phase).pollers other = system.pollers other :=
  Function.update_of_ne differs ..

omit [DecidableEq ι] in
/-- Raises the mark of reported generations to that of a window. -/
def mark (window : Window) (system : SharedTimer ι) : SharedTimer ι :=
  { system with timer := (system.timer.raise (BatchTimer.markOf window)).2 }

/-- The accesses of a poller. -/
inductive PollStep (poller : ι) : SharedTimer ι → SharedTimer ι → Prop
  | findNothing {system} (resting : system.pollers poller = .resting)
      (closed : system.timer.armed = none) : PollStep poller system system
  | load {system} {window : Window} (now : Instant)
      (resting : system.pollers poller = .resting)
      (armed : system.timer.armed = some window) :
      PollStep poller system (system.withPoller poller (.loaded window now))
  | accept {system} {window : Window} {now : Instant}
      (loaded : system.pollers poller = .loaded window now)
      (expired : BatchTimer.hasExpired window system.timer.current now = true) :
      PollStep poller system
        ((system.withPoller poller (.expired window now)).note (.looked poller now))
  | dismiss {system} {window : Window} {now : Instant}
      (loaded : system.pollers poller = .loaded window now)
      (open_ : BatchTimer.hasExpired window system.timer.current now = false) :
      PollStep poller system
        ((system.withPoller poller .resting).note (.looked poller now))
  | report {system} {window : Window} {now : Instant}
      (expired : system.pollers poller = .expired window now)
      (first : ¬ BatchTimer.markOf window ≤ system.timer.reported) :
      PollStep poller system (((system.mark window).withPoller poller
        (.delivering window.generation)).note (.reported poller now window.generation))
  | skip {system} {window : Window} {now : Instant}
      (expired : system.pollers poller = .expired window now)
      (again : BatchTimer.markOf window ≤ system.timer.reported) :
      PollStep poller system ((system.mark window).withPoller poller .resting)
  | answer {system} {generation : Nat}
      (delivering : system.pollers poller = .delivering generation) :
      PollStep poller system (system.withPoller poller .resting)

/-- A step of the owner or of a poller. -/
inductive Step (system next : SharedTimer ι) : Prop
  | owner (step : OwnerStep system next)
  | poll (poller : ι) (step : PollStep poller system next)

/-- The states that a new timer reaches. -/
inductive Reachable (timeout : Duration) : SharedTimer ι → Prop
  | start : Reachable timeout { timer := { timeout } }
  | step {system next : SharedTimer ι} (reached : Reachable timeout system)
      (step : Step system next) : Reachable timeout next

/-! ## Histories -/

/-- The generations that were reported, in order. -/
def reportsOf (history : List (TimerEvent ι)) : List Nat :=
  history.filterMap TimerEvent.report?

/-- How often the owner has gone on to the next generation. -/
def advancesOf (history : List (TimerEvent ι)) : Nat :=
  history.countP TimerEvent.isAdvance

omit [DecidableEq ι] in
theorem reportsOf_concat (history : List (TimerEvent ι)) (event : TimerEvent ι) :
    reportsOf (history ++ [event]) = reportsOf history ++ event.report?.toList := by
  cases event <;> simp [reportsOf, TimerEvent.report?, List.filterMap_cons]

omit [DecidableEq ι] in
theorem advancesOf_concat (history : List (TimerEvent ι)) (event : TimerEvent ι) :
    advancesOf (history ++ [event]) = advancesOf history + event.isAdvance.toNat := by
  cases event <;> simp [advancesOf, TimerEvent.isAdvance]

/-! ## Undisturbed calls -/

variable {system : SharedTimer ι}

omit [DecidableEq ι] in
theorem arm_isOwnerRun (resting : system.owner = .resting) (now : Instant) :
    ∃ history, Relation.ReflTransGen OwnerStep system
      { system with timer := (system.timer.armIfIdle now).value.2, history } := by
  cases idle : !system.timer.isEnabled || system.timer.isArmed with
  | true =>
      rw [BatchTimer.armIfIdle, idle]
      exact ⟨system.history, .single (.keep resting idle)⟩
  | false =>
      let window := (BatchTimer.openWindow system.timer.timeout system.timer.current now).value
      have steps := ((Relation.ReflTransGen.single (OwnerStep.findUnarmed now resting idle)).tail
        (.number rfl)).tail (.openWindow rfl)
      rw [BatchTimer.armIfIdle, idle]
      refine ⟨system.history ++ [.opened window], ?_⟩
      simpa [publish, note, ← resting] using steps

omit [DecidableEq ι] in
theorem advance_isOwnerRun (resting : system.owner = .resting) :
    ∃ history, Relation.ReflTransGen OwnerStep system
      { system with timer := system.timer.advance.2, history } := by
  have steps := (Relation.ReflTransGen.single (OwnerStep.clear resting)).tail (.advance rfl)
  refine ⟨system.history ++ [.advanced], ?_⟩
  simpa [note, BatchTimer.advance, ← resting] using steps

/-- What an undisturbed poll answers is what it adds to the reports. -/
theorem poll_isPollRun {poller : ι} (resting : system.pollers poller = .resting)
    (now : Instant) :
    let outcome := system.timer.pollExpired now
    ∃ history, reportsOf history = reportsOf system.history ++ outcome.1.toList ∧
      Relation.ReflTransGen (PollStep poller) system
        { system with timer := outcome.2, history } := by
  intro outcome
  have rests : Function.update system.pollers poller .resting = system.pollers := by
    rw [← resting, Function.update_eq_self]
  cases armed : system.timer.armed with
  | none =>
      have silent : outcome = (none, system.timer) := by
        simp [outcome, BatchTimer.pollExpired, armed]
      rw [silent]
      exact ⟨system.history, (List.append_nil _).symm, .single (.findNothing resting armed)⟩
  | some window =>
      have loads := PollStep.load now resting armed
      cases expired : BatchTimer.hasExpired window system.timer.current now with
      | false =>
          have silent : outcome = (none, system.timer) := by
            simp [outcome, BatchTimer.pollExpired, armed, expired]
          have steps := Relation.ReflTransGen.tail (.single loads)
            (.dismiss (withPoller_self ..) expired)
          rw [silent]
          refine ⟨system.history ++ [.looked poller now], reportsOf_concat .., ?_⟩
          simpa [withPoller, note, rests] using steps
      | true =>
          let looked := (system.withPoller poller (.expired window now)).note (.looked poller now)
          have accepted : Relation.ReflTransGen (PollStep poller) system looked := by
            simpa [looked, withPoller] using
              Relation.ReflTransGen.tail (.single loads) (.accept (withPoller_self ..) expired)
          have holds : looked.pollers poller = .expired window now := withPoller_self ..
          by_cases again : BatchTimer.markOf window ≤ system.timer.reported
          · have silent : outcome = (none, (system.mark window).timer) := by
              simp [outcome, BatchTimer.pollExpired, armed, expired, BatchTimer.raise, mark, again]
            have steps := accepted.tail (.skip holds again)
            rw [silent]
            refine ⟨looked.history, reportsOf_concat .., ?_⟩
            simpa [looked, withPoller, mark, note, rests] using steps
          · have answers : outcome = (some window.generation, (system.mark window).timer) := by
              simp [outcome, BatchTimer.pollExpired, armed, expired, BatchTimer.raise, mark, again]
            have reported := accepted.tail (.report holds again)
            have steps := reported.tail (.answer (withPoller_self ..))
            rw [answers]
            refine ⟨looked.history ++ [.reported poller now window.generation], ?_, ?_⟩
            · rw [reportsOf_concat]
              exact congrArg (· ++ [window.generation])
                ((reportsOf_concat ..).trans (List.append_nil _))
            · simpa [looked, withPoller, mark, note, rests] using steps

end SharedTimer

end KeyedBatching
