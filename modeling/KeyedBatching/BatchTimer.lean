import KeyedBatching.Telemetry.Noted

/-!
# The batch timer

Windows are numbered by generations, and a window opens when the first request
after the last batch arrives. Its owner arms and advances the timer, a ticker
polls it, and each window is reported as expired at most once. The operations
are built from single accesses to the three shared fields, so that they can also
be taken apart and interleaved.  A window whose deadline the clock never reaches
does not open, and whoever asks for it gets no answer.
-/

namespace KeyedBatching

open Telemetry

/-- An open window: its generation, and the instant from which on it has expired. -/
structure Window where
  generation : Nat
  deadline : Instant
deriving DecidableEq

/-- A timer that reports each open window once its first request is old enough. -/
structure BatchTimer where
  /-- The age at which a window expires; zero switches the timer off. -/
  timeout : Duration
  /-- The generation in progress. -/
  current : Nat := 0
  /-- The window that is open. -/
  armed : Option Window := none
  /-- One more than the last generation reported as expired, or zero. -/
  reported : Nat := 0
deriving DecidableEq

namespace BatchTimer

/-- The timer ever arms. -/
def isEnabled (timer : BatchTimer) : Bool :=
  timer.timeout ≠ 0

/-- A window is open. -/
def isArmed (timer : BatchTimer) : Bool :=
  timer.armed.isSome

/-- The generation is the one in progress. -/
def isCurrent (timer : BatchTimer) (generation : Nat) : Bool :=
  timer.current = generation

/-! ## Single accesses -/

/-- Publishes a window, or none. -/
def store (window : Option Window) (timer : BatchTimer) : BatchTimer :=
  { timer with armed := window }

/-- Counts one more generation. -/
def increment (timer : BatchTimer) : BatchTimer :=
  { timer with current := timer.current + 1 }

/-- Raises the mark of reported generations, and gives the mark found before. -/
def raise (mark : Nat) (timer : BatchTimer) : Nat × BatchTimer :=
  (timer.reported, { timer with reported := max timer.reported mark })

/-- The window that a timer with the given timeout opens at an instant. -/
def openWindow (timeout : Duration) (generation : Nat) (now : Instant) : Noted Window := do
  let deadline ← Noted.later now timeout
  pure ⟨generation, deadline⟩

/-- A window read before still counts: its generation goes on and its deadline has come. -/
def hasExpired (window : Window) (current : Nat) (now : Instant) : Bool :=
  window.generation = current && window.deadline ≤ now

/-- The mark that stands for a reported window. -/
def markOf (window : Window) : Nat :=
  window.generation + 1

/-! ## Operations -/

/-- Opens a window for the generation in progress, unless one is open or the timer is off. -/
def armIfIdle (now : Instant) (timer : BatchTimer) : Noted (Bool × BatchTimer) :=
  if !timer.isEnabled || timer.isArmed then pure (false, timer)
  else do
    let window ← openWindow timer.timeout timer.current now
    pure (true, timer.store (some window))

/-- Closes the open window and starts the next generation. -/
def advance (timer : BatchTimer) : Nat × BatchTimer :=
  let next := (timer.store none).increment
  (next.current, next)

/-- Reports the open window if it has expired and was not reported before. -/
def pollExpired (now : Instant) (timer : BatchTimer) : Option Nat × BatchTimer :=
  match timer.armed with
  | none => (none, timer)
  | some window =>
      if hasExpired window timer.current now then
        let outcome := timer.raise (markOf window)
        (if markOf window ≤ outcome.1 then none else some window.generation, outcome.2)
      else (none, timer)

/-- Polling touches neither the open window nor the generation. -/
theorem pollExpired_frame (now : Instant) (timer : BatchTimer) :
    (timer.pollExpired now).2.armed = timer.armed ∧
      (timer.pollExpired now).2.current = timer.current ∧
      (timer.pollExpired now).2.timeout = timer.timeout := by
  unfold pollExpired
  split
  · simp
  · split <;> simp [raise]

end BatchTimer

end KeyedBatching
