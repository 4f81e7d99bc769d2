import KeyedBatching.Proofs.ControllerMoves

/-!
# Runs of a controller

The owner of a controller submits and completes, flushes, and acts on signals;
its ticker polls the timer and leaves signals, and no order among all these is
assumed.  A run performs a list of such operations and gathers the batches that
they return.
-/

namespace KeyedBatching

open Telemetry

/-! ## New controllers -/

namespace RequestBuffer

variable {K P : Type}

theorem unwatched_value_eq_ok {settings : BufferSettings} {buffer : RequestBuffer K P}
    (built : (unwatched settings).value = .ok buffer) : buffer = empty settings none := by
  unfold unwatched at built
  cases checked : settings.validate with
  | error fault => simp [checked] at built
  | ok _ =>
      simp only [checked, created, Noted.value_bind, Noted.value_pure] at built
      exact (Except.ok.inj built).symm

theorem watched_value_eq_ok {settings : BufferSettings} {place timer inbox : Nat}
    {handler : Handler} {now : Instant} {ticker : Ticker} {buffer : RequestBuffer K P}
    (built : (watched settings place timer inbox handler now ticker).value.1 = .ok buffer) :
    ∃ registration, buffer = empty settings registration := by
  unfold watched at built
  cases checked : settings.validate with
  | error fault => simp [checked] at built
  | ok _ =>
      simp only [checked] at built
      split at built
      · cases registered : (ticker.register timer inbox handler now settings.timeout
            settings.interval).value.1 with
        | error cause => simp [registered] at built
        | ok id =>
            simp only [Noted.value_bind, registered, created, Noted.value_pure] at built
            exact ⟨_, (Except.ok.inj built).symm⟩
      · simp only [created, Noted.value_bind, Noted.value_pure] at built
        exact ⟨none, (Except.ok.inj built).symm⟩

end RequestBuffer

namespace Controller

variable {K P : Type}

/-- A controller as its construction leaves it. -/
inductive IsNew : Controller K P → Prop
  | unwatched {controller : Controller K P} (settings : ControllerSettings)
      (built : (unwatched settings).value = .ok controller) : IsNew controller
  | watched {controller : Controller K P} (settings : ControllerSettings)
      (place timer inbox : Nat) (handler : Handler) (now : Instant) (ticker : Ticker)
      (built : (watched settings place timer inbox handler now ticker).value.1 =
        .ok controller) : IsNew controller

theorem map_around_eq_ok {settings : ControllerSettings}
    {outcome : Except BufferError (RequestBuffer K P)} {controller : Controller K P}
    (built : outcome.map (around settings) = .ok controller) :
    ∃ buffer, outcome = .ok buffer ∧ controller = around settings buffer := by
  cases outcome with
  | error fault => simp [Except.map] at built
  | ok buffer => exact ⟨buffer, rfl, (Except.ok.inj built).symm⟩

/-- A new controller holds nothing, and its batches have room for a request. -/
theorem IsNew.eq_around {controller : Controller K P} (new : controller.IsNew) :
    ∃ settings registration, 0 < settings.batchSize ∧
      controller = around settings (RequestBuffer.empty settings.buffer registration) := by
  cases new with
  | unwatched settings built =>
      by_cases zero : settings.batchSize = 0
      · simp [Controller.unwatched, checkSettings, zero] at built
      · simp only [Controller.unwatched, checkSettings, zero, if_false, Noted.value_bind,
          Noted.value_pure] at built
        obtain ⟨buffer, outcome, rfl⟩ := map_around_eq_ok built
        rw [RequestBuffer.unwatched_value_eq_ok outcome]
        exact ⟨settings, none, Nat.pos_of_ne_zero zero, rfl⟩
  | watched settings place timer inbox handler now ticker built =>
      by_cases zero : settings.batchSize = 0
      · simp [Controller.watched, checkSettings, zero] at built
      · simp only [Controller.watched, checkSettings, zero, if_false, Noted.value_bind,
          Noted.value_pure] at built
        obtain ⟨buffer, outcome, rfl⟩ := map_around_eq_ok built
        obtain ⟨registration, rfl⟩ := RequestBuffer.watched_value_eq_ok outcome
        exact ⟨settings, registration, Nat.pos_of_ne_zero zero, rfl⟩

end Controller

/-! ## Operations and runs -/

/-- What can happen to a controller: a call of its owner, or a step of its ticker, which polls
the timer and leaves signals.  A signal may stand for any generation. -/
inductive Operation (K P : Type) where
  | submit (now : Instant) (request : Request K P)
  | complete (now : Instant) (key : K)
  | flush
  | onTimeout (generation : Nat)
  | processTimeouts
  | poll (now : Instant)
  | signal (generation : Nat)
deriving DecidableEq

namespace Operation

variable {K P : Type}

def submitted? : Operation K P → Option (Request K P)
  | submit _ request => some request
  | _ => none

/-- The requests that some operations submit, in order. -/
def submitted (operations : List (Operation K P)) : List (Request K P) :=
  operations.filterMap submitted?

end Operation

namespace Controller

variable {K P : Type}

def single (outcome : Noted (Option (Batch (Request K P)) × Controller K P)) :
    Noted (List (Batch (Request K P)) × Controller K P) := do
  let (batch, controller) ← outcome
  pure (batch.toList, controller)

variable [DecidableEq K]

/-- Performs one operation and gives the batches that it returns. -/
def perform (controller : Controller K P) :
    Operation K P → Noted (List (Batch (Request K P)) × Controller K P)
  | .submit now request => single (controller.submit now request)
  | .complete now key => single (controller.complete now key)
  | .flush => single controller.flush
  | .onTimeout generation => single (controller.onTimeout generation)
  | .processTimeouts => controller.processTimeouts
  | .poll now => pure ([], controller.mapTimer fun timer => (timer.pollExpired now).2)
  | .signal generation => pure ([], controller.signal generation)

theorem perform_flush (controller : Controller K P) :
    (controller.perform .flush).value =
      (controller.handOut.1.toList, controller.handOut.2) := by
  rw [← flush_value]
  rfl

/-- Performs some operations in order and gives the batches that they return. -/
def run (controller : Controller K P) :
    List (Operation K P) → Noted (List (Batch (Request K P)) × Controller K P)
  | [] => pure ([], controller)
  | operation :: later => do
      let (batches, controller) ← controller.perform operation
      let (more, controller) ← controller.run later
      pure (batches ++ more, controller)

/-- What every operation preserves, every run preserves. -/
theorem run_preserves
    {holds : List (Operation K P) → List (Batch (Request K P)) → Controller K P → Prop}
    (step : ∀ {done batches controller}, holds done batches controller → ∀ operation,
      holds (done ++ [operation]) (batches ++ (controller.perform operation).value.1)
        (controller.perform operation).value.2)
    {done : List (Operation K P)} {batches : List (Batch (Request K P))}
    {controller : Controller K P} (start : holds done batches controller)
    (operations : List (Operation K P)) :
    holds (done ++ operations) (batches ++ (controller.run operations).value.1)
      (controller.run operations).value.2 := by
  induction operations generalizing done batches controller with
  | nil => simpa [run] using start
  | cons operation later ih =>
      have next := ih (step start operation)
      simpa [run] using next

omit [DecidableEq K] in
/-- What every signal preserves, acting on some signals preserves. -/
theorem actOn_preserves {holds : List (Batch (Request K P)) → Controller K P → Prop}
    (step : ∀ {batches controller}, holds batches controller → ∀ generation,
      holds (batches ++ (controller.onTimeout generation).value.1.toList)
        (controller.onTimeout generation).value.2)
    {batches : List (Batch (Request K P))} {controller : Controller K P}
    (start : holds batches controller) (signals : List Nat) :
    holds (batches ++ (controller.actOn signals).value.1)
      (controller.actOn signals).value.2 := by
  induction signals generalizing batches controller with
  | nil => simpa [actOn] using start
  | cons generation later ih =>
      have next := ih (step start generation)
      simpa [actOn] using next

end Controller

end KeyedBatching
