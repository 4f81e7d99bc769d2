import KeyedBatching.Proofs.ControllerRuns
import KeyedBatching.Proofs.WaitingRoomContents

/-!
# What a controller publishes

A controller publishes the depths of its queues whenever a request is parked or
admitted and whenever a batch leaves.  All other calls say nothing, and after these
the queues are as they were.  Every batch that leaves is counted once, for the
signal or for the call that made it leave, and every count starts a generation, so
that the metrics and the controller never disagree between two operations.
-/

namespace KeyedBatching

open Telemetry

namespace Telemetry.Metrics

@[simp] theorem absorb_nil (metrics : Metrics) : metrics.absorb [] = metrics :=
  rfl

@[simp] theorem absorb_log (metrics : Metrics) (event : LogEvent) (later : List Notice) :
    metrics.absorb (.log event :: later) = metrics.absorb later :=
  rfl

@[simp] theorem absorb_measure (metrics : Metrics) (measurement : Measurement)
    (later : List Notice) :
    metrics.absorb (.measure measurement :: later) =
      (metrics.record measurement).absorb later :=
  rfl

end Telemetry.Metrics

variable {K P : Type}

/-- Events alone leave the metrics as they are. -/
theorem RequestBuffer.absorb_enqueueActive (metrics : Metrics) (now : Instant)
    (request : Request K P) (buffer : RequestBuffer K P) :
    metrics.absorb (buffer.enqueueActive now request).notices = metrics := by
  cases armed : (buffer.timer.armIfIdle now).value.1 <;>
    simp [enqueueActive, armed, BatchTimer.notices_armIfIdle]

namespace Operation

/-- The operation acts on signals of the ticker. -/
def actsOnSignals : Operation K P → Bool
  | .onTimeout _ | .processTimeouts => true
  | _ => false

end Operation

namespace Controller

def depths (controller : Controller K P) : QueueDepths :=
  ⟨controller.buffer.active.size, controller.buffer.waiting.size,
    controller.buffer.waiting.keyCount⟩

/-- A batch that has left, and whether a signal made it leave. -/
abbrev Flush (K P : Type) := Bool × Batch (Request K P)

def flushesOf (bySignal : Bool) (batches : List (Batch (Request K P))) : List (Flush K P) :=
  batches.map fun batch => (bySignal, batch)

/-- Every batch that has left was counted, and starts a generation. -/
structure Counts (flushes : List (Flush K P)) (metrics : Metrics) (controller : Controller K P) :
    Prop where
  batchSizes : metrics.batchSizes = flushes.map fun flush => flush.2.size
  flushedByTimeout : metrics.flushedByTimeout = flushes.countP fun flush => flush.1
  flushedBySize : metrics.flushedBySize = flushes.countP fun flush => !flush.1
  generation : flushes.length = controller.buffer.timer.current
  roomSound : controller.buffer.waiting.IsSound
  batchSize_pos : 0 < controller.batchSize

/-- The depths that were published last are those of the queues, which are empty if none were
published. -/
structure Publishes (flushes : List (Flush K P)) (metrics : Metrics)
    (controller : Controller K P) : Prop extends Counts flushes metrics controller where
  depths : metrics.depths.getD ⟨0, 0, 0⟩ = controller.depths

variable {controller next : Controller K P} {flushes : List (Flush K P)} {metrics : Metrics}

theorem Counts.congr (counts : Counts flushes metrics controller)
    (current : next.buffer.timer.current = controller.buffer.timer.current)
    (roomSound : next.buffer.waiting.IsSound) (batchSize : next.batchSize = controller.batchSize) :
    Counts flushes metrics next :=
  { counts with
    generation := counts.generation.trans current.symm
    roomSound
    batchSize_pos := batchSize ▸ counts.batchSize_pos }

/-- A silent operation keeps the queues. -/
theorem Publishes.congr (publishes : Publishes flushes metrics controller)
    (active : next.buffer.active = controller.buffer.active)
    (waiting : next.buffer.waiting = controller.buffer.waiting)
    (current : next.buffer.timer.current = controller.buffer.timer.current)
    (batchSize : next.batchSize = controller.batchSize) : Publishes flushes metrics next := by
  refine ⟨publishes.toCounts.congr current (waiting ▸ publishes.roomSound) batchSize, ?_⟩
  rw [publishes.depths, Controller.depths, Controller.depths, active, waiting]

theorem Counts.publishDepths (counts : Counts flushes metrics controller) :
    Publishes flushes (metrics.absorb controller.publishDepths.notices) controller :=
  ⟨⟨counts.batchSizes, counts.flushedByTimeout, counts.flushedBySize, counts.generation,
    counts.roomSound, counts.batchSize_pos⟩, rfl⟩

/-! ## Batches -/

/-- Without a batch nothing is said and nothing changes; a batch is counted, and then the depths
are published. -/
theorem flushBatch_cases (byTimeout : Bool) (controller : Controller K P) :
    (controller.nextBatch? = none ∧ controller.flushBatch byTimeout = pure (none, controller)) ∨
      ∃ batch, controller.nextBatch? = some batch ∧
        (controller.flushBatch byTimeout).value =
          (some batch, controller.dropBatch.mapTimer fun timer => timer.advance.2) ∧
        ∀ metrics : Metrics,
          metrics.absorb (controller.flushBatch byTimeout).notices =
            (metrics.record (.batchFlushed batch.size byTimeout)).absorb
              (controller.flushBatch byTimeout).value.2.publishDepths.notices := by
  rcases handOut_cases controller with ⟨nothing, _⟩ | ⟨batch, leaves, result⟩
  · exact .inl ⟨nothing, flushBatch_nothing nothing byTimeout⟩
  · refine .inr ⟨batch, leaves, (flushBatch_value byTimeout controller).trans result, ?_⟩
    intro metrics
    rw [flushBatch_something leaves]
    rfl

/-- A batch that leaves is counted for what made it leave. -/
theorem Counts.flush (counts : Counts flushes metrics controller) (byTimeout : Bool)
    (batch : Batch (Request K P)) :
    Counts (flushes ++ [(byTimeout, batch)])
      (metrics.record (.batchFlushed batch.size byTimeout))
      (controller.dropBatch.mapTimer fun timer => timer.advance.2) := by
  have generation : (flushes ++ [(byTimeout, batch)]).length =
      controller.buffer.timer.current + 1 := by
    rw [List.length_append, counts.generation]
    rfl
  refine ⟨?_, ?_, ?_, generation, counts.roomSound, counts.batchSize_pos⟩
  · cases byTimeout <;> simp [Metrics.record, counts.batchSizes]
  · cases byTimeout <;> simp [Metrics.record, counts.flushedByTimeout, List.countP_append]
  · cases byTimeout <;> simp [Metrics.record, counts.flushedBySize, List.countP_append]

theorem Publishes.flushBatch (publishes : Publishes flushes metrics controller)
    (byTimeout : Bool) :
    let outcome := controller.flushBatch byTimeout
    Publishes (flushes ++ flushesOf byTimeout outcome.value.1.toList)
      (metrics.absorb outcome.notices) outcome.value.2 := by
  intro outcome
  rcases flushBatch_cases byTimeout controller with ⟨_, silent⟩ | ⟨batch, _, leaves, measures⟩
  · rw [show outcome = _ from silent]
    simpa [flushesOf] using publishes
  · rw [show metrics.absorb outcome.notices = _ from measures metrics,
      show outcome.value = _ from leaves]
    exact (publishes.toCounts.flush byTimeout batch).publishDepths

/-- Once a request was admitted the depths are published, with or without a batch. -/
theorem Counts.flushIfFull (counts : Counts flushes metrics controller)
    (something : controller.buffer.active.items ≠ []) :
    let outcome := controller.flushIfFull
    Publishes (flushes ++ flushesOf false outcome.value.1.toList)
      (metrics.absorb outcome.notices) outcome.value.2 := by
  intro outcome
  by_cases full : controller.batchSize ≤ controller.buffer.active.size
  · have flushed : outcome = controller.flushBatch false := if_pos full
    rcases flushBatch_cases false controller with ⟨nothing, _⟩ | ⟨batch, _, leaves, measures⟩
    · -- A full queue is not empty, and a batch has room for a request.
      have taken := nextBatch?_eq_none_iff.mp nothing
      rw [List.take_eq_nil_iff] at taken
      exact absurd taken (not_or_intro (Nat.ne_of_gt counts.batchSize_pos) something)
    · rw [flushed, measures metrics, leaves]
      exact (counts.flush false batch).publishDepths
  · have waits : outcome = (do controller.publishDepths; pure (none, controller)) := if_neg full
    rw [waits]
    simpa [flushesOf] using counts.publishDepths

theorem Counts.enqueue (counts : Counts flushes metrics controller) (now : Instant)
    (request : Request K P) :
    let outcome := controller.enqueue now request
    Publishes (flushes ++ flushesOf false outcome.value.1.toList)
      (metrics.absorb outcome.notices) outcome.value.2 := by
  intro outcome
  let admitted : Controller K P :=
    { controller with buffer := (controller.buffer.enqueueActive now request).value }
  have opened : admitted = controller.accept now request := by
    rw [accept, openWindow, join, mapTimer, withActive]
    simp only [admitted, RequestBuffer.enqueueActive_value]
    rfl
  have measured : metrics.absorb outcome.notices =
      metrics.absorb admitted.flushIfFull.notices := by
    have parts : outcome.notices =
        (controller.buffer.enqueueActive now request).notices ++ admitted.flushIfFull.notices :=
      rfl
    rw [parts, Metrics.absorb_append, RequestBuffer.absorb_enqueueActive]
  have counted : Counts flushes metrics admitted := by
    rw [opened]
    apply counts.congr
    · exact (BatchTimer.armIfIdle_frame now controller.buffer.timer).1
    · exact counts.roomSound
    · rfl
  have something : admitted.buffer.active.items ≠ [] := by
    rw [opened, accept_items]
    exact List.append_ne_nil_of_right_ne_nil _ (List.cons_ne_nil _ _)
  rw [measured]
  exact counted.flushIfFull something

/-! ## Operations -/

theorem Publishes.onTimeout (publishes : Publishes flushes metrics controller)
    (generation : Nat) :
    let outcome := controller.onTimeout generation
    Publishes (flushes ++ flushesOf true outcome.value.1.toList)
      (metrics.absorb outcome.notices) outcome.value.2 := by
  intro outcome
  cases current : controller.buffer.timer.isCurrent generation with
  | true =>
      have flushed : outcome = controller.flushBatch true := if_pos current
      rw [flushed]
      exact publishes.flushBatch true
  | false =>
      have stale : outcome = (do Noted.log (.staleTimeout generation); pure (none, controller)) :=
        if_neg (by simp [current])
      rw [stale]
      simpa [flushesOf] using publishes

theorem Publishes.actOn (publishes : Publishes flushes metrics controller)
    (signals : List Nat) :
    let outcome := controller.actOn signals
    Publishes (flushes ++ flushesOf true outcome.value.1)
      (metrics.absorb outcome.notices) outcome.value.2 := by
  induction signals generalizing controller flushes metrics with
  | nil => simpa [Controller.actOn, flushesOf] using publishes
  | cons generation later ih =>
      have others := ih (publishes.onTimeout generation)
      simpa [Controller.actOn, flushesOf, Metrics.absorb_append] using others

variable [DecidableEq K]

theorem Publishes.submit (publishes : Publishes flushes metrics controller) (now : Instant)
    (request : Request K P) :
    let outcome := controller.submit now request
    Publishes (flushes ++ flushesOf false outcome.value.1.toList)
      (metrics.absorb outcome.notices) outcome.value.2 := by
  intro outcome
  cases busy : controller.isInFlight request.key with
  | true =>
      let parked := controller.withWaiting (controller.buffer.waiting.enqueue request)
      have parks : outcome = (do parked.publishDepths; pure (none, parked)) := if_pos busy
      have counted : Counts flushes metrics parked :=
        publishes.toCounts.congr rfl
          (WaitingRoom.isSound_enqueue publishes.roomSound request) rfl
      rw [parks]
      simpa [flushesOf] using counted.publishDepths
  | false =>
      have admits : outcome = (controller.occupy request.key).enqueue now request :=
        if_neg (by simp [busy])
      have counted : Counts flushes metrics (controller.occupy request.key) :=
        publishes.toCounts.congr rfl publishes.roomSound rfl
      rw [admits]
      exact counted.enqueue now request

theorem Publishes.complete (publishes : Publishes flushes metrics controller) (now : Instant)
    (key : K) :
    let outcome := controller.complete now key
    Publishes (flushes ++ flushesOf false outcome.value.1.toList)
      (metrics.absorb outcome.notices) outcome.value.2 := by
  intro outcome
  rcases WaitingRoom.unblockOne_cases publishes.roomSound key with
    ⟨idle, _⟩ | ⟨waiter, rest, taken, _, _, sound⟩
  · have frees : outcome = pure (none, controller.release key) := by
      simp only [outcome, Controller.complete, RequestBuffer.unblockOne, idle]
      rfl
    have released : Publishes flushes metrics (controller.release key) :=
      publishes.congr rfl rfl rfl rfl
    rw [frees]
    simpa [flushesOf] using released
  · have promotes : outcome = (do
        Noted.log (.requestPromoted waiter.priority)
        (controller.withWaiting rest).enqueue now waiter) := by
      simp only [outcome, Controller.complete, RequestBuffer.unblockOne, taken]
      rfl
    have counted : Counts flushes metrics (controller.withWaiting rest) :=
      publishes.toCounts.congr rfl sound rfl
    rw [promotes]
    exact counted.enqueue now waiter

/-- After every operation the metrics agree with the controller again. -/
theorem Publishes.perform (publishes : Publishes flushes metrics controller)
    (operation : Operation K P) :
    let outcome := controller.perform operation
    Publishes (flushes ++ flushesOf operation.actsOnSignals outcome.value.1)
      (metrics.absorb outcome.notices) outcome.value.2 := by
  cases operation with
  | submit now request =>
      simpa [Controller.perform, single, Operation.actsOnSignals] using
        publishes.submit now request
  | complete now key =>
      simpa [Controller.perform, single, Operation.actsOnSignals] using
        publishes.complete now key
  | flush =>
      simpa [Controller.perform, single, Operation.actsOnSignals, flush] using
        publishes.flushBatch false
  | onTimeout generation =>
      simpa [Controller.perform, single, Operation.actsOnSignals] using
        publishes.onTimeout generation
  | processTimeouts =>
      have taken : Publishes flushes metrics { controller with signals := [] } :=
        publishes.congr rfl rfl rfl rfl
      exact taken.actOn controller.signals
  | poll now =>
      have polled : Publishes flushes metrics
          (controller.mapTimer fun timer => (timer.pollExpired now).2) :=
        publishes.congr rfl rfl (BatchTimer.pollExpired_frame now controller.buffer.timer).2.1 rfl
      simpa [Controller.perform, flushesOf] using polled
  | signal generation =>
      have signalled : Publishes flushes metrics (controller.signal generation) :=
        publishes.congr rfl rfl rfl rfl
      simpa [Controller.perform, flushesOf] using signalled

/-! ## Runs -/

/-- The batches that a run returns, each with whether an operation on signals returned it. -/
def flushesIn : Controller K P → List (Operation K P) → List (Flush K P)
  | _, [] => []
  | controller, operation :: later =>
      let outcome := (controller.perform operation).value
      flushesOf operation.actsOnSignals outcome.1 ++ outcome.2.flushesIn later

theorem flushesIn_batches (controller : Controller K P) (operations : List (Operation K P)) :
    (controller.flushesIn operations).map Prod.snd = (controller.run operations).value.1 := by
  induction operations generalizing controller with
  | nil => rfl
  | cons operation later ih => simp [flushesIn, run, flushesOf, ih, Function.comp_def]

theorem Publishes.run (publishes : Publishes flushes metrics controller)
    (operations : List (Operation K P)) :
    let outcome := controller.run operations
    Publishes (flushes ++ controller.flushesIn operations)
      (metrics.absorb outcome.notices) outcome.value.2 := by
  induction operations generalizing controller flushes metrics with
  | nil => simpa [Controller.run, flushesIn] using publishes
  | cons operation later ih =>
      have others := ih (publishes.perform operation)
      simpa [Controller.run, flushesIn, Metrics.absorb_append] using others

omit [DecidableEq K] in
theorem absorb_unwatched (metrics : Metrics) (settings : ControllerSettings) :
    metrics.absorb (unwatched (K := K) (P := P) settings).notices = metrics := by
  unfold unwatched
  split
  · rfl
  · cases checked : settings.buffer.validate <;>
      simp [RequestBuffer.unwatched, checked, RequestBuffer.created]

omit [DecidableEq K] in
theorem absorb_watched (metrics : Metrics) (settings : ControllerSettings)
    (place timer inbox : Nat) (handler : Handler) (now : Instant) (ticker : Ticker) :
    metrics.absorb
      (watched (K := K) (P := P) settings place timer inbox handler now ticker).notices =
        metrics := by
  unfold watched
  split
  · rfl
  · cases checked : settings.buffer.validate with
    | error fault => simp [RequestBuffer.watched, checked]
    | ok _ =>
        by_cases enabled : settings.buffer.timeoutEnabled = true
        · cases stopped : ticker.stopRequested <;>
            simp [RequestBuffer.watched, checked, enabled, Ticker.register, stopped,
              RequestBuffer.created]
        · simp [RequestBuffer.watched, checked, enabled, RequestBuffer.created]

omit [DecidableEq K] in
theorem IsNew.publishes (new : controller.IsNew) : Publishes [] {} controller := by
  obtain ⟨settings, registration, positive, rfl⟩ := new.eq_around
  exact ⟨⟨rfl, rfl, rfl, rfl, WaitingRoom.isSound_empty, positive⟩, rfl⟩

/-- After every run the gauges, if they were ever set, show what the controller holds, which is
nothing if they were not; the histogram has the sizes of the returned batches in order; and each
batch was counted once, for the signals or for the other calls, so that the counters add up to the
generation in progress.  To construct the controller measures nothing. -/
theorem run_publishes_state (new : controller.IsNew) (operations : List (Operation K P)) :
    let outcome := controller.run operations
    let metrics := ({} : Metrics).absorb outcome.notices
    let reached := outcome.value.2
    let depths : QueueDepths := ⟨reached.buffer.active.size, reached.buffer.waiting.size,
      reached.buffer.waiting.keyCount⟩
    let flushes := controller.flushesIn operations
    ((metrics.depths = none ∧ metrics.gauges = [] ∧ depths = ⟨0, 0, 0⟩) ∨
        metrics.depths = some depths ∧
          metrics.gauges =
            [("arb_active_queue_depth", Metrics.reading depths.active),
              ("arb_blocking_queue_depth", Metrics.reading depths.waiting),
              ("arb_blocking_keys", Metrics.reading depths.keys)]) ∧
      flushes.map Prod.snd = outcome.value.1 ∧
      metrics.batchSizes = outcome.value.1.map Batch.size ∧
      metrics.flushedByTimeout = (flushes.filter fun flush => flush.1).length ∧
      metrics.flushedBySize = (flushes.filter fun flush => !flush.1).length ∧
      metrics.flushedByTimeout + metrics.flushedBySize = reached.buffer.timer.current ∧
      (∀ before settings,
        Metrics.absorb before (unwatched (K := K) (P := P) settings).notices = before) ∧
      ∀ before settings place timer inbox handler now ticker,
        Metrics.absorb before
          (watched (K := K) (P := P) settings place timer inbox handler now ticker).notices =
            before := by
  intro outcome metrics reached depths flushes
  have publishes : Publishes flushes metrics reached := new.publishes.run operations
  have batches : flushes.map Prod.snd = outcome.value.1 := flushesIn_batches controller operations
  refine ⟨?_, batches, ?_, ?_, ?_, ?_, absorb_unwatched, absorb_watched⟩
  · have shown : metrics.depths.getD ⟨0, 0, 0⟩ = depths := publishes.depths
    cases set : metrics.depths with
    | none => exact .inl ⟨rfl, by simp [Metrics.gauges, set], by simpa [set] using shown.symm⟩
    | some last =>
        obtain rfl : last = depths := by simpa [set] using shown
        exact .inr ⟨rfl, by simp [Metrics.gauges, set]⟩
  · rw [publishes.batchSizes, ← batches, List.map_map]
    rfl
  · rw [publishes.flushedByTimeout, List.countP_eq_length_filter]
  · rw [publishes.flushedBySize, List.countP_eq_length_filter]
  · rw [publishes.flushedByTimeout, publishes.flushedBySize, ← publishes.generation,
      List.length_eq_countP_add_countP fun flush : Flush K P => flush.1]
    simp

/-- A batch that is full, one that a signal hands out while a request waits, and at last a signal
that is too late and a completion of a key that nobody holds. -/
theorem run_publishes_state_silent_end :
    let settings : ControllerSettings := { buffer := .disabled, batchSize := 2 }
    let controller : Controller Nat String := around settings (.empty settings.buffer none)
    let first : Request Nat String := ⟨7, .usual, "first"⟩
    let second : Request Nat String := ⟨7, .least, "second"⟩
    let third : Request Nat String := ⟨7, .usual, "third"⟩
    let other : Request Nat String := ⟨8, .usual, "other"⟩
    let operations : List (Operation Nat String) :=
      [.submit 0 first, .submit 1 second, .submit 2 third, .submit 3 other, .complete 4 7,
        .signal 1, .processTimeouts, .onTimeout 1, .complete 5 9]
    let outcome := controller.run operations
    let metrics := ({} : Metrics).absorb outcome.notices
    controller.IsNew ∧ metrics.depths = some ⟨0, 1, 1⟩ ∧ metrics.batchSizes = [2, 1] ∧
      outcome.value.1.map Batch.requests = [[first, other], [third]] ∧
      metrics.flushedByTimeout = 1 ∧ metrics.flushedBySize = 1 ∧
      metrics.batchSizes = outcome.value.1.map Batch.size ∧
      outcome.value.2.buffer.timer.current = 2 := by
  intro settings controller first second third other operations outcome metrics
  have new : controller.IsNew := .unwatched settings rfl
  obtain ⟨_, _, sizes, _, _, generation, _⟩ := run_publishes_state new operations
  refine ⟨new, by decide, by decide, by decide, by decide, by decide, sizes, ?_⟩
  rw [← generation]
  decide

end Controller

end KeyedBatching
