import KeyedBatching.Controller

/-!
# The moves of a controller

Every operation of a controller is put together from a few moves on its state:
a request is parked, joins the active queue, or leaves in a batch, and a key
becomes occupied or free.  Here the moves are named, and each operation is
resolved into them, with its reports left aside.  The timer's part of a move
stands apart, since the ticker can look at the timer in between.
-/

namespace KeyedBatching

open Telemetry

namespace ActiveQueue

variable {α C : Type} {m : Type → Type} [Monad m] [Container C α] {queue : ActiveQueue α}
  {count : Nat}

/-- Without anything to move, no container is made and the queue stays. -/
theorem popInto_of_take_eq_nil (nothing : queue.items.take count = []) (factory : m C) :
    queue.popInto count factory = pure (none, queue) := by
  apply popInto_nothing
  simpa [size] using congrArg List.length nothing

/-- Otherwise the oldest items move, as many as asked for. -/
theorem popInto_of_take_ne_nil (something : queue.items.take count ≠ []) (factory : m C) :
    queue.popInto count factory = (do
      let container ← factory
      pure (some (Container.offerAll container (queue.items.take count)),
        ⟨queue.items.drop count⟩)) := by
  have moved : min count queue.size ≠ 0 := by
    intro none
    apply something
    apply List.eq_nil_of_length_eq_zero
    simpa [size] using none
  have taken : queue.items.take (min count queue.size) = queue.items.take count := by
    rw [← List.take_take, size, List.take_length]
  have kept : queue.items.drop (min count queue.size) = queue.items.drop count := by
    rcases Nat.le_total count queue.size with fits | short
    · rw [Nat.min_eq_left fits]
    · rw [Nat.min_eq_right short, List.drop_eq_nil_of_le short, size, List.drop_length]
  simp only [popInto, if_neg moved, taken, kept]

end ActiveQueue

namespace BatchTimer

variable {timer : BatchTimer}

/-- A timer that is switched off, or whose window is open, is not told of a request. -/
theorem armIfIdle_idle (idle : timer.timeout = 0 ∨ timer.armed ≠ none) (now : Instant) :
    timer.armIfIdle now = pure (false, timer) := by
  have skips : (!timer.isEnabled || timer.isArmed) = true := by
    rcases idle with disabled | isOpen
    · simp [isEnabled, disabled]
    · simp [isArmed, Option.isSome_iff_ne_none, isOpen]
  rw [armIfIdle, if_pos skips]

/-- Any other timer opens a window. -/
theorem armIfIdle_opens (enabled : timer.timeout ≠ 0) (closed : timer.armed = none)
    (now : Instant) :
    timer.armIfIdle now = (do
      let deadline ← Noted.later now timer.timeout
      pure (true, timer.store (some ⟨timer.current, deadline⟩))) := by
  have opens : ¬ (!timer.isEnabled || timer.isArmed) = true := by
    simp [isEnabled, isArmed, enabled, closed]
  rw [armIfIdle, if_neg opens]
  rfl

/-- Told of a request, the timer opens a window unless it is switched off or one is open. -/
theorem armIfIdle_cases (now : Instant) (timer : BatchTimer) :
    ((timer.timeout = 0 ∨ timer.armed ≠ none) ∧ (timer.armIfIdle now).value.2 = timer) ∨
      timer.timeout ≠ 0 ∧ timer.armed = none ∧ (timer.armIfIdle now).value.2 =
        timer.store (some ⟨timer.current, now + timer.timeout⟩) := by
  by_cases idle : timer.timeout = 0 ∨ timer.armed ≠ none
  · exact .inl ⟨idle, by rw [armIfIdle_idle idle, Noted.value_pure]⟩
  · obtain ⟨enabled, notOpen⟩ := not_or.mp idle
    have closed : timer.armed = none := Decidable.not_not.mp notOpen
    exact .inr ⟨enabled, closed, by rw [armIfIdle_opens enabled closed]; rfl⟩

/-- The timer itself says nothing. -/
theorem notices_armIfIdle (now : Instant) (timer : BatchTimer) :
    (timer.armIfIdle now).notices = [] := by
  unfold armIfIdle
  split <;> rfl

/-- Opening a window touches neither the generation nor the mark of reported ones. -/
theorem armIfIdle_frame (now : Instant) (timer : BatchTimer) :
    (timer.armIfIdle now).value.2.current = timer.current ∧
      (timer.armIfIdle now).value.2.reported = timer.reported := by
  rcases armIfIdle_cases now timer with ⟨_, same⟩ | ⟨_, _, opens⟩
  · rw [same]
    exact ⟨rfl, rfl⟩
  · rw [opens]
    exact ⟨rfl, rfl⟩

/-- A timer answers unless it is to open a window whose deadline the clock never reaches. -/
theorem returns_armIfIdle_iff {machine : Machine} {now : Instant} :
    (timer.armIfIdle now).returns machine = true ↔
      timer.timeout = 0 ∨ timer.armed ≠ none ∨ now + timer.timeout < Instant.limit := by
  by_cases idle : timer.timeout = 0 ∨ timer.armed ≠ none
  · rw [armIfIdle_idle idle, ← or_assoc]
    exact iff_of_true rfl (.inl idle)
  · obtain ⟨enabled, notOpen⟩ := not_or.mp idle
    have closed : timer.armed = none := Decidable.not_not.mp notOpen
    simp [armIfIdle_opens enabled closed, enabled, closed, Machine.meets_instant_iff]

end BatchTimer

theorem RequestBuffer.enqueueActive_value {K P : Type} (now : Instant) (request : Request K P)
    (buffer : RequestBuffer K P) :
    (buffer.enqueueActive now request).value =
      { buffer with
        active := buffer.active.push request
        timer := (buffer.timer.armIfIdle now).value.2 } := by
  cases armed : (buffer.timer.armIfIdle now).value.1 <;> simp [enqueueActive, armed]

namespace Controller

variable {K P : Type}

/-! ## Moves -/

/-- The controller with its timer changed. -/
def mapTimer (change : BatchTimer → BatchTimer) (controller : Controller K P) :
    Controller K P :=
  { controller with
    buffer := { controller.buffer with timer := change controller.buffer.timer } }

def withActive (requests : List (Request K P)) (controller : Controller K P) :
    Controller K P :=
  { controller with buffer := { controller.buffer with active := ⟨requests⟩ } }

def withWaiting (room : WaitingRoom K P) (controller : Controller K P) : Controller K P :=
  { controller with buffer := { controller.buffer with waiting := room } }

def withSignals (signals : List Nat) (controller : Controller K P) : Controller K P :=
  { controller with signals }

def occupy (key : K) (controller : Controller K P) : Controller K P :=
  { controller with inFlight := key :: controller.inFlight }

def release [DecidableEq K] (key : K) (controller : Controller K P) : Controller K P :=
  { controller with inFlight := controller.inFlight.erase key }

/-- A request joins the active queue; the timer does not know of it yet. -/
def join (request : Request K P) (controller : Controller K P) : Controller K P :=
  controller.withActive (controller.buffer.active.items ++ [request])

/-- The timer opens a window, unless one is open. -/
def openWindow (now : Instant) (controller : Controller K P) : Controller K P :=
  controller.mapTimer fun timer => (timer.armIfIdle now).value.2

/-- A request joins the active queue and the timer is told. -/
def accept (now : Instant) (request : Request K P) (controller : Controller K P) :
    Controller K P :=
  (controller.join request).openWindow now

@[simp] theorem accept_items (now : Instant) (request : Request K P)
    (controller : Controller K P) :
    (controller.accept now request).buffer.active.items =
      controller.buffer.active.items ++ [request] :=
  rfl

@[simp] theorem accept_waiting (now : Instant) (request : Request K P)
    (controller : Controller K P) :
    (controller.accept now request).buffer.waiting = controller.buffer.waiting :=
  rfl

@[simp] theorem accept_inFlight (now : Instant) (request : Request K P)
    (controller : Controller K P) :
    (controller.accept now request).inFlight = controller.inFlight :=
  rfl

/-- The requests that leave next, if there are any, in a batch of the generation in progress. -/
def nextBatch? (controller : Controller K P) : Option (Batch (Request K P)) :=
  match controller.buffer.active.items.take controller.batchSize with
  | [] => none
  | first :: others => some ⟨first :: others, controller.buffer.timer.current⟩

/-- The active queue without the requests that leave next. -/
def dropBatch (controller : Controller K P) : Controller K P :=
  controller.withActive (controller.buffer.active.items.drop controller.batchSize)

/-- The next batch leaves, and the timer starts a new generation. -/
def handOut (controller : Controller K P) : Option (Batch (Request K P)) × Controller K P :=
  match controller.nextBatch? with
  | none => (none, controller)
  | some batch => (some batch, controller.dropBatch.mapTimer fun timer => timer.advance.2)

/-- The next batch leaves if it is full. -/
def handOutIfFull (controller : Controller K P) :
    Option (Batch (Request K P)) × Controller K P :=
  if controller.batchSize ≤ controller.buffer.active.size then controller.handOut
  else (none, controller)

/-! ## Handing out -/

theorem nextBatch?_eq_none_iff {controller : Controller K P} :
    controller.nextBatch? = none ↔
      controller.buffer.active.items.take controller.batchSize = [] := by
  unfold nextBatch?
  cases controller.buffer.active.items.take controller.batchSize with
  | nil => simp
  | cons first others => simp

theorem nextBatch?_eq_some_iff {controller : Controller K P} {batch : Batch (Request K P)} :
    controller.nextBatch? = some batch ↔
      controller.buffer.active.items.take controller.batchSize ≠ [] ∧
        batch = ⟨controller.buffer.active.items.take controller.batchSize,
          controller.buffer.timer.current⟩ := by
  unfold nextBatch?
  cases controller.buffer.active.items.take controller.batchSize with
  | nil => simp
  | cons first others => simp [eq_comm]

/-- The batch that leaves and the queue that stays are the queue before. -/
theorem nextBatch?_append_dropBatch {controller : Controller K P}
    {batch : Batch (Request K P)} (leaves : controller.nextBatch? = some batch) :
    batch.requests ++ controller.dropBatch.buffer.active.items =
      controller.buffer.active.items := by
  obtain ⟨_, rfl⟩ := nextBatch?_eq_some_iff.mp leaves
  exact List.take_append_drop _ _

/-- Either nothing leaves and nothing changes, or the next batch leaves. -/
theorem handOut_cases (controller : Controller K P) :
    (controller.nextBatch? = none ∧ controller.handOut = (none, controller)) ∨
      ∃ batch, controller.nextBatch? = some batch ∧
        controller.handOut =
          (some batch, controller.dropBatch.mapTimer fun timer => timer.advance.2) := by
  unfold handOut
  cases controller.nextBatch? with
  | none => exact .inl ⟨rfl, rfl⟩
  | some batch => exact .inr ⟨batch, rfl, rfl⟩

/-- A batch takes requests from the queue alone, and nothing is lost on the way. -/
theorem handOut_requests (controller : Controller K P) :
    controller.handOut.1.toList.flatMap Batch.requests ++
        controller.handOut.2.buffer.active.items =
      controller.buffer.active.items := by
  rcases handOut_cases controller with ⟨_, result⟩ | ⟨batch, leaves, result⟩
  · simp [result]
  · rw [result]
    simpa [mapTimer] using nextBatch?_append_dropBatch leaves

@[simp] theorem handOut_waiting (controller : Controller K P) :
    controller.handOut.2.buffer.waiting = controller.buffer.waiting := by
  rcases handOut_cases controller with ⟨_, result⟩ | ⟨_, _, result⟩
  · rw [result]
  · rw [result]
    rfl

@[simp] theorem handOut_inFlight (controller : Controller K P) :
    controller.handOut.2.inFlight = controller.inFlight := by
  rcases handOut_cases controller with ⟨_, result⟩ | ⟨_, _, result⟩
  · rw [result]
  · rw [result]
    rfl

/-- The signals take no part. -/
theorem handOut_withSignals (signals : List Nat) (controller : Controller K P) :
    (controller.withSignals signals).handOut =
      (controller.handOut.1, controller.handOut.2.withSignals signals) := by
  have same : (controller.withSignals signals).nextBatch? = controller.nextBatch? := rfl
  rw [handOut, handOut, same]
  cases controller.nextBatch? <;> rfl

/-- Handing out a full batch is handing out, or leaves the controller as it is. -/
theorem handOutIfFull_cases (controller : Controller K P) :
    (controller.buffer.active.size < controller.batchSize ∧
        controller.handOutIfFull = (none, controller)) ∨
      controller.batchSize ≤ controller.buffer.active.size ∧
        controller.handOutIfFull = controller.handOut := by
  unfold handOutIfFull
  rcases Nat.lt_or_ge controller.buffer.active.size controller.batchSize with room | full
  · exact .inl ⟨room, if_neg (Nat.not_le.mpr room)⟩
  · exact .inr ⟨full, if_pos full⟩

theorem handOutIfFull_requests (controller : Controller K P) :
    controller.handOutIfFull.1.toList.flatMap Batch.requests ++
        controller.handOutIfFull.2.buffer.active.items =
      controller.buffer.active.items := by
  rcases handOutIfFull_cases controller with ⟨_, result⟩ | ⟨_, result⟩
  · simp [result]
  · rw [result]
    exact handOut_requests controller

@[simp] theorem handOutIfFull_waiting (controller : Controller K P) :
    controller.handOutIfFull.2.buffer.waiting = controller.buffer.waiting := by
  rcases handOutIfFull_cases controller with ⟨_, result⟩ | ⟨_, result⟩ <;> simp [result]

@[simp] theorem handOutIfFull_inFlight (controller : Controller K P) :
    controller.handOutIfFull.2.inFlight = controller.inFlight := by
  rcases handOutIfFull_cases controller with ⟨_, result⟩ | ⟨_, result⟩ <;> simp [result]

/-! ## The operations in terms of the moves -/

/-- Without anything to hand out, a flush asks for nothing, says nothing and changes nothing. -/
theorem flushBatch_nothing {controller : Controller K P} (nothing : controller.nextBatch? = none)
    (byTimeout : Bool) : controller.flushBatch byTimeout = pure (none, controller) := by
  have empty := nextBatch?_eq_none_iff.mp nothing
  simp only [flushBatch, RequestBuffer.popActive, ActiveQueue.popInto_of_take_eq_nil empty]
  rfl

/-- Otherwise it asks for room first. -/
theorem flushBatch_something {controller : Controller K P} {batch : Batch (Request K P)}
    (leaves : controller.nextBatch? = some batch) (byTimeout : Bool) :
    controller.flushBatch byTimeout = (do
      let flushed := controller.dropBatch.mapTimer fun timer => timer.advance.2
      Noted.demand (.room controller.batchSize)
      Noted.measure (.batchFlushed batch.size byTimeout)
      flushed.publishDepths
      Noted.log (.batchFlushed controller.buffer.timer.current batch.size byTimeout)
      pure (some batch, flushed)) := by
  obtain ⟨something, rfl⟩ := nextBatch?_eq_some_iff.mp leaves
  simp only [flushBatch, RequestBuffer.popActive, ActiveQueue.popInto_of_take_ne_nil something,
    offerAll_batch]
  rfl

theorem flushBatch_value (byTimeout : Bool) (controller : Controller K P) :
    (controller.flushBatch byTimeout).value = controller.handOut := by
  rcases handOut_cases controller with ⟨nothing, stays⟩ | ⟨batch, leaves, result⟩
  · rw [stays, flushBatch_nothing nothing, Noted.value_pure]
  · rw [result, flushBatch_something leaves]
    rfl

theorem flush_value (controller : Controller K P) :
    controller.flush.value = controller.handOut :=
  flushBatch_value false controller

theorem flushIfFull_value (controller : Controller K P) :
    controller.flushIfFull.value = controller.handOutIfFull := by
  unfold flushIfFull handOutIfFull
  split
  · exact flushBatch_value false controller
  · rfl

theorem enqueue_value (now : Instant) (request : Request K P) (controller : Controller K P) :
    (controller.enqueue now request).value = (controller.accept now request).handOutIfFull := by
  have admitted : { controller with
      buffer := (controller.buffer.enqueueActive now request).value } =
        controller.accept now request := by
    rw [RequestBuffer.enqueueActive_value]
    rfl
  rw [← flushIfFull_value, ← admitted]
  rfl

theorem onTimeout_current {controller : Controller K P} {generation : Nat}
    (current : controller.buffer.timer.isCurrent generation = true) :
    (controller.onTimeout generation).value = controller.handOut := by
  rw [onTimeout, if_pos current]
  exact flushBatch_value true controller

theorem onTimeout_stale {controller : Controller K P} {generation : Nat}
    (stale : controller.buffer.timer.isCurrent generation = false) :
    (controller.onTimeout generation).value = (none, controller) := by
  rw [onTimeout, stale]
  rfl

theorem onTimeout_withSignals (signals : List Nat) (controller : Controller K P)
    (generation : Nat) :
    ((controller.withSignals signals).onTimeout generation).value =
      ((controller.onTimeout generation).value.1,
        (controller.onTimeout generation).value.2.withSignals signals) := by
  cases current : controller.buffer.timer.isCurrent generation with
  | true =>
      have kept : (controller.withSignals signals).buffer.timer.isCurrent generation = true :=
        current
      rw [onTimeout_current current, onTimeout_current kept]
      exact handOut_withSignals signals controller
  | false =>
      have kept : (controller.withSignals signals).buffer.timer.isCurrent generation = false :=
        current
      rw [onTimeout_stale current, onTimeout_stale kept]

theorem takeSignal_eq_some {controller rest : Controller K P} {generation : Nat}
    (taken : controller.takeSignal = (some generation, rest)) :
    ∃ later, controller.signals = generation :: later ∧ rest = controller.withSignals later := by
  unfold takeSignal at taken
  cases signals : controller.signals with
  | nil =>
      rw [signals] at taken
      cases taken
  | cons first later =>
      rw [signals] at taken
      cases taken
      exact ⟨later, rfl, rfl⟩

theorem actOn_cons (controller : Controller K P) (generation : Nat) (later : List Nat) :
    let first := (controller.onTimeout generation).value
    let others := (first.2.actOn later).value
    (controller.actOn (generation :: later)).value =
      (first.1.toList ++ others.1, others.2) :=
  rfl

variable [DecidableEq K]

theorem submit_busy {controller : Controller K P} {request : Request K P}
    (busy : controller.isInFlight request.key = true) (now : Instant) :
    (controller.submit now request).value =
      (none, controller.withWaiting (controller.buffer.waiting.enqueue request)) := by
  rw [submit, if_pos busy]
  rfl

theorem submit_free {controller : Controller K P} {request : Request K P}
    (free : controller.isInFlight request.key = false) (now : Instant) :
    (controller.submit now request).value =
      ((controller.occupy request.key).accept now request).handOutIfFull := by
  rw [submit, free]
  exact enqueue_value now request (controller.occupy request.key)

theorem complete_waiting {controller : Controller K P} {key : K} {next : Request K P}
    {rest : WaitingRoom K P}
    (taken : controller.buffer.waiting.unblockOne key = (some next, rest)) (now : Instant) :
    (controller.complete now key).value =
      ((controller.withWaiting rest).accept now next).handOutIfFull := by
  rw [← enqueue_value]
  simp only [complete, RequestBuffer.unblockOne, taken]
  rfl

theorem complete_idle {controller : Controller K P} {key : K} {rest : WaitingRoom K P}
    (taken : controller.buffer.waiting.unblockOne key = (none, rest)) (now : Instant) :
    (controller.complete now key).value =
      (none, (controller.withWaiting rest).release key) := by
  simp only [complete, RequestBuffer.unblockOne, taken]
  rfl

end Controller

end KeyedBatching
