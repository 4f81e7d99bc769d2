import KeyedBatching.Proofs.BatchWindows

/-!
# What a run asks of the machine

Two things can keep an operation of a controller from returning.  A request that
joins while no window is open asks for the end of its window, which the clock may
never reach.  A batch asks for room for as many requests as the controller ever
hands out together, however few leave in it.  Nothing else is asked for, so it can
be told from the batches and the openings of a run on which machines it returns.
-/

namespace KeyedBatching

open Telemetry

variable {K P : Type} {machine : Machine}

namespace Controller

variable {controller other last : Controller K P}

/-! ## What the demands depend on -/

/-- The size of a batch and the timeout, which no operation changes. -/
structure SameLimits (controller other : Controller K P) : Prop where
  batchSize : other.batchSize = controller.batchSize
  timeout : other.buffer.timer.timeout = controller.buffer.timer.timeout

namespace SameLimits

theorem trans (first : controller.SameLimits other) (second : other.SameLimits last) :
    controller.SameLimits last :=
  ⟨second.batchSize.trans first.batchSize, second.timeout.trans first.timeout⟩

theorem of_sameQueue (same : controller.SameQueue other) : controller.SameLimits other :=
  ⟨same.batchSize, by rw [same.timer]⟩

theorem accept (controller : Controller K P) (now : Instant) (request : Request K P) :
    controller.SameLimits (controller.accept now request) := by
  refine ⟨rfl, ?_⟩
  change (controller.buffer.timer.armIfIdle now).value.2.timeout = _
  rcases BatchTimer.armIfIdle_cases now controller.buffer.timer with ⟨_, same⟩ | ⟨_, _, opens⟩
  · rw [same]
  · rw [opens]
    rfl

theorem handOut (controller : Controller K P) : controller.SameLimits controller.handOut.2 := by
  rcases handOut_cases controller with ⟨_, result⟩ | ⟨_, _, result⟩
  · rw [result]
    exact ⟨rfl, rfl⟩
  · rw [result]
    exact ⟨rfl, rfl⟩

theorem handOutIfFull (controller : Controller K P) :
    controller.SameLimits controller.handOutIfFull.2 := by
  rcases handOutIfFull_cases controller with ⟨_, result⟩ | ⟨_, result⟩
  · rw [result]
    exact ⟨rfl, rfl⟩
  · rw [result]
    exact handOut controller

theorem onTimeout (controller : Controller K P) (generation : Nat) :
    controller.SameLimits (controller.onTimeout generation).value.2 := by
  cases current : controller.buffer.timer.isCurrent generation with
  | true =>
      rw [onTimeout_current current]
      exact handOut controller
  | false =>
      rw [onTimeout_stale current]
      exact ⟨rfl, rfl⟩

theorem actOn (signals : List Nat) (controller : Controller K P) :
    controller.SameLimits (controller.actOn signals).value.2 := by
  induction signals generalizing controller with
  | nil => exact ⟨rfl, rfl⟩
  | cons generation later ih => exact (onTimeout controller generation).trans (ih _)

theorem processTimeouts (controller : Controller K P) :
    controller.SameLimits controller.processTimeouts.value.2 := by
  have drained : controller.SameLimits { controller with signals := [] } := ⟨rfl, rfl⟩
  exact drained.trans (actOn controller.signals _)

theorem perform [DecidableEq K] (controller : Controller K P) (operation : Operation K P) :
    controller.SameLimits (controller.perform operation).value.2 := by
  cases called : operation.calledAt? with
  | some now =>
      obtain ⟨other, same, result | ⟨request, result⟩⟩ := perform_call_cases controller called
      · rw [result]
        exact of_sameQueue same
      · rw [result]
        exact (of_sameQueue same).trans ((accept other now request).trans (handOutIfFull _))
  | none =>
      cases operation with
      | submit now request => simp [Operation.calledAt?] at called
      | complete now key => simp [Operation.calledAt?] at called
      | flush =>
          rw [perform_flush]
          exact handOut controller
      | onTimeout generation => exact onTimeout controller generation
      | processTimeouts => exact processTimeouts controller
      | poll now => exact ⟨rfl, (BatchTimer.pollExpired_frame now controller.buffer.timer).2.2⟩
      | signal generation => exact ⟨rfl, rfl⟩

theorem run [DecidableEq K] (controller : Controller K P) (operations : List (Operation K P)) :
    controller.SameLimits (controller.run operations).value.2 := by
  induction operations generalizing controller with
  | nil => exact ⟨rfl, rfl⟩
  | cons operation later ih => exact (perform controller operation).trans (ih _)

end SameLimits

/-! ## Demands of the operations -/

/-- There is room for a full batch, or nothing is handed out. -/
def RoomFor {C : Type} (machine : Machine) (controller : Controller K P) (handed : List C) : Prop :=
  handed = [] ∨ machine.meets (.room controller.batchSize) = true

theorem RoomFor.congr {C : Type} {handed : List C} (same : controller.SameLimits other) :
    RoomFor machine other handed ↔ RoomFor machine controller handed := by
  rw [RoomFor, RoomFor, same.batchSize]

theorem roomFor_append {C : Type} {first second : List C} :
    RoomFor machine controller (first ++ second) ↔
      RoomFor machine controller first ∧ RoomFor machine controller second := by
  simp only [RoomFor, List.append_eq_nil_iff]
  tauto

/-- No machine has room for the batches of the greatest size that a word can hold. -/
theorem not_roomFor_largest {C : Type} {handed : List C} (sized : 0 < machine.requestSize)
    (largest : controller.batchSize = 18446744073709551615) (something : handed ≠ []) :
    ¬RoomFor machine controller handed := by
  rw [RoomFor, largest, or_iff_right something]
  exact Machine.not_meets_room_largest sized

theorem returns_publishDepths (controller : Controller K P) :
    controller.publishDepths.returns machine = true :=
  rfl

theorem returns_flushBatch_iff (byTimeout : Bool) (controller : Controller K P) :
    (controller.flushBatch byTimeout).returns machine = true ↔
      RoomFor machine controller controller.handOut.1.toList := by
  rcases handOut_cases controller with ⟨nothing, result⟩ | ⟨batch, leaves, result⟩
  · simp [flushBatch_nothing nothing, result, RoomFor]
  · simp [flushBatch_something leaves, result, RoomFor, returns_publishDepths]

theorem returns_flushIfFull_iff (controller : Controller K P) :
    controller.flushIfFull.returns machine = true ↔
      RoomFor machine controller controller.handOutIfFull.1.toList := by
  rcases handOutIfFull_cases controller with ⟨room, result⟩ | ⟨full, result⟩
  · simp [flushIfFull, Nat.not_le.mpr room, result, RoomFor, returns_publishDepths]
  · rw [flushIfFull, if_pos full, result]
    exact returns_flushBatch_iff false controller

/-- A window that a request opens ends on the clock. -/
def EndsInTime (controller : Controller K P) (now : Instant) : Prop :=
  controller.buffer.timer.timeout = 0 ∨ controller.buffer.timer.armed ≠ none ∨
    now + controller.buffer.timer.timeout < Instant.limit

theorem returns_enqueue_iff (now : Instant) (request : Request K P) (controller : Controller K P) :
    (controller.enqueue now request).returns machine = true ↔
      controller.EndsInTime now ∧
        RoomFor machine controller (controller.accept now request).handOutIfFull.1.toList := by
  have admitted : { controller with
      buffer := (controller.buffer.enqueueActive now request).value } =
        controller.accept now request := by
    rw [RequestBuffer.enqueueActive_value]
    rfl
  have told : (controller.buffer.enqueueActive now request).returns machine =
      (controller.buffer.timer.armIfIdle now).returns machine := by
    cases armed : (controller.buffer.timer.armIfIdle now).value.1 <;>
      simp [RequestBuffer.enqueueActive, armed]
  rw [enqueue, Noted.returns_bind, admitted, told, Bool.and_eq_true, returns_flushIfFull_iff,
    BatchTimer.returns_armIfIdle_iff, RoomFor.congr (SameLimits.accept controller now request)]
  rfl

theorem returns_onTimeout_iff (generation : Nat) (controller : Controller K P) :
    (controller.onTimeout generation).returns machine = true ↔
      RoomFor machine controller (controller.onTimeout generation).value.1.toList := by
  cases current : controller.buffer.timer.isCurrent generation with
  | true =>
      rw [onTimeout_current current, onTimeout, if_pos current]
      exact returns_flushBatch_iff true controller
  | false =>
      rw [onTimeout_stale current, onTimeout, current]
      exact iff_of_true rfl (.inl rfl)

theorem returns_actOn_iff (signals : List Nat) (controller : Controller K P) :
    (controller.actOn signals).returns machine = true ↔
      RoomFor machine controller (controller.actOn signals).value.1 := by
  induction signals generalizing controller with
  | nil => exact iff_of_true rfl (.inl rfl)
  | cons generation later ih =>
      simp only [actOn, Noted.returns_bind, Noted.returns_pure, Bool.and_true, Bool.and_eq_true,
        Noted.value_bind, Noted.value_pure]
      rw [roomFor_append, returns_onTimeout_iff, ih,
        RoomFor.congr (SameLimits.onTimeout controller generation)]

theorem returns_processTimeouts_iff (controller : Controller K P) :
    controller.processTimeouts.returns machine = true ↔
      RoomFor machine controller controller.processTimeouts.value.1 :=
  returns_actOn_iff controller.signals { controller with signals := [] }

/-! ## Demands of a run -/

variable [DecidableEq K]

/-- The instant of an operation that opens a window, if the timer is on. -/
def opensAt (controller : Controller K P) (operation : Operation K P) : List Instant :=
  if controller.buffer.timer.armed = none then (controller.joining operation).map Prod.fst else []

/-- The instants at which a run opens windows, if the timer is on. -/
def openings (controller : Controller K P) : List (Operation K P) → List Instant
  | [] => []
  | operation :: later =>
      controller.opensAt operation ++ (controller.perform operation).value.2.openings later

/-- All windows that are opened at the given instants end on the clock. -/
def Ends (controller : Controller K P) (opened : List Instant) : Prop :=
  controller.buffer.timer.timeout = 0 ∨
    ∀ now ∈ opened, now + controller.buffer.timer.timeout < Instant.limit

omit [DecidableEq K] in
theorem Ends.congr {opened : List Instant} (same : controller.SameLimits other) :
    other.Ends opened ↔ controller.Ends opened := by
  rw [Ends, Ends, same.timeout]

omit [DecidableEq K] in
theorem ends_append {first second : List Instant} :
    controller.Ends (first ++ second) ↔ controller.Ends first ∧ controller.Ends second := by
  simp only [Ends, List.forall_mem_append]
  tauto

omit [DecidableEq K] in
theorem returns_single (outcome : Noted (Option (Batch (Request K P)) × Controller K P)) :
    (single outcome).returns machine = outcome.returns machine := by
  simp [single]

/-- A call whose request joins the queue asks for the end of the window that it opens, and for
the batch that it fills. -/
theorem returns_perform_of_joining (same : controller.SameQueue other)
    {operation : Operation K P} {now : Instant} (request : Request K P)
    (called : operation.calledAt? = some now)
    (result : (controller.perform operation).value =
      ((other.accept now request).handOutIfFull.1.toList,
        (other.accept now request).handOutIfFull.2))
    (asked : (controller.perform operation).returns machine =
      (other.enqueue now request).returns machine) :
    (controller.perform operation).returns machine = true ↔
      controller.Ends (controller.opensAt operation) ∧
        RoomFor machine controller (controller.perform operation).value.1 := by
  have ends : controller.Ends (controller.opensAt operation) ↔ other.EndsInTime now := by
    rw [opensAt, joining_of_accept called same result, Ends, EndsInTime, same.timer]
    by_cases closed : controller.buffer.timer.armed = none <;> simp [closed]
  rw [asked, returns_enqueue_iff, ends, result, RoomFor.congr (.of_sameQueue same)]

theorem returns_perform_of_silent (same : controller.SameQueue other)
    {operation : Operation K P} {now : Instant} (called : operation.calledAt? = some now)
    (result : (controller.perform operation).value = ([], other))
    (asked : (controller.perform operation).returns machine = true) :
    (controller.perform operation).returns machine = true ↔
      controller.Ends (controller.opensAt operation) ∧
        RoomFor machine controller (controller.perform operation).value.1 := by
  refine iff_of_true asked ⟨.inr ?_, .inl (by rw [result])⟩
  simp [opensAt, joining_of_silent called same result]

/-- An operation returns if the windows that it opens end on the clock, and there is room for the
batches that it returns. -/
theorem returns_perform_iff (controller : Controller K P) (operation : Operation K P) :
    (controller.perform operation).returns machine = true ↔
      controller.Ends (controller.opensAt operation) ∧
        RoomFor machine controller (controller.perform operation).value.1 := by
  have idle (silent : operation.calledAt? = none) :
      controller.Ends (controller.opensAt operation) := by
    simp [Ends, opensAt, joining, silent]
  cases operation with
  | submit now request =>
      cases busy : controller.isInFlight request.key with
      | true =>
          have same : controller.SameQueue
            (controller.withWaiting (controller.buffer.waiting.enqueue request)) := ⟨rfl, rfl, rfl⟩
          apply returns_perform_of_silent same rfl
          · simp [perform, single, submit_busy busy]
          · simp [perform, returns_single, submit, busy, returns_publishDepths]
      | false =>
          have same : controller.SameQueue (controller.occupy request.key) := ⟨rfl, rfl, rfl⟩
          apply returns_perform_of_joining same request rfl
          · simp [perform, single, submit_free busy]
          · simp [perform, returns_single, submit, busy, occupy]
  | complete now key =>
      rcases unblocked : controller.buffer.waiting.unblockOne key with ⟨next?, rest⟩
      cases next? with
      | none =>
          have same : controller.SameQueue ((controller.withWaiting rest).release key) :=
            ⟨rfl, rfl, rfl⟩
          apply returns_perform_of_silent same rfl
          · simp [perform, single, complete_idle unblocked]
          · simp [perform, returns_single, complete, RequestBuffer.unblockOne, unblocked]
      | some next =>
          have same : controller.SameQueue (controller.withWaiting rest) := ⟨rfl, rfl, rfl⟩
          apply returns_perform_of_joining same next rfl
          · simp [perform, single, complete_waiting unblocked]
          · simp [perform, returns_single, complete, RequestBuffer.unblockOne, unblocked,
              withWaiting]
  | flush =>
      rw [perform_flush, perform, returns_single, flush, returns_flushBatch_iff]
      exact (and_iff_right (idle rfl)).symm
  | onTimeout generation =>
      rw [perform, returns_single, returns_onTimeout_iff]
      exact (and_iff_right (idle rfl)).symm
  | processTimeouts =>
      rw [perform, returns_processTimeouts_iff]
      exact (and_iff_right (idle rfl)).symm
  | poll now => exact iff_of_true rfl ⟨idle rfl, .inl rfl⟩
  | signal generation => exact iff_of_true rfl ⟨idle rfl, .inl rfl⟩

/-- A run returns exactly if all windows that it opens end on the clock and, unless it hands out
nothing, there is room for a full batch. -/
theorem returns_run_iff (controller : Controller K P) (operations : List (Operation K P)) :
    (controller.run operations).returns machine = true ↔
      controller.Ends (controller.openings operations) ∧
        RoomFor machine controller (controller.run operations).value.1 := by
  induction operations generalizing controller with
  | nil => exact iff_of_true rfl ⟨.inr (List.forall_mem_nil _), .inl rfl⟩
  | cons operation later ih =>
      have same := SameLimits.perform controller operation
      simp only [run, openings, Noted.returns_bind, Noted.returns_pure, Bool.and_true,
        Bool.and_eq_true, Noted.value_bind, Noted.value_pure]
      rw [returns_perform_iff, ih, ends_append, roomFor_append, Ends.congr same,
        RoomFor.congr same]
      tauto

end Controller

end KeyedBatching
