import KeyedBatching.Proofs.AdmissionOrder

/-!
# Windows follow the oldest request

The timer of a buffer does not look at the active queue, and yet a window is open
exactly while a request is queued, and counts from the instant at which the
oldest of them joined.  The reason is that every batch takes the whole queue:
between two operations the queue is shorter than a batch, so that no request
stays behind when its window closes.
-/

namespace KeyedBatching

variable {K P : Type}

namespace Operation

/-- The instant of a submission or a completion. -/
def calledAt? : Operation K P → Option Instant
  | .submit now _ => some now
  | .complete now _ => some now
  | _ => none

end Operation

namespace Controller

/-! ## Windows -/

/-- The window that is open while some requests are queued. -/
def windowOf (timeout : Duration) (generation : Nat) (queued : List (Instant × Request K P)) :
    Option Window :=
  if timeout = 0 then none
  else queued.head?.map fun oldest => ⟨generation, oldest.1 + timeout⟩

theorem windowOf_isSome {timeout : Duration} (enabled : timeout ≠ 0) (generation : Nat)
    (queued : List (Instant × Request K P)) :
    (windowOf timeout generation queued).isSome = true ↔ queued ≠ [] := by
  cases queued <;> simp [windowOf, enabled]

theorem windowOf_eq_some {timeout : Duration} {generation : Nat}
    {queued : List (Instant × Request K P)} {window : Window}
    (isOpen : windowOf timeout generation queued = some window) :
    ∃ oldest, queued.head? = some oldest ∧ window = ⟨generation, oldest.1 + timeout⟩ := by
  unfold windowOf at isOpen
  split at isOpen
  · cases isOpen
  · obtain ⟨oldest, first, rfl⟩ := Option.map_eq_some_iff.mp isOpen
    exact ⟨oldest, first, rfl⟩

/-- The queued requests, each with the instant at which it joined, and their window. -/
structure IsTimed (timeout : Duration) (queued : List (Instant × Request K P))
    (controller : Controller K P) : Prop where
  positive : 0 < controller.batchSize
  configured : controller.buffer.timer.timeout = timeout
  requests : queued.map Prod.snd = controller.buffer.active.items
  fits : queued.length ≤ controller.batchSize
  armed : controller.buffer.timer.armed =
    windowOf timeout controller.buffer.timer.current queued

/-- Between two operations the queue has room for one more request. -/
structure IsWindowed (timeout : Duration) (queued : List (Instant × Request K P))
    (controller : Controller K P) : Prop extends IsTimed timeout queued controller where
  room : queued.length < controller.batchSize

/-- The two differ at most in the requests that wait, the keys in flight and the signals. -/
structure SameQueue (controller other : Controller K P) : Prop where
  active : other.buffer.active = controller.buffer.active
  timer : other.buffer.timer = controller.buffer.timer
  batchSize : other.batchSize = controller.batchSize

theorem IsWindowed.of_empty {timeout : Duration} {controller : Controller K P}
    (timed : IsTimed timeout [] controller) : IsWindowed timeout [] controller :=
  ⟨timed, timed.positive⟩

variable {timeout : Duration} {queued : List (Instant × Request K P)}
  {controller other : Controller K P}

theorem IsWindowed.sameQueue (windowed : IsWindowed timeout queued controller)
    (same : controller.SameQueue other) : IsWindowed timeout queued other := by
  obtain ⟨⟨positive, configured, requests, fits, armed⟩, room⟩ := windowed
  obtain ⟨active, timer, batchSize⟩ := same
  rw [← timer] at configured armed
  rw [← active] at requests
  rw [← batchSize] at positive fits room
  exact ⟨⟨positive, configured, requests, fits, armed⟩, room⟩

/-- The first request to join opens the window, and the later ones leave it as it is. -/
theorem IsWindowed.accept (windowed : IsWindowed timeout queued controller) (now : Instant)
    (request : Request K P) :
    IsTimed timeout (queued ++ [(now, request)]) (controller.accept now request) := by
  obtain ⟨⟨positive, configured, requests, _, armed⟩, room⟩ := windowed
  have opened : (controller.accept now request).buffer.timer =
      (controller.buffer.timer.armIfIdle now).value.2 := rfl
  constructor
  · exact positive
  · rw [opened]
    rcases BatchTimer.armIfIdle_cases now controller.buffer.timer with ⟨_, same⟩ | ⟨_, _, opens⟩
    · rw [same, configured]
    · rw [opens]
      exact configured
  · simp [requests]
  · change (queued ++ [(now, request)]).length ≤ controller.batchSize
    rw [List.length_append, List.length_singleton]
    exact room
  · rw [opened]
    rcases BatchTimer.armIfIdle_cases now controller.buffer.timer with
      ⟨idle, same⟩ | ⟨enabled, closed, opens⟩
    · rw [same, armed]
      rcases idle with disabled | isOpen
      · simp [windowOf, ← configured, disabled]
      · cases queued with
        | nil => simp [armed, windowOf] at isOpen
        | cons oldest rest => simp [windowOf]
    · rw [configured] at enabled opens
      rw [opens]
      cases queued with
      | nil => simp [windowOf, BatchTimer.store, enabled]
      | cons oldest rest => simp [armed, windowOf, enabled] at closed

/-- A batch takes all that is queued, and its window closes. -/
theorem IsTimed.handOut (timed : IsTimed timeout queued controller) :
    IsWindowed timeout
      (queued.drop (controller.handOut.1.toList.flatMap Batch.requests).length)
      controller.handOut.2 := by
  have size : controller.buffer.active.items.length ≤ controller.batchSize := by
    rw [← timed.requests, List.length_map]
    exact timed.fits
  have whole : controller.buffer.active.items.take controller.batchSize =
      controller.buffer.active.items := List.take_of_length_le size
  rcases handOut_cases controller with ⟨nothing, result⟩ | ⟨batch, leaves, result⟩
  · have empty : queued = [] := by
      have none := nextBatch?_eq_none_iff.mp nothing
      rw [whole, ← timed.requests] at none
      simpa using none
    subst empty
    rw [result]
    exact .of_empty timed
  · obtain ⟨_, rfl⟩ := nextBatch?_eq_some_iff.mp leaves
    have count : queued.length = controller.buffer.active.items.length := by
      rw [← timed.requests, List.length_map]
    have gone : queued.drop (controller.buffer.active.items.take controller.batchSize).length =
        [] := by
      rw [whole, ← count, List.drop_length]
    rw [result]
    simp only [Option.toList_some, List.flatMap_singleton, gone]
    apply IsWindowed.of_empty
    refine ⟨timed.positive, timed.configured, ?_, Nat.zero_le _, ?_⟩
    · simp [dropBatch, withActive, mapTimer, List.drop_eq_nil_of_le size]
    · simp [mapTimer, BatchTimer.advance, BatchTimer.store, BatchTimer.increment, windowOf]

theorem IsTimed.handOutIfFull (timed : IsTimed timeout queued controller) :
    IsWindowed timeout
      (queued.drop (controller.handOutIfFull.1.toList.flatMap Batch.requests).length)
      controller.handOutIfFull.2 := by
  rcases handOutIfFull_cases controller with ⟨room, result⟩ | ⟨_, result⟩
  · rw [result]
    refine ⟨timed, ?_⟩
    rw [ActiveQueue.size, ← timed.requests, List.length_map] at room
    exact room
  · rw [result]
    exact timed.handOut

theorem IsWindowed.onTimeout (windowed : IsWindowed timeout queued controller)
    (generation : Nat) :
    let outcome := (controller.onTimeout generation).value
    IsWindowed timeout (queued.drop (outcome.1.toList.flatMap Batch.requests).length)
      outcome.2 := by
  intro outcome
  cases current : controller.buffer.timer.isCurrent generation with
  | true =>
      simp only [outcome, onTimeout_current current]
      exact windowed.toIsTimed.handOut
  | false =>
      simp only [outcome, onTimeout_stale current]
      exact windowed

theorem IsWindowed.processTimeouts (windowed : IsWindowed timeout queued controller) :
    let outcome := controller.processTimeouts.value
    IsWindowed timeout (queued.drop (outcome.1.flatMap Batch.requests).length) outcome.2 := by
  let leaves (batches : List (Batch (Request K P))) (next : Controller K P) :=
    IsWindowed timeout (queued.drop (batches.flatMap Batch.requests).length) next
  have step {batches : List (Batch (Request K P))} {next : Controller K P}
      (held : leaves batches next) (generation : Nat) :
      leaves (batches ++ (next.onTimeout generation).value.1.toList)
        (next.onTimeout generation).value.2 := by
    have acted := held.onTimeout generation
    simpa [leaves, List.drop_drop] using acted
  have drained : leaves [] { controller with signals := [] } :=
    windowed.sameQueue ⟨rfl, rfl, rfl⟩
  exact actOn_preserves step drained controller.signals

theorem IsNew.isWindowed {controller : Controller K P} (new : controller.IsNew) :
    IsWindowed controller.buffer.settings.timeout [] controller := by
  obtain ⟨settings, registration, positive, rfl⟩ := new.eq_around
  apply IsWindowed.of_empty
  exact ⟨positive, rfl, rfl, Nat.zero_le _, (ite_self none).symm⟩

/-! ## Calls and the queue -/

variable [DecidableEq K]

/-- A call leaves the queue as it is, or a request joins it and leaves with a full batch. -/
theorem perform_call_cases (controller : Controller K P) {operation : Operation K P}
    {now : Instant} (called : operation.calledAt? = some now) :
    ∃ other : Controller K P, controller.SameQueue other ∧
      ((controller.perform operation).value = ([], other) ∨
        ∃ request, (controller.perform operation).value =
          ((other.accept now request).handOutIfFull.1.toList,
            (other.accept now request).handOutIfFull.2)) := by
  cases operation with
  | submit instant request =>
      obtain rfl := Option.some.inj called
      simp only [perform, single, Telemetry.Noted.value_bind, Telemetry.Noted.value_pure]
      cases busy : controller.isInFlight request.key with
      | true =>
          rw [submit_busy busy]
          exact ⟨controller.withWaiting (controller.buffer.waiting.enqueue request),
            ⟨rfl, rfl, rfl⟩, .inl rfl⟩
      | false =>
          rw [submit_free busy]
          exact ⟨controller.occupy request.key, ⟨rfl, rfl, rfl⟩, .inr ⟨request, rfl⟩⟩
  | complete instant key =>
      obtain rfl := Option.some.inj called
      simp only [perform, single, Telemetry.Noted.value_bind, Telemetry.Noted.value_pure]
      rcases unblocked : controller.buffer.waiting.unblockOne key with ⟨next?, rest⟩
      cases next? with
      | none =>
          rw [complete_idle unblocked]
          exact ⟨(controller.withWaiting rest).release key, ⟨rfl, rfl, rfl⟩, .inl rfl⟩
      | some next =>
          rw [complete_waiting unblocked]
          exact ⟨controller.withWaiting rest, ⟨rfl, rfl, rfl⟩, .inr ⟨next, rfl⟩⟩
  | flush => simp [Operation.calledAt?] at called
  | onTimeout generation => simp [Operation.calledAt?] at called
  | processTimeouts => simp [Operation.calledAt?] at called
  | poll instant => simp [Operation.calledAt?] at called
  | signal generation => simp [Operation.calledAt?] at called

/-- The requests that join the active queue in an operation, whether they stay there or leave at
once, with the instant of the operation. -/
def joining (controller : Controller K P) (operation : Operation K P) :
    List (Instant × Request K P) :=
  match operation.calledAt? with
  | none => []
  | some now =>
      ((admitted (controller.perform operation).value).drop controller.buffer.active.size).map
        fun request => (now, request)

/-- The requests that join the active queue in a run, in order. -/
def arrivals (controller : Controller K P) : List (Operation K P) → List (Instant × Request K P)
  | [] => []
  | operation :: later =>
      controller.joining operation ++ (controller.perform operation).value.2.arrivals later

theorem joining_of_admitted {controller : Controller K P} {operation : Operation K P}
    {now : Instant} {requests : List (Request K P)} (called : operation.calledAt? = some now)
    (joined : admitted (controller.perform operation).value =
      controller.buffer.active.items ++ requests) :
    controller.joining operation = requests.map fun request => (now, request) := by
  simp [joining, called, joined, ActiveQueue.size]

theorem joining_of_silent {controller other : Controller K P} {operation : Operation K P}
    {now : Instant} (called : operation.calledAt? = some now) (same : controller.SameQueue other)
    (result : (controller.perform operation).value = ([], other)) :
    controller.joining operation = [] := by
  have joined : admitted (controller.perform operation).value =
      controller.buffer.active.items ++ [] := by
    simp [result, admitted, same.active]
  exact joining_of_admitted called joined

theorem joining_of_accept {controller other : Controller K P} {operation : Operation K P}
    {now : Instant} {request : Request K P} (called : operation.calledAt? = some now)
    (same : controller.SameQueue other)
    (result : (controller.perform operation).value =
      ((other.accept now request).handOutIfFull.1.toList,
        (other.accept now request).handOutIfFull.2)) :
    controller.joining operation = [(now, request)] := by
  have joined : admitted (controller.perform operation).value =
      controller.buffer.active.items ++ [request] := by
    rw [result, (HandsOut.of_handOutIfFull (other.accept now request)).requests, accept_items,
      same.active]
  exact joining_of_admitted called joined

/-! ## Runs -/

variable {timeout : Duration} {queued : List (Instant × Request K P)}
  {controller : Controller K P}

/-- An operation that is no call adds nothing to the queue. -/
theorem IsWindowed.silent (windowed : IsWindowed timeout queued controller)
    {operation : Operation K P} (silent : operation.calledAt? = none) :
    let outcome := (controller.perform operation).value
    queued.map Prod.snd = admitted outcome ∧
      IsWindowed timeout (queued.drop (outcome.1.flatMap Batch.requests).length) outcome.2 := by
  intro outcome
  have uncalled : operation.call? = none := by
    cases operation <;> simp [Operation.calledAt?, Operation.call?] at silent ⊢
  refine ⟨windowed.requests.trans (HandsOut.of_perform controller uncalled).requests.symm, ?_⟩
  cases operation with
  | submit now request => simp [Operation.calledAt?] at silent
  | complete now key => simp [Operation.calledAt?] at silent
  | flush =>
      simp only [outcome, perform_flush]
      exact windowed.toIsTimed.handOut
  | onTimeout generation => exact windowed.onTimeout generation
  | processTimeouts => exact windowed.processTimeouts
  | poll now =>
      obtain ⟨armed, current, unchanged⟩ :=
        BatchTimer.pollExpired_frame now controller.buffer.timer
      obtain ⟨⟨positive, configured, requests, fits, opened⟩, room⟩ := windowed
      rw [← current, ← armed] at opened
      exact ⟨⟨positive, unchanged.trans configured, requests, fits, opened⟩, room⟩
  | signal generation => exact windowed.sameQueue ⟨rfl, rfl, rfl⟩

/-- A call adds its request to the queue, with its own instant. -/
theorem IsWindowed.call (windowed : IsWindowed timeout queued controller)
    {operation : Operation K P} {now : Instant} (called : operation.calledAt? = some now) :
    let outcome := (controller.perform operation).value
    (queued ++ controller.joining operation).map Prod.snd = admitted outcome ∧
      IsWindowed timeout ((queued ++ controller.joining operation).drop
        (outcome.1.flatMap Batch.requests).length) outcome.2 := by
  intro outcome
  simp only [outcome]
  obtain ⟨other, same, result | ⟨request, result⟩⟩ := perform_call_cases controller called
  · rw [joining_of_silent called same result, result]
    simpa [windowed.requests, admitted, same.active] using windowed.sameQueue same
  · rw [joining_of_accept called same result, result,
      (HandsOut.of_handOutIfFull (other.accept now request)).requests]
    refine ⟨by simp [windowed.requests, same.active], ?_⟩
    exact ((windowed.sameQueue same).accept now request).handOutIfFull

theorem IsWindowed.perform (windowed : IsWindowed timeout queued controller)
    (operation : Operation K P) :
    let outcome := (controller.perform operation).value
    (queued ++ controller.joining operation).map Prod.snd = admitted outcome ∧
      IsWindowed timeout ((queued ++ controller.joining operation).drop
        (outcome.1.flatMap Batch.requests).length) outcome.2 := by
  cases called : operation.calledAt? with
  | none =>
      have nobody : controller.joining operation = [] := by simp [joining, called]
      rw [nobody, List.append_nil]
      exact windowed.silent called
  | some now => exact windowed.call called

/-- After a run, the window is that of the requests that have joined and not left. -/
theorem IsWindowed.run (windowed : IsWindowed timeout queued controller)
    (operations : List (Operation K P)) :
    let outcome := (controller.run operations).value
    (queued ++ controller.arrivals operations).map Prod.snd = admitted outcome ∧
      IsWindowed timeout ((queued ++ controller.arrivals operations).drop
        (outcome.1.flatMap Batch.requests).length) outcome.2 := by
  induction operations generalizing queued controller with
  | nil => simpa [Controller.run, arrivals, admitted, windowed.requests] using windowed
  | cons operation later ih =>
      intro outcome
      obtain ⟨joined, next⟩ := windowed.perform operation
      obtain ⟨others, last⟩ := ih next
      let first := (controller.perform operation).value
      let rest := (first.2.run later).value
      let here := queued ++ controller.joining operation
      let released := first.1.flatMap Batch.requests
      have result : outcome = (first.1 ++ rest.1, rest.2) := rfl
      have whole : queued ++ controller.arrivals (operation :: later) =
          here ++ first.2.arrivals later := by
        simp [here, first, arrivals]
      have gone : (here.take released.length).map Prod.snd = released := by
        rw [List.map_take, joined, admitted, List.take_left]
      have enough : released.length ≤ here.length := by
        have counted := congrArg List.length joined
        simp only [List.length_map, admitted, List.length_append] at counted
        simp only [here, released, first, List.length_append]
        omega
      have left : here.drop released.length ++ first.2.arrivals later =
          (here ++ first.2.arrivals later).drop released.length :=
        (List.drop_append_of_le_length enough).symm
      rw [whole, result]
      constructor
      · calc
          (here ++ first.2.arrivals later).map Prod.snd
              = (here.take released.length).map Prod.snd ++
                  (here.drop released.length ++ first.2.arrivals later).map Prod.snd := by
                rw [← List.map_append, ← List.append_assoc, List.take_append_drop]
          _ = released ++ admitted rest := by
                rw [gone]
                exact congrArg (released ++ ·) others
          _ = admitted (first.1 ++ rest.1, rest.2) := (admitted_append _ _ _).symm
      · rw [List.flatMap_append, List.length_append, ← List.drop_drop, ← left]
        exact last

/-! ## The window of the oldest request -/

/-- After any run of a new controller, its window is open exactly while a request is queued, if
it has a timeout at all.  The window is that of the generation in progress and counts from the
instant at which the request at the head of the queue joined. -/
theorem run_window_of_oldest {controller : Controller K P} (new : controller.IsNew)
    (operations : List (Operation K P)) :
    let outcome := (controller.run operations).value
    let timer := outcome.2.buffer.timer
    let queued := (controller.arrivals operations).drop (outcome.1.flatMap Batch.requests).length
    let timeout := controller.buffer.settings.timeout
    (controller.arrivals operations).map Prod.snd = admitted outcome ∧
      queued.map Prod.snd = outcome.2.buffer.active.items ∧
      (timeout ≠ 0 → (timer.isArmed = true ↔ outcome.2.buffer.active.items ≠ [])) ∧
      (∀ window, timer.armed = some window → window.generation = timer.current ∧
        ∃ now request, queued.head? = some (now, request) ∧
          outcome.2.buffer.active.items.head? = some request ∧
          window.deadline = now + timeout) ∧
      (timeout = 0 → timer.armed = none) := by
  intro outcome timer queued timeout
  obtain ⟨joined, windowed⟩ := new.isWindowed.run operations
  rw [List.nil_append] at joined windowed
  have requests : queued.map Prod.snd = outcome.2.buffer.active.items := windowed.requests
  have armed : timer.armed = windowOf timeout timer.current queued := windowed.armed
  refine ⟨joined, requests, ?_, ?_, ?_⟩
  · intro enabled
    rw [BatchTimer.isArmed, armed, windowOf_isSome enabled, ← requests, ne_eq, ne_eq,
      List.map_eq_nil_iff]
  · intro window isOpen
    rw [armed] at isOpen
    obtain ⟨oldest, first, rfl⟩ := windowOf_eq_some isOpen
    refine ⟨rfl, oldest.1, oldest.2, first, ?_, rfl⟩
    rw [← requests, List.head?_map, first, Option.map_some]
  · intro disabled
    rw [armed, windowOf, if_pos disabled]

/-- A batch leaves when it is full, an old signal and a completion out of turn do nothing, and
the window counts from the request that came first after the batch. -/
theorem run_window_of_oldest_second_window :
    let first : Request Nat String := ⟨7, .usual, "first"⟩
    let second : Request Nat String := ⟨8, .usual, "second"⟩
    let third : Request Nat String := ⟨7, .usual, "third"⟩
    let settings : ControllerSettings := { batchSize := 2, buffer := { timeout := 100 } }
    let controller : Controller Nat String := around settings (.empty settings.buffer none)
    let operations : List (Operation Nat String) :=
      [.submit 0 first, .submit 3 third, .submit 5 second, .complete 8 9, .complete 20 7,
        .onTimeout 0, .poll 60]
    let outcome := (controller.run operations).value
    let queued := (controller.arrivals operations).drop (outcome.1.flatMap Batch.requests).length
    controller.IsNew ∧
      outcome.1.map Batch.requests = [[first, second]] ∧
      outcome.2.buffer.active.items = [third] ∧
      outcome.2.buffer.timer.armed = some ⟨1, 120⟩ ∧
      ∃ now request, queued.head? = some (now, request) ∧
        outcome.2.buffer.active.items.head? = some request ∧
        120 = now + controller.buffer.settings.timeout := by
  intro first second third settings controller operations outcome queued
  have new : controller.IsNew := .unwatched settings rfl
  have left : outcome.1.map Batch.requests = [[first, second]] := by decide
  have stays : outcome.2.buffer.active.items = [third] := by decide
  have armed : (controller.run operations).value.2.buffer.timer.armed = some ⟨1, 120⟩ := by
    decide
  have windows := run_window_of_oldest new operations
  have counted := (windows.2.2.2.1 ⟨1, 120⟩ armed).2
  refine ⟨new, left, stays, ?_, ?_⟩
  · simp only [outcome]
    exact armed
  · simp only [queued, outcome]
    exact counted

end Controller

end KeyedBatching
