import KeyedBatching.Proofs.BatchWindows

/-!
# Sizes and numbers of batches

All batches leave through one door, which takes what is queued and starts the next
generation.  Between two operations the queue is shorter than a batch, so the door
always takes the whole queue.  Hence no batch is empty or too long, a batch that a
call fills ends with the request that the call admitted, and the generations count
the batches without a gap.  A counter in a word does the same as long as fewer than
`wordLimit` batches have left.
-/

namespace KeyedBatching

variable {K P : Type}

namespace Controller

/-! ## The whole queue leaves -/

/-- From a queue that fits into a batch everything leaves. -/
theorem handOut_whole {controller : Controller K P}
    (fits : controller.buffer.active.size ≤ controller.batchSize) :
    (controller.buffer.active.items = [] ∧ controller.handOut = (none, controller)) ∨
      controller.buffer.active.items ≠ [] ∧
        controller.handOut.1 =
          some ⟨controller.buffer.active.items, controller.buffer.timer.current⟩ ∧
        controller.handOut.2.buffer.active.items = [] := by
  have whole : controller.buffer.active.items.take controller.batchSize =
      controller.buffer.active.items := List.take_of_length_le fits
  rcases handOut_cases controller with ⟨nothing, result⟩ | ⟨batch, leaves, result⟩
  · have empty := nextBatch?_eq_none_iff.mp nothing
    rw [whole] at empty
    exact .inl ⟨empty, result⟩
  · obtain ⟨something, rfl⟩ := nextBatch?_eq_some_iff.mp leaves
    rw [whole] at something
    refine .inr ⟨something, ?_, ?_⟩
    · rw [result, whole]
    · rw [result]
      exact List.drop_of_length_le fits

theorem handOut_items {controller : Controller K P}
    (fits : controller.buffer.active.size ≤ controller.batchSize) :
    controller.handOut.2.buffer.active.items = [] := by
  rcases handOut_whole fits with ⟨empty, result⟩ | ⟨_, _, empty⟩
  · rw [result]
    exact empty
  · exact empty

/-- A request that joins a queue with room fills a batch of full size, or none leaves. -/
theorem accept_handOutIfFull {controller : Controller K P}
    (room : controller.buffer.active.size < controller.batchSize) (now : Instant)
    {request : Request K P} {batch : Batch (Request K P)}
    (left : (controller.accept now request).handOutIfFull.1 = some batch) :
    batch.size = controller.batchSize ∧ batch.requests.getLast? = some request ∧
      (controller.accept now request).handOutIfFull.2.buffer.active.items = [] := by
  let joined := controller.accept now request
  have grown : joined.buffer.active.size = controller.buffer.active.size + 1 := by
    simp [joined, ActiveQueue.size]
  have sameSize : joined.batchSize = controller.batchSize := rfl
  have fits : joined.buffer.active.size ≤ joined.batchSize := by omega
  rcases handOutIfFull_cases joined with ⟨_, result⟩ | ⟨full, result⟩
  · simp [joined, result] at left
  · rw [result] at left ⊢
    have leaves : joined.handOut.1 =
        some ⟨joined.buffer.active.items, joined.buffer.timer.current⟩ := by
      rcases handOut_whole fits with ⟨_, nothing⟩ | ⟨_, whole, _⟩
      · simp [joined, nothing] at left
      · exact whole
    obtain rfl := Option.some.inj (leaves.symm.trans left)
    refine ⟨?_, ?_, handOut_items fits⟩
    · change joined.buffer.active.size = controller.batchSize
      omega
    · simp [joined]

/-! ## Numbers -/

/-- The batches so far are numbered by their generations and keep to the size of a batch. -/
structure IsNumbered (limit : Nat) (batches : List (Batch (Request K P)))
    (controller : Controller K P) : Prop where
  batchSize : controller.batchSize = limit
  current : controller.buffer.timer.current = batches.length
  numbers : batches.map Batch.generation = List.range batches.length
  sizes : ∀ batch ∈ batches, batch.requests ≠ [] ∧ batch.size ≤ limit

namespace IsNumbered

variable {limit : Nat} {batches : List (Batch (Request K P))} {controller other : Controller K P}

theorem congr (numbered : IsNumbered limit batches controller)
    (batchSize : other.batchSize = controller.batchSize)
    (current : other.buffer.timer.current = controller.buffer.timer.current) :
    IsNumbered limit batches other := by
  obtain ⟨same, counts, numbers, sizes⟩ := numbered
  exact ⟨batchSize.trans same, current.trans counts, numbers, sizes⟩

theorem accept (numbered : IsNumbered limit batches controller) (now : Instant)
    (request : Request K P) : IsNumbered limit batches (controller.accept now request) :=
  numbered.congr rfl (BatchTimer.armIfIdle_frame now controller.buffer.timer).1

theorem handOut (numbered : IsNumbered limit batches controller) :
    IsNumbered limit (batches ++ controller.handOut.1.toList) controller.handOut.2 := by
  rcases handOut_cases controller with ⟨_, result⟩ | ⟨batch, leaves, result⟩
  · rw [result]
    simpa using numbered
  · obtain ⟨something, rfl⟩ := nextBatch?_eq_some_iff.mp leaves
    obtain ⟨batchSize, current, numbers, sizes⟩ := numbered
    rw [result]
    constructor
    · exact batchSize
    · simp [mapTimer, dropBatch, withActive, BatchTimer.advance, BatchTimer.store,
        BatchTimer.increment, current]
    · simp [numbers, current, List.range_succ]
    · intro batch member
      rcases List.mem_append.mp member with before | last
      · exact sizes batch before
      · obtain rfl := List.mem_singleton.mp last
        refine ⟨something, ?_⟩
        rw [Batch.size, List.length_take, batchSize]
        exact Nat.min_le_left _ _

theorem handOutIfFull (numbered : IsNumbered limit batches controller) :
    IsNumbered limit (batches ++ controller.handOutIfFull.1.toList)
      controller.handOutIfFull.2 := by
  rcases handOutIfFull_cases controller with ⟨_, result⟩ | ⟨_, result⟩
  · rw [result]
    simpa using numbered
  · rw [result]
    exact numbered.handOut

theorem onTimeout (numbered : IsNumbered limit batches controller) (generation : Nat) :
    IsNumbered limit (batches ++ (controller.onTimeout generation).value.1.toList)
      (controller.onTimeout generation).value.2 := by
  cases current : controller.buffer.timer.isCurrent generation with
  | true =>
      rw [onTimeout_current current]
      exact numbered.handOut
  | false =>
      rw [onTimeout_stale current]
      simpa using numbered

variable [DecidableEq K]

theorem call (numbered : IsNumbered limit batches controller) {operation : Operation K P}
    {now : Instant} (called : operation.calledAt? = some now) :
    IsNumbered limit (batches ++ (controller.perform operation).value.1)
      (controller.perform operation).value.2 := by
  obtain ⟨other, same, result | ⟨request, result⟩⟩ := perform_call_cases controller called
  all_goals
    have kept : IsNumbered limit batches other :=
      numbered.congr same.batchSize (congrArg BatchTimer.current same.timer)
    rw [result]
  · simpa using kept
  · exact (kept.accept now request).handOutIfFull

theorem perform (numbered : IsNumbered limit batches controller) (operation : Operation K P) :
    IsNumbered limit (batches ++ (controller.perform operation).value.1)
      (controller.perform operation).value.2 := by
  cases operation with
  | submit now request => exact numbered.call rfl
  | complete now key => exact numbered.call rfl
  | flush =>
      rw [perform_flush]
      exact numbered.handOut
  | onTimeout generation => exact numbered.onTimeout generation
  | processTimeouts =>
      have drained : IsNumbered limit batches { controller with signals := [] } :=
        numbered.congr rfl rfl
      exact actOn_preserves (fun held => held.onTimeout) drained controller.signals
  | poll now =>
      have polled := (BatchTimer.pollExpired_frame now controller.buffer.timer).2.1
      have kept : IsNumbered limit batches (controller.perform (.poll now)).value.2 :=
        numbered.congr rfl polled
      simpa [Controller.perform] using kept
  | signal generation =>
      have kept : IsNumbered limit batches (controller.perform (.signal generation)).value.2 :=
        numbered.congr rfl rfl
      simpa [Controller.perform] using kept

end IsNumbered

theorem IsNew.isNumbered {controller : Controller K P} (new : controller.IsNew) :
    IsNumbered controller.batchSize [] controller := by
  obtain ⟨settings, registration, _, rfl⟩ := new.eq_around
  exact ⟨rfl, rfl, rfl, by simp⟩

variable [DecidableEq K]

theorem IsNew.isNumbered_run {controller : Controller K P} (new : controller.IsNew)
    (operations : List (Operation K P)) :
    IsNumbered controller.batchSize (controller.run operations).value.1
      (controller.run operations).value.2 := by
  let numbers := fun (_ : List (Operation K P)) =>
    IsNumbered (K := K) (P := P) controller.batchSize
  have start : numbers [] [] controller := new.isNumbered
  exact run_preserves (fun held => held.perform) start operations

/-! ## Between two operations -/

theorem IsNew.room_run {controller : Controller K P} (new : controller.IsNew)
    (operations : List (Operation K P)) :
    (controller.run operations).value.2.buffer.active.size <
      (controller.run operations).value.2.batchSize := by
  obtain ⟨_, windowed⟩ := new.isWindowed.run operations
  rw [ActiveQueue.size, ← windowed.requests, List.length_map]
  exact windowed.room

variable {controller : Controller K P}

omit [DecidableEq K] in
theorem onTimeout_items (fits : controller.buffer.active.size ≤ controller.batchSize)
    (generation : Nat) :
    (controller.onTimeout generation).value = (none, controller) ∨
      (controller.onTimeout generation).value.2.buffer.active.items = [] := by
  cases current : controller.buffer.timer.isCurrent generation with
  | true =>
      rw [onTimeout_current current]
      exact .inr (handOut_items fits)
  | false => exact .inl (onTimeout_stale current)

omit [DecidableEq K] in
theorem processTimeouts_items (fits : controller.buffer.active.size ≤ controller.batchSize)
    (left : controller.processTimeouts.value.1 ≠ []) :
    controller.processTimeouts.value.2.buffer.active.items = [] := by
  let keeps (batches : List (Batch (Request K P))) (next : Controller K P) :=
    next.buffer.active.size ≤ next.batchSize ∧
      (batches ≠ [] → next.buffer.active.items = [])
  have step {batches : List (Batch (Request K P))} {next : Controller K P}
      (held : keeps batches next) (generation : Nat) :
      keeps (batches ++ (next.onTimeout generation).value.1.toList)
        (next.onTimeout generation).value.2 := by
    rcases onTimeout_items held.1 generation with nothing | empty
    · rw [nothing]
      simpa using held
    · refine ⟨?_, fun _ => empty⟩
      rw [ActiveQueue.size, empty]
      exact Nat.zero_le _
  have start : keeps [] { controller with signals := [] } := ⟨fits, fun some => absurd rfl some⟩
  exact (actOn_preserves step start controller.signals).2 left

/-- Whatever operation gives a batch leaves nothing queued. -/
theorem perform_items (room : controller.buffer.active.size < controller.batchSize)
    (operation : Operation K P) (left : (controller.perform operation).value.1 ≠ []) :
    (controller.perform operation).value.2.buffer.active.items = [] := by
  have called {now : Instant} (called : operation.calledAt? = some now) :
      (controller.perform operation).value.2.buffer.active.items = [] := by
    obtain ⟨other, same, result | ⟨request, result⟩⟩ := perform_call_cases controller called
    · simp [result] at left
    · rw [← same.active, ← same.batchSize] at room
      rw [result] at left ⊢
      obtain ⟨batch, leaves⟩ := Option.ne_none_iff_exists'.mp (mt Option.toList_eq_nil_iff.mpr left)
      exact (accept_handOutIfFull room now leaves).2.2
  cases operation with
  | submit now request => exact called rfl
  | complete now key => exact called rfl
  | flush =>
      rw [perform_flush]
      exact handOut_items (Nat.le_of_lt room)
  | onTimeout generation =>
      rcases onTimeout_items (Nat.le_of_lt room) generation with nothing | empty
      · simp [perform, single, nothing] at left
      · exact empty
  | processTimeouts => exact processTimeouts_items (Nat.le_of_lt room) left
  | poll now => exact absurd rfl left
  | signal generation => exact absurd rfl left

theorem submit_filled (room : controller.buffer.active.size < controller.batchSize)
    {now : Instant} {request : Request K P} {batch : Batch (Request K P)}
    (left : (controller.submit now request).value.1 = some batch) :
    batch.size = controller.batchSize ∧ batch.requests.getLast? = some request := by
  cases busy : controller.isInFlight request.key with
  | true => simp [submit_busy busy] at left
  | false =>
      rw [submit_free busy] at left
      have occupied : (controller.occupy request.key).buffer.active.size <
          (controller.occupy request.key).batchSize := room
      obtain ⟨full, last, _⟩ := accept_handOutIfFull occupied now left
      exact ⟨full, last⟩

theorem complete_filled (room : controller.buffer.active.size < controller.batchSize)
    {now : Instant} {key : K} {batch : Batch (Request K P)}
    (left : (controller.complete now key).value.1 = some batch) :
    batch.size = controller.batchSize ∧
      ∃ next, (controller.buffer.waiting.waitersOf key).head? = some next ∧
        batch.requests.getLast? = some next := by
  have first := WaitingRoom.unblockOne_fst controller.buffer.waiting key
  rcases taken : controller.buffer.waiting.unblockOne key with ⟨next?, rest⟩
  rw [taken] at first
  cases next? with
  | none => simp [complete_idle taken] at left
  | some next =>
      rw [complete_waiting taken] at left
      have promoted : (controller.withWaiting rest).buffer.active.size <
          (controller.withWaiting rest).batchSize := room
      obtain ⟨full, last, _⟩ := accept_handOutIfFull promoted now left
      exact ⟨full, next, first.symm, last⟩

/-! ## Runs -/

/-- After any run of a new controller the queue is shorter than a batch, and every batch so far is
neither empty nor too long.  The generations of the batches are their numbers from zero on, and
the generation in progress is the number of the next one.  Of whatever comes next, an operation
that returns a batch leaves nothing queued, a batch that a call returns is full and ends with the
request that the call admitted, and a flush or a signal that returns none changes nothing. -/
theorem run_numbers_batches {controller : Controller K P} (new : controller.IsNew)
    (operations : List (Operation K P)) :
    let batches := (controller.run operations).value.1
    let reached := (controller.run operations).value.2
    let limit := controller.batchSize
    (reached.buffer.active.size < limit ∧
        (∀ batch ∈ batches, batch.requests ≠ [] ∧ batch.size ≤ limit) ∧
        batches.map Batch.generation = List.range batches.length ∧
        reached.buffer.timer.current = batches.length) ∧
      (∀ operation, (reached.perform operation).value.1 ≠ [] →
        (reached.perform operation).value.2.buffer.active.items = []) ∧
      (∀ now request batch, (reached.submit now request).value.1 = some batch →
        batch.size = limit ∧ batch.requests.getLast? = some request) ∧
      (∀ now key batch, (reached.complete now key).value.1 = some batch →
        batch.size = limit ∧
          ∃ next, (reached.buffer.waiting.waitersOf key).head? = some next ∧
            batch.requests.getLast? = some next) ∧
      (reached.flush.value.1 = none → reached.flush.value.2 = reached) ∧
      ∀ generation, (reached.onTimeout generation).value.1 = none →
        (reached.onTimeout generation).value.2 = reached := by
  intro batches reached limit
  have room : reached.buffer.active.size < reached.batchSize := new.room_run operations
  have numbered : IsNumbered limit batches reached := new.isNumbered_run operations
  have unchanged (nothing : reached.handOut.1 = none) : reached.handOut.2 = reached := by
    rcases handOut_cases reached with ⟨_, result⟩ | ⟨batch, _, result⟩
    · rw [result]
    · simp [result] at nothing
  refine ⟨⟨numbered.batchSize ▸ room, numbered.sizes, numbered.numbers, numbered.current⟩,
    fun operation => perform_items room operation, ?_, ?_, ?_, ?_⟩
  · intro now request batch left
    exact numbered.batchSize ▸ submit_filled room left
  · intro now key batch left
    exact numbered.batchSize ▸ complete_filled room left
  · rw [flush_value]
    exact unchanged
  · intro generation nothing
    cases current : reached.buffer.timer.isCurrent generation with
    | true =>
        rw [onTimeout_current current] at nothing ⊢
        exact unchanged nothing
    | false => rw [onTimeout_stale current]

/-- A full batch, a batch of one on the signal of its generation, a flush and an old signal that
find nothing to hand out, and a batch that is filled next. -/
theorem run_numbers_batches_refilled :
    let first : Request Nat String := ⟨7, .usual, "first"⟩
    let second : Request Nat String := ⟨8, .usual, "second"⟩
    let waiter : Request Nat String := ⟨7, .least, "waiter"⟩
    let fourth : Request Nat String := ⟨9, .usual, "fourth"⟩
    let fifth : Request Nat String := ⟨6, .usual, "fifth"⟩
    let settings : ControllerSettings := { batchSize := 2, buffer := { timeout := 100 } }
    let controller : Controller Nat String := around settings (.empty settings.buffer none)
    let operations : List (Operation Nat String) :=
      [.submit 0 first, .submit 1 waiter, .submit 2 second, .complete 3 7, .onTimeout 1, .flush,
        .onTimeout 0, .submit 4 fourth]
    let batches := (controller.run operations).value.1
    let reached := (controller.run operations).value.2
    let filled : Batch (Request Nat String) := ⟨[fourth, fifth], 2⟩
    controller.IsNew ∧ batches.map Batch.requests = [[first, second], [waiter]] ∧
      (reached.submit 5 fifth).value.1 = some filled ∧
      batches.map Batch.generation = List.range batches.length ∧
      reached.buffer.timer.current = batches.length ∧
      filled.size = controller.batchSize ∧ filled.requests.getLast? = some fifth := by
  intro first second waiter fourth fifth settings controller operations batches reached filled
  have new : controller.IsNew := .unwatched settings rfl
  have whole : batches.map Batch.requests = [[first, second], [waiter]] := by decide
  have left : ((controller.run operations).value.2.submit 5 fifth).value.1 =
      some ⟨[fourth, fifth], 2⟩ := by decide
  obtain ⟨⟨_, _, numbers, current⟩, _, submits, _⟩ := run_numbers_batches new operations
  refine ⟨new, whole, ?_, ?_, ?_, submits 5 fifth _ left⟩
  · simp only [reached]
    exact left
  · simp only [batches]
    exact numbers
  · simp only [batches, reached]
    exact current

end Controller

end KeyedBatching
