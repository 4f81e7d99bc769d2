import KeyedBatching.Proofs.ControllerRuns
import KeyedBatching.Proofs.InterleavingInvariant

/-!
# The steps of owner and ticker preserve the invariant

Most steps of the owner happen at rest and leave the history to the timer.  The
two delicate ones are the departure of a batch, which is on its way from the
moment its requests leave the queue until its generation ends, and the action on
a signal, which finds the requests of a current generation still queued.  The
ticker may report the window of a batch on its way, and the signal is then stale
as soon as it can be acted on.
-/

namespace KeyedBatching

namespace WatchedController

variable {K P : Type} {system : WatchedController K P} {timeout : Duration}

/-! ## Steps of the owner -/

theorem IsSound.holdsIn (sound : system.IsSound timeout) {phase : OwnerPhase K P}
    (stands : system.owner = phase) : system.HoldsIn phase := by
  rw [← stands]
  exact sound.phase

theorem IsSound.isPending (sound : system.IsSound timeout) {phase : OwnerPhase K P}
    (stands : system.owner = phase) (idle : ¬ phase.IsFlushing)
    (reported : system.timer.reported = system.timer.current + 1) :
    system.IsPending system.timer.current := by
  rw [← stands] at idle
  exact (sound.awaited reported).resolve_left idle

/-- Only the queue, the timer, the size of a batch and the signals of a controller matter. -/
theorem IsSound.withController (sound : system.IsSound timeout) {controller : Controller K P}
    (active : controller.buffer.active = system.controller.buffer.active)
    (timer : controller.buffer.timer = system.controller.buffer.timer)
    (batchSize : controller.batchSize = system.controller.batchSize)
    (signals : controller.signals = system.controller.signals) :
    { system with controller }.IsSound timeout := by
  obtain ⟨⟨_, waiting, _, settings, registration⟩, inFlight, _, _⟩ := controller
  obtain rfl : _ = system.controller.buffer.active := active
  obtain rfl : _ = system.controller.buffer.timer := timer
  obtain rfl : _ = system.controller.batchSize := batchSize
  obtain rfl : _ = system.controller.signals := signals
  refine { sound with phase := ?_ }
  exact sound.phase.congr rfl rfl rfl rfl rfl rfl fun _ noted => noted

theorem IsSound.join (sound : system.IsSound timeout) (resting : system.owner = .resting)
    (now : Instant) (request : Request K P) : (system.join now request).IsSound timeout := by
  have settled : system.IsSettled := sound.holdsIn resting
  have moved : { system with
      controller := system.controller.join request
      owner := .joining now }.IsTraced timeout := { sound with }
  have traced : (system.join now request).IsTraced timeout := moved.note rfl
  have joined : joinedIn system.timer.current (system.join now request).history =
      joinedIn system.timer.current system.history ++ [(now, request)] :=
    joinedIn_joined _ _ _ _
  refine { traced with phase := ?_, awaited := ?_ }
  · refine ⟨?_, ?_, ?_, settled.closed_iff.mpr ∘ .inl, ?_⟩
    · change (system.queue ++ [request]).length ≤ system.controller.batchSize
      rw [List.length_append]
      exact settled.room
    · change (joinedIn system.timer.current _).map Prod.snd = system.queue ++ [request]
      rw [joined, List.map_append, settled.queued]
      rfl
    · exact List.append_ne_nil_of_right_ne_nil _ (List.cons_ne_nil _ _)
    · intro closed
      refine (settled.closed_iff.mp closed).imp_right fun empty => ⟨request, ?_⟩
      have none : joinedIn system.timer.current system.history = [] := by
        rw [← List.map_eq_nil_iff, settled.queued, empty]
      exact joined.trans (by rw [none, List.nil_append])
  · intro reported
    exact .inr (sound.isPending resting id reported)

/-- The owner goes on at rest or in its round. -/
theorem IsSettled.resume (settled : system.IsSettled) (batch : Option (Batch (Request K P)))
    (cause : FlushCause K P) : system.HoldsIn (cause.resume batch) := by
  cases cause with
  | call => exact settled
  | received generation => exact settled
  | drained generation batches => exact settled

/-- The whole queue leaves, or there was none. -/
theorem IsTraced.pop (traced : system.IsTraced timeout) {cause : FlushCause K P}
    (fits : system.queue.length ≤ system.controller.batchSize)
    (queued : (joinedIn system.timer.current system.history).map Prod.snd = system.queue)
    (caused : ∀ generation, cause.signal? = some generation →
      generation = system.timer.current ∧ ∃ now, .reported generation now ∈ system.history)
    (idle : system.queue = [] → system.IsSettled ∧
      (system.timer.reported = system.timer.current + 1 →
        system.IsPending system.timer.current)) :
    (system.pop cause).IsSound timeout := by
  have whole : system.queue.take system.controller.batchSize = system.queue :=
    List.take_of_length_le fits
  cases next : system.controller.nextBatch? with
  | none =>
      have empty : system.queue = [] :=
        whole.symm.trans (Controller.nextBatch?_eq_none_iff.mp next)
      obtain ⟨settled, pending⟩ := idle empty
      have stays : system.pop cause = { system with owner := cause.resume none } := by
        simp only [WatchedController.pop, next]
      rw [stays]
      refine { traced with phase := ?_, awaited := ?_ }
      · have resumed := settled.resume none cause
        exact resumed.congr rfl rfl rfl rfl rfl rfl fun _ noted => noted
      · intro reported
        exact .inr (pending reported)
  | some batch =>
      obtain ⟨_, rfl⟩ := Controller.nextBatch?_eq_some_iff.mp next
      have leaves : system.pop cause = { system with
          controller := system.controller.dropBatch
          owner := .popped ⟨system.queue.take system.controller.batchSize,
            system.timer.current⟩ cause } := by
        simp only [WatchedController.pop, next]
      rw [leaves]
      refine { traced with phase := ?_, awaited := ?_ }
      · refine ⟨?_, ?_, rfl, caused⟩
        · exact List.drop_of_length_le fits
        · exact queued.trans whole.symm
      · intro reported
        exact .inl trivial

theorem IsSound.flush (sound : system.IsSound timeout) (resting : system.owner = .resting) :
    (system.pop .call).IsSound timeout := by
  have settled : system.IsSettled := sound.holdsIn resting
  refine sound.toIsTraced.pop (Nat.le_of_lt settled.room) settled.queued ?_ ?_
  · intro generation signalled
    cases signalled
  · intro empty
    exact ⟨settled, sound.isPending resting id⟩

/-- The window that the first request of a generation opens counts from that request. -/
theorem IsTraced.openWindow (traced : system.IsTraced timeout) {now : Instant}
    (joining : system.IsJoining now) :
    ∃ window?, system.controller.openWindow now =
        system.controller.mapTimer (BatchTimer.store window?) ∧
      { system with
        controller := system.controller.mapTimer (BatchTimer.store window?) }.IsTraced timeout ∧
      (window? = none ↔ system.timer.timeout = 0) := by
  rcases BatchTimer.armIfIdle_cases now system.timer with ⟨kept, same⟩ | ⟨enabled, idle, opened⟩
  · refine ⟨system.timer.armed, ?_, { traced with }, ?_, joining.closed⟩
    · rw [Controller.openWindow, Controller.mapTimer, same]
      rfl
    · intro closed
      exact kept.resolve_right fun armed => armed closed
  · obtain ⟨request, alone⟩ := (joining.first idle).resolve_left enabled
    let window : Window := ⟨system.timer.current, now + system.timer.timeout⟩
    have opens : Opens timeout window system.history := by
      refine ⟨(now, request), ?_, ?_⟩
      · change (joinedIn system.timer.current system.history).head? = _
        rw [alone]
        rfl
      · rw [← traced.configured]
    refine ⟨some window, ?_, { traced with window := ?_ }, ?_⟩
    · rw [Controller.openWindow, Controller.mapTimer, opened]
      rfl
    · intro other armed
      obtain rfl := Option.some.inj armed
      exact ⟨rfl, opens⟩
    · exact iff_of_false (Option.some_ne_none _) enabled

theorem IsSound.openWindow (sound : system.IsSound timeout) {now : Instant}
    (joining : system.owner = .joining now) : (system.openWindow now).IsSound timeout := by
  have joined : system.IsJoining now := sound.holdsIn joining
  obtain ⟨window?, changed, traced, closed⟩ := sound.toIsTraced.openWindow joined
  obtain ⟨fits, queued, filled, _, _⟩ := joined
  rcases openWindow_cases now system with ⟨room, result⟩ | ⟨full, result⟩
  · rw [result, changed]
    refine { traced with phase := ?_, awaited := ?_ }
    · refine ⟨room, queued, ?_⟩
      change window? = none ↔ system.timer.timeout = 0 ∨ system.queue = []
      rw [closed, or_iff_left filled]
    · intro reported
      exact .inr (sound.isPending joining id reported)
  · rw [result, changed]
    refine traced.pop fits queued ?_ ?_
    · intro generation signalled
      cases signalled
    · intro empty
      exact absurd empty filled

theorem IsSound.closeWindow (sound : system.IsSound timeout) {batch : Batch (Request K P)}
    {cause : FlushCause K P} (popped : system.owner = .popped batch cause) :
    { system with
      controller := system.controller.mapTimer (BatchTimer.store none)
      owner := .closed batch cause }.IsSound timeout := by
  have flushing : system.IsFlushing batch cause := sound.holdsIn popped
  refine { sound with window := ?_, phase := ⟨{ flushing with }, rfl⟩, awaited := ?_ }
  · intro window armed
    cases armed
  · intro reported
    exact .inl trivial

theorem IsSound.advance (sound : system.IsSound timeout) {batch : Batch (Request K P)}
    {cause : FlushCause K P} (closed : system.owner = .closed batch cause) :
    ({ system with
      controller := system.controller.mapTimer BatchTimer.increment
      owner := cause.resume (some batch) }.note
        (.returned cause.signal? batch)).IsSound timeout := by
  obtain ⟨flushing, shut⟩ : system.IsFlushing batch cause ∧ system.timer.armed = none :=
    sound.holdsIn closed
  let advanced : WatchedController K P := { system with
    controller := system.controller.mapTimer BatchTimer.increment
    owner := cause.resume (some batch) }
  have moved : advanced.IsTraced timeout := by
    refine { sound with window := ?_, joins := ?_, mark := ?_, returns := ?_, held := ?_ }
    · intro window armed
      have none : some window = none := armed.symm.trans shut
      cases none
    · intro generation ahead
      exact sound.joins generation (Nat.lt_of_succ_lt ahead)
    · exact Nat.le_succ_of_le sound.mark
    · intro signal earlier noted
      exact Nat.lt_succ_of_lt (sound.returns signal earlier noted)
    · intro window holds
      obtain ⟨bound, opens⟩ := sound.held window holds
      exact ⟨Nat.le_succ_of_le bound, opens⟩
  have admitted : advanced.Admits timeout (.returned cause.signal? batch) := by
    change batch.generation < system.timer.current + 1
    rw [flushing.current]
    exact Nat.lt_succ_self _
  have settled : (advanced.note (.returned cause.signal? batch)).IsSettled := by
    refine ⟨?_, ?_, iff_of_true shut (.inr flushing.empty)⟩
    · change system.queue.length < system.controller.batchSize
      rw [flushing.empty]
      exact sound.positive
    · change (joinedIn (system.timer.current + 1)
        (system.history ++ [.returned cause.signal? batch])).map Prod.snd = system.queue
      rw [joinedIn_of_silent rfl, sound.joins _ (Nat.lt_succ_self _), flushing.empty]
      rfl
  refine { moved.note admitted with phase := settled.resume (some batch) cause, awaited := ?_ }
  -- The new generation cannot have been reported, whatever the ticker has still in hand.
  intro reported
  have beyond : system.timer.reported = system.timer.current + 1 + 1 := reported
  have mark := sound.mark
  omega

/-- Something has joined during a generation that was reported. -/
theorem IsTraced.joinedIn_ne_nil (traced : system.IsTraced timeout) {generation : Nat}
    {now : Instant} (reported : .reported generation now ∈ system.history) :
    joinedIn generation system.history ≠ [] := by
  obtain ⟨_, first, head, _⟩ := traced.reports generation now reported
  intro nothing
  rw [nothing] at head
  cases head

/-- A signal is acted on.  If it is current, what joined during its generation is still queued,
and leaves. -/
theorem IsTraced.act (traced : system.IsTraced timeout) (settled : system.HoldsIn .resting)
    {cause : FlushCause K P} {generation : Nat} (signalled : cause.signal? = some generation)
    (reported : ∃ now, .reported generation now ∈ system.history)
    (others : system.timer.reported = system.timer.current + 1 →
      generation ≠ system.timer.current → system.IsPending system.timer.current) :
    (system.act cause generation).IsSound timeout := by
  have admitted : system.Admits timeout (.consumed generation) := trivial
  have consumed := traced.note admitted
  have stays : (system.note (.consumed generation)).HoldsIn .resting :=
    settled.congr rfl rfl rfl rfl rfl (joinedIn_of_silent rfl _) fun _ before =>
      List.mem_append_left _ before
  obtain ⟨room, queued, closed⟩ := stays
  by_cases current : generation = system.timer.current
  · rw [act_current cause (decide_eq_true current.symm)]
    refine consumed.pop (Nat.le_of_lt room) queued ?_ ?_
    · intro signal same
      obtain rfl := Option.some.inj (signalled.symm.trans same)
      obtain ⟨now, noted⟩ := reported
      exact ⟨current, now, List.mem_append_left _ noted⟩
    · -- A reported generation has a first request, which is still queued.
      intro empty
      obtain ⟨now, noted⟩ := reported
      have nothing : joinedIn system.timer.current system.history = [] := by
        rw [← List.map_eq_nil_iff, settled.queued]
        exact empty
      exact absurd nothing (current ▸ traced.joinedIn_ne_nil noted)
  · rw [act_stale cause (decide_eq_false (Ne.symm current))]
    refine { consumed with phase := ?_, awaited := ?_ }
    · have resumed := IsSettled.resume ⟨room, queued, closed⟩ none cause
      exact resumed.congr rfl rfl rfl rfl rfl rfl fun _ noted => noted
    · intro marked
      exact .inr (others marked current)

theorem IsSound.receive (sound : system.IsSound timeout) {generation : Nat}
    {controller : Controller K P}
    (taken : system.controller.takeSignal = (some generation, controller)) :
    { system with
      controller, received := system.received ++ [generation] }.IsSound timeout := by
  obtain ⟨later, signals, rfl⟩ := Controller.takeSignal_eq_some taken
  have same (signal : Nat) : { system with
      controller := system.controller.withSignals later
      received := system.received ++ [generation] }.IsPending signal ↔
        system.IsPending signal := by
    simp only [IsPending, signals, Controller.withSignals, List.mem_append, List.mem_cons,
      List.not_mem_nil, or_false]
    grind
  refine { sound with pending := ?_, phase := ?_, awaited := ?_ }
  · intro signal pending
    exact sound.pending signal ((same signal).mp pending)
  · exact sound.phase.congr rfl rfl rfl rfl rfl rfl fun _ noted => noted
  · intro reported
    exact (sound.awaited reported).imp_right (same _).mpr

/-- Taking one signal for the action on it leaves the others pending. -/
theorem IsPending.erase {generation signal : Nat} (pending : system.IsPending signal)
    (other : generation ≠ signal) :
    { system with received := system.received.erase generation }.IsPending signal := by
  rcases pending with delivering | queued | held
  · exact .inl delivering
  · exact .inr (.inl queued)
  · exact .inr (.inr ((List.mem_erase_of_ne (Ne.symm other)).mpr held))

theorem IsSound.onTimeout (sound : system.IsSound timeout) (resting : system.owner = .resting)
    {generation : Nat} (held : generation ∈ system.received) :
    ({ system with received := system.received.erase generation }.act
      (.received generation) generation).IsSound timeout := by
  have reported := sound.pending generation (.inr (.inr held))
  have settled : system.IsSettled := sound.holdsIn resting
  have taken : { system with received := system.received.erase generation }.IsTraced timeout := by
    refine { sound with pending := ?_ }
    intro signal pending
    exact sound.pending signal (pending.imp_right (Or.imp_right List.mem_of_mem_erase))
  refine taken.act { settled with } rfl reported ?_
  intro marked other
  exact (sound.isPending resting id marked).erase other

theorem IsSound.drain (sound : system.IsSound timeout)
    {batches : List (Batch (Request K P))} {generation : Nat} {controller : Controller K P}
    (draining : system.owner = .draining batches)
    (taken : system.controller.takeSignal = (some generation, controller)) :
    ({ system with controller }.act (.drained generation batches) generation).IsSound
      timeout := by
  obtain ⟨later, signals, rfl⟩ := Controller.takeSignal_eq_some taken
  have settled : system.IsSettled := sound.holdsIn draining
  have first : generation ∈ system.controller.signals := by
    rw [signals]
    exact List.mem_cons_self
  have reported := sound.pending generation (.inr (.inl first))
  have rest : { system with
      controller := system.controller.withSignals later }.IsTraced timeout := by
    refine { sound with pending := ?_ }
    intro signal pending
    refine sound.pending signal (pending.imp_right (Or.imp_left ?_))
    intro queued
    rw [signals]
    exact List.mem_cons_of_mem generation queued
  refine rest.act { settled with } rfl reported ?_
  intro marked other
  rcases sound.isPending draining id marked with delivering | queued | held
  · exact .inl delivering
  · rw [signals] at queued
    exact .inr (.inl (List.mem_of_ne_of_mem (Ne.symm other) queued))
  · exact .inr (.inr held)

theorem IsSound.ownerStep [DecidableEq K] (sound : system.IsSound timeout)
    {next : WatchedController K P} (step : OwnerStep system next) : next.IsSound timeout := by
  cases step with
  | park request resting busy => exact sound.withController rfl rfl rfl rfl
  | submit now request resting free =>
      have occupied : { system with
          controller := system.controller.occupy request.key }.IsSound timeout :=
        sound.withController rfl rfl rfl rfl
      exact occupied.join resting now request
  | promote now resting taken =>
      rename_i key request rest
      have promoted : { system with
          controller := system.controller.withWaiting rest }.IsSound timeout :=
        sound.withController rfl rfl rfl rfl
      exact promoted.join resting now request
  | release resting taken => exact sound.withController rfl rfl rfl rfl
  | openWindow joining => exact sound.openWindow joining
  | flush resting => exact sound.flush resting
  | closeWindow popped => exact sound.closeWindow popped
  | advance closed => exact sound.advance closed
  | receive resting taken => exact sound.receive taken
  | onTimeout resting held => exact sound.onTimeout resting held
  | beginDrain resting =>
      have settled : system.IsSettled := sound.holdsIn resting
      refine { sound with phase := { settled with }, awaited := ?_ }
      intro reported
      exact .inr (sound.isPending resting id reported)
  | drain draining taken => exact sound.drain draining taken
  | endDrain draining taken =>
      have settled : system.IsSettled := sound.holdsIn draining
      refine { sound with phase := { settled with }, awaited := ?_ }
      intro reported
      exact .inr (sound.isPending draining id reported)

/-! ## Steps of the ticker -/

/-- The ticker goes from one phase to another without a delivery before or after. -/
theorem IsSound.withTicker (sound : system.IsSound timeout) {before : TickerPhase}
    (stands : system.ticker = before) (ticker : TickerPhase)
    (quiet : ∀ generation, before ≠ .delivering generation)
    (silent : ∀ generation, ticker ≠ .delivering generation)
    (held : ∀ window, ticker.window? = some window →
      window.generation ≤ system.timer.current ∧ Opens timeout window system.history)
    (expired : ∀ window now, ticker = .expired window now → window.deadline ≤ now) :
    { system with ticker }.IsSound timeout := by
  refine { sound with
    pending := ?_, held := held, expired := expired, phase := ?_, awaited := ?_ }
  · intro generation pending
    exact sound.pending generation (.inr (pending.resolve_left (silent generation)))
  · exact sound.phase.congr rfl rfl rfl rfl rfl rfl fun _ noted => noted
  · intro reported
    refine (sound.awaited reported).imp_right fun pending => .inr (pending.resolve_left ?_)
    rw [stands]
    exact quiet system.timer.current

/-- A window that has expired is reported for the first time. -/
theorem IsSound.report (sound : system.IsSound timeout) {window : Window} {now : Instant}
    (expired : system.ticker = .expired window now)
    (first : ¬ BatchTimer.markOf window ≤ system.timer.reported) :
    ({ system with
      controller := system.controller.mapTimer fun timer =>
        (timer.raise (BatchTimer.markOf window)).2
      ticker := .delivering window.generation }.note
        (.reported window.generation now)).IsSound timeout := by
  have held : system.ticker.window? = some window := by
    rw [expired]
    rfl
  obtain ⟨bound, opens⟩ := sound.held window held
  have due := opens.isDue (sound.expired window now expired)
  have raised : max system.timer.reported (BatchTimer.markOf window) = window.generation + 1 :=
    Nat.max_eq_right (Nat.le_of_not_le first)
  let marked : WatchedController K P := { system with
    controller := system.controller.mapTimer fun timer =>
      (timer.raise (BatchTimer.markOf window)).2 }
  have traced : marked.IsTraced timeout := by
    refine { sound with mark := ?_, reports := ?_ }
    · change max system.timer.reported (BatchTimer.markOf window) ≤ system.timer.current + 1
      rw [raised]
      exact Nat.succ_le_succ bound
    · intro generation instant noted
      obtain ⟨below, age⟩ := sound.reports generation instant noted
      exact ⟨Nat.lt_of_lt_of_le below (Nat.le_max_left _ _), age⟩
  have admitted : marked.Admits timeout (.reported window.generation now) := by
    refine ⟨?_, due⟩
    change window.generation < max system.timer.reported (BatchTimer.markOf window)
    rw [raised]
    exact Nat.lt_succ_self _
  refine { traced.note admitted with
    pending := ?_, held := ?_, expired := ?_, phase := ?_, awaited := ?_ }
  · intro generation pending
    rcases pending with delivering | waiting
    · obtain rfl := TickerPhase.delivering.inj delivering
      exact ⟨now, List.mem_append_right _ List.mem_cons_self⟩
    · obtain ⟨instant, noted⟩ := sound.pending generation (.inr waiting)
      exact ⟨instant, List.mem_append_left _ noted⟩
  · intro other holds
    cases holds
  · intro other instant holds
    cases holds
  · exact sound.phase.congr rfl rfl rfl rfl rfl (joinedIn_of_silent rfl _) fun _ noted =>
      List.mem_append_left _ noted
  · -- If the window is that of the generation in progress, its signal is in delivery.
    intro reported
    have same : window.generation + 1 = system.timer.current + 1 := raised.symm.trans reported
    exact .inr (.inl (congrArg TickerPhase.delivering (Nat.succ.inj same)))

/-- A reported window's signal reaches the channel. -/
theorem IsSound.deliver (sound : system.IsSound timeout) {generation : Nat}
    (delivering : system.ticker = .delivering generation) :
    { system with
      controller := system.controller.signal generation
      ticker := .resting }.IsSound timeout := by
  have same (signal : Nat) : { system with
      controller := system.controller.signal generation
      ticker := .resting }.IsPending signal ↔ system.IsPending signal := by
    simp only [IsPending, delivering, Controller.signal, List.mem_append, List.mem_singleton]
    grind
  refine { sound with
    pending := ?_, held := ?_, expired := ?_, phase := ?_, awaited := ?_ }
  · intro signal pending
    exact sound.pending signal ((same signal).mp pending)
  · intro window holds
    cases holds
  · intro window now holds
    cases holds
  · exact sound.phase.congr rfl rfl rfl rfl rfl rfl fun _ noted => noted
  · intro reported
    exact (sound.awaited reported).imp_right (same _).mpr

theorem IsSound.tickerStep (sound : system.IsSound timeout)
    {next : WatchedController K P} (step : TickerStep system next) : next.IsSound timeout := by
  cases step with
  | load now resting armed =>
      rename_i window
      refine sound.withTicker resting _ (by simp) (by simp) ?_ (by simp)
      intro loaded holds
      obtain rfl := Option.some.inj holds
      obtain ⟨same, opens⟩ := sound.window window armed
      exact ⟨Nat.le_of_eq same, opens⟩
  | accept loaded expired =>
      rename_i window now
      have held : system.ticker.window? = some window := by
        rw [loaded]
        rfl
      refine sound.withTicker loaded _ (by simp) (by simp) ?_ ?_
      · intro other holds
        obtain rfl := Option.some.inj holds
        exact sound.held window held
      · intro other instant same
        cases same
        simp only [BatchTimer.hasExpired, Bool.and_eq_true, decide_eq_true_iff] at expired
        exact expired.2
  | dismiss loaded open_ =>
      exact sound.withTicker loaded _ (by simp) (by simp) (by simp [TickerPhase.window?]) (by simp)
  | report expired first => exact sound.report expired first
  | skip expired again =>
      rename_i window now
      have same : (system.timer.raise (BatchTimer.markOf window)).2 = system.timer := by
        simp only [BatchTimer.raise, Nat.max_eq_left again]
      have unchanged : (system.controller.mapTimer fun timer =>
          (timer.raise (BatchTimer.markOf window)).2) = system.controller := by
        rw [Controller.mapTimer, same]
      rw [unchanged]
      exact sound.withTicker expired _ (by simp) (by simp) (by simp [TickerPhase.window?]) (by simp)
  | deliver delivering => exact sound.deliver delivering

/-! ## Reachable states -/

theorem isSound_start {controller : Controller K P} (new : controller.IsNew) :
    ({ controller } : WatchedController K P).IsSound controller.buffer.settings.timeout := by
  obtain ⟨settings, registration, positive, rfl⟩ := new.eq_around
  exact {
    positive := positive
    configured := rfl
    window := fun window armed => nomatch armed
    joins := fun generation ahead => rfl
    mark := Nat.zero_le _
    reports := fun generation now noted => nomatch noted
    returns := fun signal batch noted => nomatch noted
    pending := by
      rintro generation (delivering | queued | held)
      · cases delivering
      · cases queued
      · cases held
    held := fun window holds => nomatch holds
    expired := fun window now stands => nomatch stands
    phase := ⟨positive, rfl, iff_of_true rfl (.inr rfl)⟩
    awaited := fun reported => nomatch reported }

theorem Reachable.isSound [DecidableEq K] {controller : Controller K P}
    (new : controller.IsNew) (reached : Reachable controller system) :
    system.IsSound controller.buffer.settings.timeout := by
  induction reached with
  | start => exact isSound_start new
  | step _ step ih =>
      cases step with
      | owner step => exact ih.ownerStep step
      | ticker step => exact ih.tickerStep step

end WatchedController

end KeyedBatching
