import KeyedBatching.Proofs.ControllerMoves
import Mathlib.Logic.Relation

/-!
# A controller and its ticker, step by step

The owner of a controller and the thread of its ticker share the timer and the
channel of signals.  A step here is one access to what they share, together with
the work of its thread on its own data around it, so that the ticker may load
the open window before a batch leaves and compare it afterwards.  The instants
that the steps read are left free, and a received signal may be acted on at any
later time.

Undisturbed by the other side, the steps of the owner add up to the operations
of the controller, and those of the ticker to a poll of the timer followed by
the delivery of what it reports.
-/

namespace KeyedBatching

/-! ## Phases -/

/-- Why a batch leaves: because of a call of the owner, of a signal that it had received, or of
a signal taken in a round over all signals, which has given some batches before. -/
inductive FlushCause (K P : Type) where
  | call
  | received (generation : Nat)
  | drained (generation : Nat) (batches : List (Batch (Request K P)))
deriving DecidableEq

/-- Where the owner stands. -/
inductive OwnerPhase (K P : Type) where
  | resting
  /-- A request has joined the active queue, and the timer was not told yet. -/
  | joining (now : Instant)
  /-- A batch has left the active queue, and its window is still open. -/
  | popped (batch : Batch (Request K P)) (cause : FlushCause K P)
  /-- The window of the batch is closed, and its generation still in progress. -/
  | closed (batch : Batch (Request K P)) (cause : FlushCause K P)
  /-- In a round over all signals, between two of them. -/
  | draining (batches : List (Batch (Request K P)))
deriving DecidableEq

/-- Where the thread of the ticker stands in a poll. -/
inductive TickerPhase where
  | resting
  | loaded (window : Window) (now : Instant)
  | expired (window : Window) (now : Instant)
  | delivering (generation : Nat)
deriving DecidableEq

/-- What is remembered of a run. -/
inductive Occurrence (K P : Type) where
  /-- A request joined the active queue during a generation. -/
  | joined (generation : Nat) (now : Instant) (request : Request K P)
  /-- The ticker, which had read the clock at `now`, found a window expired for the first time. -/
  | reported (generation : Nat) (now : Instant)
  /-- The owner checked whether a signal is current. -/
  | consumed (generation : Nat)
  /-- A batch was returned, perhaps on a signal. -/
  | returned (signal : Option Nat) (batch : Batch (Request K P))
deriving DecidableEq

namespace FlushCause

variable {K P : Type}

def signal? : FlushCause K P → Option Nat
  | call => none
  | received generation => some generation
  | drained generation _ => some generation

/-- What the owner goes on with once the flush has given a batch, or none. -/
def resume (batch : Option (Batch (Request K P))) : FlushCause K P → OwnerPhase K P
  | call => .resting
  | received _ => .resting
  | drained _ batches => .draining (batches ++ batch.toList)

end FlushCause

/-- A controller with the phases of its owner and of its ticker, and the signals that the owner
has received and not yet acted on. -/
structure WatchedController (K P : Type) where
  controller : Controller K P
  owner : OwnerPhase K P := .resting
  ticker : TickerPhase := .resting
  received : List Nat := []
  history : List (Occurrence K P) := []
deriving DecidableEq

namespace WatchedController

variable {K P : Type}

abbrev timer (system : WatchedController K P) : BatchTimer :=
  system.controller.buffer.timer

abbrev queue (system : WatchedController K P) : List (Request K P) :=
  system.controller.buffer.active.items

/-! ## Steps -/

def note (occurrence : Occurrence K P) (system : WatchedController K P) :
    WatchedController K P :=
  { system with history := system.history ++ [occurrence] }

/-- A request joins the active queue. -/
def join (now : Instant) (request : Request K P) (system : WatchedController K P) :
    WatchedController K P :=
  { system with
    controller := system.controller.join request
    owner := .joining now }.note (.joined system.timer.current now request)

/-- The next batch leaves the active queue, if there is one. -/
def pop (cause : FlushCause K P) (system : WatchedController K P) : WatchedController K P :=
  match system.controller.nextBatch? with
  | none => { system with owner := cause.resume none }
  | some batch =>
      { system with controller := system.controller.dropBatch, owner := .popped batch cause }

/-- The owner acts on a signal: a batch leaves if the signal is current. -/
def act (cause : FlushCause K P) (generation : Nat) (system : WatchedController K P) :
    WatchedController K P :=
  let system := system.note (.consumed generation)
  if system.timer.isCurrent generation then system.pop cause
  else { system with owner := cause.resume none }

/-- The owner tells the timer of a request, and a batch leaves if the queue is full. -/
def openWindow (now : Instant) (system : WatchedController K P) : WatchedController K P :=
  let system := { system with controller := system.controller.openWindow now }
  if system.controller.batchSize ≤ system.controller.buffer.active.size then
    system.pop .call
  else { system with owner := .resting }

@[simp] theorem pop_history (cause : FlushCause K P) (system : WatchedController K P) :
    (system.pop cause).history = system.history := by
  unfold pop
  split <;> rfl

/-- Either the owner rests again at once, or a full queue makes a batch leave. -/
theorem openWindow_cases (now : Instant) (system : WatchedController K P) :
    (system.queue.length < system.controller.batchSize ∧
        system.openWindow now = { system with
          controller := system.controller.openWindow now, owner := .resting }) ∨
      system.controller.batchSize ≤ system.queue.length ∧
        system.openWindow now =
          { system with controller := system.controller.openWindow now }.pop .call := by
  rcases Nat.lt_or_ge system.queue.length system.controller.batchSize with room | full
  · exact .inl ⟨room, if_neg (Nat.not_le.mpr room)⟩
  · exact .inr ⟨full, if_pos full⟩

@[simp] theorem openWindow_history (now : Instant) (system : WatchedController K P) :
    (system.openWindow now).history = system.history := by
  rcases openWindow_cases now system with ⟨_, result⟩ | ⟨_, result⟩
  · rw [result]
  · rw [result, pop_history]

theorem act_current (cause : FlushCause K P) {generation : Nat} {system : WatchedController K P}
    (current : system.timer.isCurrent generation = true) :
    system.act cause generation = (system.note (.consumed generation)).pop cause :=
  if_pos current

theorem act_stale (cause : FlushCause K P) {generation : Nat} {system : WatchedController K P}
    (stale : system.timer.isCurrent generation = false) :
    system.act cause generation =
      { system.note (.consumed generation) with owner := cause.resume none } :=
  if_neg (Bool.eq_false_iff.mp stale)

@[simp] theorem act_history (cause : FlushCause K P) (generation : Nat)
    (system : WatchedController K P) :
    (system.act cause generation).history = system.history ++ [.consumed generation] := by
  cases current : system.timer.isCurrent generation with
  | true =>
      rw [act_current cause current, pop_history]
      rfl
  | false =>
      rw [act_stale cause current]
      rfl

/-- The steps of the owner. -/
inductive OwnerStep [DecidableEq K] : WatchedController K P → WatchedController K P → Prop
  | park {system} (request : Request K P) (resting : system.owner = .resting)
      (busy : system.controller.isInFlight request.key = true) :
      OwnerStep system { system with
        controller := system.controller.withWaiting
          (system.controller.buffer.waiting.enqueue request) }
  | submit {system} (now : Instant) (request : Request K P)
      (resting : system.owner = .resting)
      (free : system.controller.isInFlight request.key = false) :
      OwnerStep system
        ({ system with controller := system.controller.occupy request.key }.join now request)
  | promote {system} (now : Instant) {key : K} {next : Request K P} {rest : WaitingRoom K P}
      (resting : system.owner = .resting)
      (taken : system.controller.buffer.waiting.unblockOne key = (some next, rest)) :
      OwnerStep system
        ({ system with controller := system.controller.withWaiting rest }.join now next)
  | release {system} {key : K} {rest : WaitingRoom K P} (resting : system.owner = .resting)
      (taken : system.controller.buffer.waiting.unblockOne key = (none, rest)) :
      OwnerStep system { system with
        controller := (system.controller.withWaiting rest).release key }
  | openWindow {system} {now : Instant} (joining : system.owner = .joining now) :
      OwnerStep system (system.openWindow now)
  | flush {system} (resting : system.owner = .resting) : OwnerStep system (system.pop .call)
  | closeWindow {system} {batch : Batch (Request K P)} {cause : FlushCause K P}
      (popped : system.owner = .popped batch cause) :
      OwnerStep system { system with
        controller := system.controller.mapTimer (BatchTimer.store none)
        owner := .closed batch cause }
  | advance {system} {batch : Batch (Request K P)} {cause : FlushCause K P}
      (closed : system.owner = .closed batch cause) :
      OwnerStep system ({ system with
        controller := system.controller.mapTimer BatchTimer.increment
        owner := cause.resume (some batch) }.note (.returned cause.signal? batch))
  | receive {system} {generation : Nat} {controller : Controller K P}
      (resting : system.owner = .resting)
      (taken : system.controller.takeSignal = (some generation, controller)) :
      OwnerStep system
        { system with controller, received := system.received ++ [generation] }
  | onTimeout {system} {generation : Nat} (resting : system.owner = .resting)
      (held : generation ∈ system.received) :
      OwnerStep system ({ system with received := system.received.erase generation }.act
        (.received generation) generation)
  | beginDrain {system} (resting : system.owner = .resting) :
      OwnerStep system { system with owner := .draining [] }
  | drain {system} {batches : List (Batch (Request K P))} {generation : Nat}
      {controller : Controller K P} (draining : system.owner = .draining batches)
      (taken : system.controller.takeSignal = (some generation, controller)) :
      OwnerStep system ({ system with controller }.act (.drained generation batches) generation)
  | endDrain {system} {batches : List (Batch (Request K P))} {controller : Controller K P}
      (draining : system.owner = .draining batches)
      (taken : system.controller.takeSignal = (none, controller)) :
      OwnerStep system { system with owner := .resting }

/-- The steps of the ticker's thread, which loads the open window, compares it with the
generation in progress, raises the mark of reported generations and leaves a signal. -/
inductive TickerStep : WatchedController K P → WatchedController K P → Prop
  | load {system} {window : Window} (now : Instant) (resting : system.ticker = .resting)
      (armed : system.timer.armed = some window) :
      TickerStep system { system with ticker := .loaded window now }
  | accept {system} {window : Window} {now : Instant}
      (loaded : system.ticker = .loaded window now)
      (expired : BatchTimer.hasExpired window system.timer.current now = true) :
      TickerStep system { system with ticker := .expired window now }
  | dismiss {system} {window : Window} {now : Instant}
      (loaded : system.ticker = .loaded window now)
      (open_ : BatchTimer.hasExpired window system.timer.current now = false) :
      TickerStep system { system with ticker := .resting }
  | report {system} {window : Window} {now : Instant}
      (expired : system.ticker = .expired window now)
      (first : ¬ BatchTimer.markOf window ≤ system.timer.reported) :
      TickerStep system ({ system with
        controller := system.controller.mapTimer fun timer =>
          (timer.raise (BatchTimer.markOf window)).2
        ticker := .delivering window.generation }.note (.reported window.generation now))
  | skip {system} {window : Window} {now : Instant}
      (expired : system.ticker = .expired window now)
      (again : BatchTimer.markOf window ≤ system.timer.reported) :
      TickerStep system { system with
        controller := system.controller.mapTimer fun timer =>
          (timer.raise (BatchTimer.markOf window)).2
        ticker := .resting }
  | deliver {system} {generation : Nat} (delivering : system.ticker = .delivering generation) :
      TickerStep system { system with
        controller := system.controller.signal generation, ticker := .resting }

/-- A step of either side. -/
inductive Step [DecidableEq K] (system next : WatchedController K P) : Prop
  | owner (step : OwnerStep system next)
  | ticker (step : TickerStep system next)

/-- The states that a controller reaches from its construction on. -/
inductive Reachable [DecidableEq K] (controller : Controller K P) :
    WatchedController K P → Prop
  | start : Reachable controller { controller }
  | step {system next : WatchedController K P} (reached : Reachable controller system)
      (step : Step system next) : Reachable controller next

/-! ## Undisturbed runs -/

/-- The batches that were returned, in order. -/
def batchesOf (history : List (Occurrence K P)) : List (Batch (Request K P)) :=
  history.filterMap fun
    | .returned _ batch => some batch
    | _ => none

theorem act_silent (cause : FlushCause K P) (generation : Nat) (system : WatchedController K P) :
    batchesOf (system.act cause generation).history = batchesOf system.history := by
  simp [batchesOf]

/-- The owner alone gets from one state to another, and returns the batches on the way. -/
structure Completes [DecidableEq K] (system next : WatchedController K P)
    (batches : List (Batch (Request K P))) : Prop where
  run : Relation.ReflTransGen OwnerStep system next
  returns : batchesOf next.history = batchesOf system.history ++ batches

variable [DecidableEq K] {system next later : WatchedController K P}
  {batches more : List (Batch (Request K P))}

theorem Completes.nothing : Completes system system [] :=
  ⟨.refl, (List.append_nil _).symm⟩

theorem Completes.trans (first : Completes system next batches)
    (second : Completes next later more) : Completes system later (batches ++ more) :=
  ⟨first.run.trans second.run, by rw [second.returns, first.returns, List.append_assoc]⟩

theorem OwnerStep.completes (step : OwnerStep system next)
    (silent : batchesOf next.history = batchesOf system.history) :
    Completes system next [] :=
  ⟨.single step, by rw [silent, List.append_nil]⟩

/-- From the flush on, the owner hands out as the controller does. -/
theorem pop_completes (cause : FlushCause K P) (system : WatchedController K P) :
    ∃ history, Completes (system.pop cause)
      { system with
        controller := system.controller.handOut.2
        owner := cause.resume system.controller.handOut.1
        history } system.controller.handOut.1.toList := by
  rcases Controller.handOut_cases system.controller with
    ⟨nothing, result⟩ | ⟨batch, leaves, result⟩
  · refine ⟨system.history, ?_⟩
    simp only [pop, nothing, result]
    exact Completes.nothing
  · refine ⟨system.history ++ [.returned cause.signal? batch], ?_, ?_⟩
    · simp only [pop, leaves, result]
      exact .tail (.single (.closeWindow rfl)) (.advance rfl)
    · simp [pop, leaves, result, batchesOf]

/-- Telling the timer of a request that has joined, the owner hands out a full batch. -/
theorem openWindow_completes {now : Instant} (joining : system.owner = .joining now) :
    let opened := system.controller.openWindow now
    ∃ history, Completes system
      { system with controller := opened.handOutIfFull.2, owner := .resting, history }
      opened.handOutIfFull.1.toList := by
  intro opened
  have step := OwnerStep.openWindow joining
  rcases openWindow_cases now system with ⟨room, result⟩ | ⟨full, result⟩
  · have stays : opened.handOutIfFull = (none, opened) := if_neg (Nat.not_le.mpr room)
    rw [result] at step
    rw [stays]
    exact ⟨system.history, step.completes rfl⟩
  · have leaves : opened.handOutIfFull = opened.handOut := if_pos full
    obtain ⟨history, pops⟩ := pop_completes .call { system with controller := opened }
    rw [result] at step
    rw [leaves]
    exact ⟨history, (step.completes (by simp)).trans pops⟩

theorem submit_completes (resting : system.owner = .resting) (now : Instant)
    (request : Request K P) :
    let outcome := (system.controller.submit now request).value
    ∃ history, Completes system { system with controller := outcome.2, history }
      outcome.1.toList := by
  cases busy : system.controller.isInFlight request.key with
  | true =>
      rw [Controller.submit_busy busy]
      exact ⟨system.history, (OwnerStep.park request resting busy).completes rfl⟩
  | false =>
      rw [Controller.submit_free busy]
      have joins := (OwnerStep.submit now request resting busy).completes (by
        simp [join, note, batchesOf])
      let occupied : WatchedController K P :=
        { system with controller := system.controller.occupy request.key }
      have joining : (occupied.join now request).owner = .joining now := rfl
      obtain ⟨history, opens⟩ := openWindow_completes joining
      refine ⟨history, ?_⟩
      have whole := joins.trans opens
      simpa [join, note, Controller.accept, ← resting] using whole

theorem complete_completes (resting : system.owner = .resting) (now : Instant) (key : K) :
    let outcome := (system.controller.complete now key).value
    ∃ history, Completes system { system with controller := outcome.2, history }
      outcome.1.toList := by
  rcases taken : system.controller.buffer.waiting.unblockOne key with ⟨next?, rest⟩
  cases next? with
  | none =>
      rw [Controller.complete_idle taken]
      exact ⟨system.history, (OwnerStep.release resting taken).completes rfl⟩
  | some next =>
      rw [Controller.complete_waiting taken]
      have joins := (OwnerStep.promote now resting taken).completes (by
        simp [join, note, batchesOf])
      let promoted : WatchedController K P :=
        { system with controller := system.controller.withWaiting rest }
      have joining : (promoted.join now next).owner = .joining now := rfl
      obtain ⟨history, opens⟩ := openWindow_completes joining
      refine ⟨history, ?_⟩
      have whole := joins.trans opens
      simpa [join, note, Controller.accept, ← resting] using whole

theorem flush_completes (resting : system.owner = .resting) :
    let outcome := system.controller.flush.value
    ∃ history, Completes system { system with controller := outcome.2, history }
      outcome.1.toList := by
  rw [Controller.flush_value]
  obtain ⟨history, pops⟩ := pop_completes .call system
  refine ⟨history, ?_⟩
  have whole := ((OwnerStep.flush resting).completes (by simp)).trans pops
  simpa [FlushCause.resume, ← resting] using whole

/-- From the check of a signal on, the owner acts as the controller does. -/
theorem act_completes (cause : FlushCause K P) (generation : Nat)
    (system : WatchedController K P) :
    let outcome := (system.controller.onTimeout generation).value
    ∃ history, Completes (system.act cause generation)
        { system with controller := outcome.2, owner := cause.resume outcome.1, history }
        outcome.1.toList := by
  cases current : system.controller.buffer.timer.isCurrent generation with
  | true =>
      rw [act_current cause current, Controller.onTimeout_current current]
      exact pop_completes cause (system.note (.consumed generation))
  | false =>
      rw [act_stale cause current, Controller.onTimeout_stale current]
      exact ⟨_, Completes.nothing⟩

theorem onTimeout_completes (resting : system.owner = .resting) {generation : Nat}
    (held : generation ∈ system.received) :
    let outcome := (system.controller.onTimeout generation).value
    ∃ history, Completes system { system with
        controller := outcome.2, received := system.received.erase generation, history }
      outcome.1.toList := by
  intro outcome
  obtain ⟨history, acts⟩ := act_completes (.received generation) generation
    { system with received := system.received.erase generation }
  refine ⟨history, ?_⟩
  have step := (OwnerStep.onTimeout resting held).completes (act_silent _ _ _)
  have whole := step.trans acts
  simpa [FlushCause.resume, ← resting] using whole

/-- A round over all signals takes them one by one, each when the owner is done with the one
before. -/
theorem drain_completes {signals : List Nat} (pending : system.controller.signals = signals)
    {earlier : List (Batch (Request K P))} (draining : system.owner = .draining earlier) :
    let outcome := ((system.controller.withSignals []).actOn signals).value
    ∃ history, Completes system
      { system with controller := outcome.2, owner := .resting, history } outcome.1 := by
  induction signals generalizing system earlier with
  | nil =>
      have same : system.controller.withSignals [] = system.controller := by
        rw [← pending]
        rfl
      have taken : system.controller.takeSignal = (none, system.controller) := by
        rw [Controller.takeSignal, pending]
      rw [same]
      exact ⟨system.history, (OwnerStep.endDrain draining taken).completes rfl⟩
  | cons generation rest ih =>
      have taken : system.controller.takeSignal =
          (some generation, system.controller.withSignals rest) := by
        rw [Controller.takeSignal, pending]
        rfl
      obtain ⟨middle, acts⟩ := act_completes (.drained generation earlier) generation
        { system with controller := system.controller.withSignals rest }
      have step := (OwnerStep.drain draining taken).completes (act_silent _ _ _)
      have first := step.trans acts
      rw [Controller.onTimeout_withSignals] at first
      let outcome := (system.controller.onTimeout generation).value
      let acted : WatchedController K P := { system with
        controller := outcome.2.withSignals rest
        owner := .draining (earlier ++ outcome.1.toList)
        history := middle }
      have left : acted.controller.signals = rest := rfl
      obtain ⟨history, others⟩ := ih left rfl
      rw [Controller.actOn_cons, Controller.onTimeout_withSignals]
      exact ⟨history, first.trans others⟩

theorem processTimeouts_completes (resting : system.owner = .resting) :
    let outcome := system.controller.processTimeouts.value
    ∃ history, Completes system { system with controller := outcome.2, history } outcome.1 := by
  let begun : WatchedController K P := { system with owner := .draining [] }
  have draining : begun.owner = .draining [] := rfl
  obtain ⟨history, drains⟩ := drain_completes rfl draining
  refine ⟨history, ?_⟩
  have whole := ((OwnerStep.beginDrain resting).completes rfl).trans drains
  rw [resting]
  exact whole

omit [DecidableEq K] in
/-- The ticker alone polls the timer, and leaves a signal of what it reports. -/
theorem poll_isTickerRun (resting : system.ticker = .resting) (now : Instant) :
    let outcome := system.timer.pollExpired now
    ∃ history, Relation.ReflTransGen TickerStep system { system with
      controller := (system.controller.mapTimer fun _ => outcome.2).withSignals
        (system.controller.signals ++ outcome.1.toList)
      history } := by
  intro outcome
  have unchanged (nothing : outcome = (none, system.timer)) :
      (system.controller.mapTimer fun _ => outcome.2).withSignals
        (system.controller.signals ++ outcome.1.toList) = system.controller := by
    rw [nothing, Option.toList_none, List.append_nil]
    rfl
  cases armed : system.timer.armed with
  | none =>
      rw [unchanged (by simp [outcome, BatchTimer.pollExpired, armed])]
      exact ⟨system.history, .refl⟩
  | some window =>
      let looked : WatchedController K P := { system with ticker := .loaded window now }
      have loads : TickerStep system looked := .load now resting armed
      cases expired : BatchTimer.hasExpired window system.timer.current now with
      | false =>
          rw [unchanged (by simp [outcome, BatchTimer.pollExpired, armed, expired])]
          have dismisses : TickerStep looked { looked with ticker := .resting } :=
            .dismiss rfl expired
          rw [← resting] at dismisses
          exact ⟨system.history, .tail (.single loads) dismisses⟩
      | true =>
          have accepts : TickerStep looked { system with ticker := .expired window now } :=
            .accept rfl expired
          have accepted := Relation.ReflTransGen.tail (.single loads) accepts
          by_cases again : BatchTimer.markOf window ≤ system.timer.reported
          · have silent : outcome = (none, (system.timer.raise (BatchTimer.markOf window)).2) := by
              simp [outcome, BatchTimer.pollExpired, armed, expired, BatchTimer.raise, again]
            rw [silent, resting]
            simp only [Option.toList_none, List.append_nil]
            exact ⟨system.history, .tail accepted (.skip rfl again)⟩
          · have reports : outcome = (some window.generation,
                (system.timer.raise (BatchTimer.markOf window)).2) := by
              simp [outcome, BatchTimer.pollExpired, armed, expired, BatchTimer.raise, again]
            rw [reports, resting]
            exact ⟨_, .tail (.tail accepted (.report rfl again)) (.deliver rfl)⟩

end WatchedController

end KeyedBatching
