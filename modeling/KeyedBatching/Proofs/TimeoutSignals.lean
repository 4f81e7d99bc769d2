import KeyedBatching.Proofs.ControllerDemands
import KeyedBatching.Proofs.InterleavingSteps

/-!
# Timeouts are neither lost nor mistaken

A window is reported at most once, so a report that went astray would strand the
requests behind it.  It does not: as long as the queue holds a request, its window
will be reported by the next poll that finds it expired, or the signal is on its
way.  And a signal never touches another window than its own: it either brings
out all that joined during its generation, after the time that the first of these
requests was promised, or finds them gone and changes nothing.  Only the batch that it
is to bring out may be too large for the machine.
-/

namespace KeyedBatching

namespace WatchedController

variable {K P : Type} {system next : WatchedController K P} {timeout : Duration}

/-! ## No timeout is lost -/

theorem IsTraced.pollExpired (traced : system.IsTraced timeout) {window : Window}
    (armed : system.timer.armed = some window)
    (unreported : system.timer.reported ≤ system.timer.current) {now : Instant}
    (expired : window.deadline ≤ now) :
    (system.timer.pollExpired now).1 = some system.timer.current := by
  obtain ⟨same, _⟩ := traced.window window armed
  have unmarked : ¬ BatchTimer.markOf window ≤ system.timer.reported := by
    rw [BatchTimer.markOf, same]
    omega
  simp [BatchTimer.pollExpired, BatchTimer.hasExpired, BatchTimer.raise, armed, same, expired,
    unmarked]

theorem IsSettled.nextBatch? (settled : system.IsSettled) (waiting : system.queue ≠ []) :
    system.controller.nextBatch? = some ⟨system.queue, system.timer.current⟩ := by
  have whole : system.queue.take system.controller.batchSize = system.queue :=
    List.take_of_length_le (Nat.le_of_lt settled.room)
  rw [Controller.nextBatch?_eq_some_iff, whole]
  exact ⟨waiting, rfl⟩

theorem IsSettled.onTimeout (settled : system.IsSettled) (waiting : system.queue ≠ []) :
    (system.controller.onTimeout system.timer.current).value.1 =
      some ⟨system.queue, system.timer.current⟩ := by
  have current : system.timer.isCurrent system.timer.current = true := decide_eq_true rfl
  rw [Controller.onTimeout_current current, Controller.handOut, settled.nextBatch? waiting]

theorem IsSettled.returns_onTimeout_iff (settled : system.IsSettled) (waiting : system.queue ≠ [])
    {machine : Machine} :
    (system.controller.onTimeout system.timer.current).returns machine = true ↔
      machine.meets (.room system.controller.batchSize) = true := by
  rw [Controller.returns_onTimeout_iff, settled.onTimeout waiting, Controller.RoomFor]
  simp

/-- While requests are queued, their window is open, and either the next poll that finds it
expired reports it, or its signal is being delivered, in the channel or with the owner.  The
signal brings out the whole queue, on each machine that has room for a full batch and on no
other. -/
theorem reachable_timeout_awaited [DecidableEq K] {controller : Controller K P}
    (new : controller.IsNew) (enabled : controller.buffer.settings.timeoutEnabled = true)
    (reached : Reachable controller system) (resting : system.owner = .resting)
    (waiting : system.queue ≠ []) :
    ∃ window, system.timer.armed = some window ∧ window.generation = system.timer.current ∧
      (((∀ now, .reported system.timer.current now ∉ system.history) ∧
          ∀ now, window.deadline ≤ now →
            (system.timer.pollExpired now).1 = some system.timer.current) ∨
        system.IsPending system.timer.current) ∧
      (system.controller.onTimeout system.timer.current).value.1 =
        some ⟨system.queue, system.timer.current⟩ ∧
      ∀ machine : Machine,
        (system.controller.onTimeout system.timer.current).returns machine = true ↔
          machine.meets (.room system.controller.batchSize) = true := by
  have sound := reached.isSound new
  have settled : system.IsSettled := sound.holdsIn resting
  have working : system.timer.timeout ≠ 0 := by
    rw [sound.configured]
    simpa [BufferSettings.timeoutEnabled] using enabled
  have opened : system.timer.armed ≠ none := by
    rw [Ne, settled.closed_iff, not_or]
    exact ⟨working, waiting⟩
  obtain ⟨window, armed⟩ := Option.ne_none_iff_exists'.mp opened
  obtain ⟨same, _⟩ := sound.window window armed
  refine ⟨window, armed, same, ?_, settled.onTimeout waiting,
    fun _ => settled.returns_onTimeout_iff waiting⟩
  rcases Nat.lt_or_ge system.timer.current system.timer.reported with marked | unmarked
  · have last : system.timer.reported = system.timer.current + 1 :=
      Nat.le_antisymm sound.mark marked
    exact .inr (sound.isPending resting id last)
  · refine .inl ⟨?_, fun now expired => sound.pollExpired armed unmarked expired⟩
    intro now noted
    obtain ⟨marked, _⟩ := sound.reports system.timer.current now noted
    omega

/-- A request whose window the ticker has just reported, and not yet signalled. -/
theorem reachable_timeout_awaited_delivery :
    let settings : ControllerSettings :=
      { buffer := { timeout := 10, interval := 1 }, batchSize := 2 }
    let controller : Controller Nat String := .around settings (.empty settings.buffer none)
    let request : Request Nat String := ⟨7, .usual, "first"⟩
    ∃ system, controller.IsNew ∧ controller.buffer.settings.timeoutEnabled = true ∧
      Reachable controller system ∧ system.owner = .resting ∧ system.queue = [request] ∧
      system.ticker = .delivering 0 ∧
      ∃ window, system.timer.armed = some window ∧ window.generation = system.timer.current ∧
        (((∀ now, .reported system.timer.current now ∉ system.history) ∧
            ∀ now, window.deadline ≤ now →
              (system.timer.pollExpired now).1 = some system.timer.current) ∨
          system.IsPending system.timer.current) ∧
        (system.controller.onTimeout system.timer.current).value.1 =
          some ⟨system.queue, system.timer.current⟩ ∧
        ∀ machine : Machine,
          (system.controller.onTimeout system.timer.current).returns machine = true ↔
            machine.meets (.room system.controller.batchSize) = true := by
  intro settings controller request
  have new : controller.IsNew := .unwatched settings rfl
  have begun : Reachable controller { controller } := .start
  have joined := begun.step (.owner (.submit 5 request rfl rfl))
  have opened := joined.step (.owner (.openWindow rfl))
  have loaded := opened.step (.ticker (.load 15 rfl rfl))
  have accepted := loaded.step (.ticker (.accept rfl rfl))
  have reported := accepted.step (.ticker (.report rfl (by decide)))
  exact ⟨_, new, rfl, reported, rfl, rfl, rfl,
    reachable_timeout_awaited new rfl reported rfl (List.cons_ne_nil _ _)⟩

/-- A batch size that is accepted may be too large for a batch to leave, on any machine.  The
signal of the open window is in the channel, and acting on it asks for room for as many requests
as a word can count. -/
theorem not_forall_onTimeout_returns :
    ¬∃ machine : Machine, 0 < machine.requestSize ∧
      ∀ (controller : Controller Nat String) (system : WatchedController Nat String),
        controller.IsNew → controller.buffer.settings.timeoutEnabled = true →
        Reachable controller system → system.owner = .resting → system.queue ≠ [] →
        system.timer.current ∈ system.controller.signals →
        (system.controller.onTimeout system.timer.current).returns machine = true := by
  rintro ⟨machine, sized, returns⟩
  let settings : ControllerSettings :=
    { buffer := { timeout := 10, interval := 1 }, batchSize := 18446744073709551615 }
  let controller : Controller Nat String := .around settings (.empty settings.buffer none)
  have begun : Reachable controller { controller } := .start
  have joined := begun.step (.owner (.submit 5 ⟨7, .usual, "first"⟩ rfl rfl))
  have opened := joined.step (.owner (.openWindow rfl))
  have loaded := opened.step (.ticker (.load 15 rfl rfl))
  have accepted := loaded.step (.ticker (.accept rfl rfl))
  have reported := accepted.step (.ticker (.report rfl (by decide)))
  have delivered := reported.step (.ticker (.deliver rfl))
  have acted := returns controller _ (.unwatched settings rfl) rfl delivered rfl
    (List.cons_ne_nil _ _) (List.mem_singleton_self 0)
  rw [Controller.returns_onTimeout_iff] at acted
  exact Controller.not_roomFor_largest sized rfl (by decide) acted

/-! ## No timeout is early or stale -/

/-- What a step notes: nothing, a request or a report, a batch whose window is closed, or a
signal that the owner has taken for the action on it. -/
inductive Notes (system next : WatchedController K P) : Prop
  | nothing (history : next.history = system.history)
  | joined (generation : Nat) (now : Instant) (request : Request K P)
      (history : next.history = system.history ++ [.joined generation now request])
  | reported (generation : Nat) (now : Instant)
      (history : next.history = system.history ++ [.reported generation now])
  | returned (batch : Batch (Request K P)) (cause : FlushCause K P)
      (closed : system.owner = .closed batch cause)
      (history : next.history = system.history ++ [.returned cause.signal? batch])
  | consumed (generation : Nat) (cause : FlushCause K P) (taken : WatchedController K P)
      (acts : next = taken.act cause generation)
      (buffer : taken.controller.buffer = system.controller.buffer)
      (inFlight : taken.controller.inFlight = system.controller.inFlight)
      (history : taken.history = system.history)

theorem Step.notes [DecidableEq K] (step : Step system next) : Notes system next := by
  cases step with
  | owner step =>
      cases step with
      | park request resting busy => exact .nothing rfl
      | submit now request resting free => exact .joined _ now request rfl
      | promote now resting taken => exact .joined _ now _ rfl
      | release resting taken => exact .nothing rfl
      | openWindow joining => exact .nothing (openWindow_history _ _)
      | flush resting => exact .nothing (pop_history _ _)
      | closeWindow popped => exact .nothing rfl
      | advance closed => exact .returned _ _ closed rfl
      | receive resting taken => exact .nothing rfl
      | onTimeout resting held => exact .consumed _ _ _ rfl rfl rfl rfl
      | beginDrain resting => exact .nothing rfl
      | drain draining taken =>
          obtain ⟨later, _, rfl⟩ := Controller.takeSignal_eq_some taken
          exact .consumed _ _ _ rfl rfl rfl rfl
      | endDrain draining taken => exact .nothing rfl
  | ticker step =>
      cases step with
      | load now resting armed => exact .nothing rfl
      | accept loaded expired => exact .nothing rfl
      | dismiss loaded open_ => exact .nothing rfl
      | report expired first => exact .reported _ _ rfl
      | skip expired again => exact .nothing rfl
      | deliver delivering => exact .nothing rfl

theorem Step.closed_of_returned [DecidableEq K] (step : Step system next)
    {signal : Option Nat} {batch : Batch (Request K P)}
    (noted : next.history = system.history ++ [.returned signal batch]) :
    ∃ cause, system.owner = .closed batch cause ∧ cause.signal? = signal := by
  cases step.notes with
  | nothing history => simp [history] at noted
  | joined generation now request history => simp [history] at noted
  | reported generation now history => simp [history] at noted
  | returned other cause closed history =>
      have same : cause.signal? = signal ∧ other = batch := by simpa [history] using noted
      obtain ⟨signalled, rfl⟩ := same
      exact ⟨cause, closed, signalled⟩
  | consumed generation cause taken acts buffer inFlight history =>
      simp [acts, history] at noted

theorem Step.acts_of_consumed [DecidableEq K] (step : Step system next) {generation : Nat}
    (noted : next.history = system.history ++ [.consumed generation]) :
    ∃ cause, ∃ taken : WatchedController K P,
      taken.controller.buffer = system.controller.buffer ∧
      taken.controller.inFlight = system.controller.inFlight ∧
      next = taken.act cause generation := by
  cases step.notes with
  | nothing history => simp [history] at noted
  | joined generation now request history => simp [history] at noted
  | reported generation now history => simp [history] at noted
  | returned batch cause closed history => simp [history] at noted
  | consumed other cause taken acts buffer inFlight history =>
      obtain rfl : other = generation := by simpa [acts, history] using noted
      exact ⟨cause, taken, buffer, inFlight, acts⟩

/-- A batch that leaves on a signal holds what joined during the generation of the signal, which
was reported, and not before the first of these requests had the age of the timeout. -/
theorem IsSound.returned [DecidableEq K] (sound : system.IsSound timeout)
    (step : Step system next) {generation : Nat} {batch : Batch (Request K P)}
    (noted : next.history = system.history ++ [.returned (some generation) batch]) :
    batch.generation = generation ∧
      batch.requests = (joinedIn generation system.history).map Prod.snd ∧
      ∃ first, (joinedIn generation system.history).head? = some first ∧
        (∃ now, .reported generation now ∈ system.history) ∧
        ∀ now, .reported generation now ∈ system.history → first.1 + timeout ≤ now := by
  obtain ⟨cause, closed, signalled⟩ := step.closed_of_returned noted
  obtain ⟨flushing, _⟩ : system.IsFlushing batch cause ∧ system.timer.armed = none :=
    sound.holdsIn closed
  obtain ⟨rfl, reported⟩ := flushing.caused generation signalled
  obtain ⟨now, noted⟩ := reported
  obtain ⟨_, first, head, _⟩ := sound.reports _ now noted
  refine ⟨flushing.current, flushing.taken.symm, first, head, ⟨now, noted⟩, ?_⟩
  intro instant again
  obtain ⟨_, other, same, due⟩ := sound.reports _ instant again
  obtain rfl := Option.some.inj (same.symm.trans head)
  exact due

/-- A signal whose window has been flushed finds its generation gone. -/
theorem IsSound.consumed [DecidableEq K] (sound : system.IsSound timeout)
    (step : Step system next) {generation : Nat}
    (noted : next.history = system.history ++ [.consumed generation])
    {signal : Option Nat} {batch : Batch (Request K P)}
    (flushed : .returned signal batch ∈ system.history)
    (same : batch.generation = generation) :
    next.controller.buffer = system.controller.buffer ∧
      next.controller.inFlight = system.controller.inFlight ∧ ¬ next.owner.IsFlushing ∧
      (system.controller.onTimeout generation).value = (none, system.controller) := by
  obtain ⟨cause, taken, buffer, inFlight, rfl⟩ := step.acts_of_consumed noted
  have passed : generation < system.timer.current := same ▸ sound.returns signal batch flushed
  have gone : system.timer.isCurrent generation = false :=
    decide_eq_false (Nat.ne_of_gt passed)
  have stale : taken.timer.isCurrent generation = false := by
    rw [timer, buffer]
    exact gone
  rw [act_stale cause stale]
  refine ⟨buffer, inFlight, ?_, Controller.onTimeout_stale gone⟩
  cases cause with
  | call => exact id
  | received generation => exact id
  | drained generation batches => exact id

/-- What a signal of the ticker can do.  If a batch leaves on it, the batch is of the signalled
generation and holds exactly what joined during it, in order, and the signal was not early.  If
its window has been flushed before, it changes neither the buffer nor the keys in flight, and no
batch leaves. -/
theorem reachable_signal_exact [DecidableEq K] {controller : Controller K P}
    (new : controller.IsNew) (reached : Reachable controller system)
    (step : Step system next) (generation : Nat) :
    (∀ batch, next.history = system.history ++ [.returned (some generation) batch] →
      batch.generation = generation ∧
        batch.requests = (joinedIn generation system.history).map Prod.snd ∧
        ∃ first, (joinedIn generation system.history).head? = some first ∧
          (∃ now, .reported generation now ∈ system.history) ∧
          ∀ now, .reported generation now ∈ system.history →
            first.1 + controller.buffer.settings.timeout ≤ now) ∧
      (next.history = system.history ++ [.consumed generation] →
        (∃ signal batch, .returned signal batch ∈ system.history ∧
          batch.generation = generation) →
        next.controller.buffer = system.controller.buffer ∧
          next.controller.inFlight = system.controller.inFlight ∧ ¬ next.owner.IsFlushing ∧
          (system.controller.onTimeout generation).value = (none, system.controller)) := by
  have sound := reached.isSound new
  refine ⟨fun batch noted => sound.returned step noted, ?_⟩
  rintro noted ⟨signal, batch, flushed, same⟩
  exact sound.consumed step noted flushed same

/-- A window reported while its batch is on its way, whose signal comes when the next window is
open, and the signal of that next window. -/
theorem reachable_signal_exact_late_report :
    let settings : ControllerSettings :=
      { buffer := { timeout := 10, interval := 1 }, batchSize := 2 }
    let controller : Controller Nat String := .around settings (.empty settings.buffer none)
    let first : Request Nat String := ⟨7, .usual, "first"⟩
    let second : Request Nat String := ⟨8, .usual, "second"⟩
    ∃ held ignored closed flushed, controller.IsNew ∧
      Reachable controller held ∧ Step held ignored ∧ held.queue = [second] ∧
      .returned none ⟨[first], 0⟩ ∈ held.history ∧
      ignored.history = held.history ++ [.consumed 0] ∧
      (ignored.controller.buffer = held.controller.buffer ∧
        ignored.controller.inFlight = held.controller.inFlight ∧
        ¬ ignored.owner.IsFlushing ∧
        (held.controller.onTimeout 0).value = (none, held.controller)) ∧
      Reachable controller closed ∧ Step closed flushed ∧
      flushed.history = closed.history ++ [.returned (some 1) ⟨[second], 1⟩] ∧
      [second] = (joinedIn 1 closed.history).map Prod.snd ∧
      ∃ joined, (joinedIn 1 closed.history).head? = some joined ∧
        (∃ now, .reported 1 now ∈ closed.history) ∧
        ∀ now, .reported 1 now ∈ closed.history → joined.1 + 10 ≤ now := by
  intro settings controller first second
  have new : controller.IsNew := .unwatched settings rfl
  have begun : Reachable controller { controller } := .start
  have joined := begun.step (.owner (.submit 5 first rfl rfl))
  have opened := joined.step (.owner (.openWindow rfl))
  have loaded := opened.step (.ticker (.load 15 rfl rfl))
  have accepted := loaded.step (.ticker (.accept rfl rfl))
  have popped := accepted.step (.owner (.flush rfl))
  have reported := popped.step (.ticker (.report rfl (by decide)))
  have shut := reported.step (.owner (.closeWindow rfl))
  have advanced := shut.step (.owner (.advance rfl))
  have delivered := advanced.step (.ticker (.deliver rfl))
  have joinedAgain := delivered.step (.owner (.submit 20 second rfl rfl))
  have openedAgain := joinedAgain.step (.owner (.openWindow rfl))
  let state : WatchedController Nat String :=
    { controller := { controller with
        buffer := { controller.buffer with
          active := ⟨[second]⟩
          timer := { timeout := 10, current := 1, armed := some ⟨1, 30⟩, reported := 1 } }
        inFlight := [8, 7] }
      received := [0]
      history := [.joined 0 5 first, .reported 0 15, .returned none ⟨[first], 0⟩,
        .joined 1 20 second] }
  have held : Reachable controller state := openedAgain.step (.owner (.receive rfl rfl))
  have ignored := held.step (.owner (.onTimeout rfl List.mem_cons_self))
  have loadedAgain := ignored.step (.ticker (.load 30 rfl rfl))
  have acceptedAgain := loadedAgain.step (.ticker (.accept rfl rfl))
  have reportedAgain := acceptedAgain.step (.ticker (.report rfl (by decide)))
  have deliveredAgain := reportedAgain.step (.ticker (.deliver rfl))
  have round := deliveredAgain.step (.owner (.beginDrain rfl))
  have taken := round.step (.owner (.drain rfl rfl))
  have closed := taken.step (.owner (.closeWindow rfl))
  have stale := (reachable_signal_exact new held
    (.owner (.onTimeout rfl List.mem_cons_self)) 0).2 rfl
    ⟨none, ⟨[first], 0⟩, by decide, rfl⟩
  have brought := (reachable_signal_exact new closed (.owner (.advance rfl)) 1).1
    ⟨[second], 1⟩ rfl
  exact ⟨_, _, _, _, new, held, .owner (.onTimeout rfl List.mem_cons_self), rfl, by decide,
    rfl, stale, closed, .owner (.advance rfl), rfl, brought.2⟩

end WatchedController

end KeyedBatching
