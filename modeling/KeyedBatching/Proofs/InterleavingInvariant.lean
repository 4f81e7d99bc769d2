import KeyedBatching.Proofs.TickerInterleaving

/-!
# What every interleaving preserves

The owner and the ticker meet in the timer, in the channel of signals, and in
the history of what happened.  The active queue holds exactly the requests that
joined during the generation in progress, an open window starts with the first
of them, and a window that was reported is on its way out: either the owner is
just closing it, or its signal has yet to be acted on.
-/

namespace KeyedBatching

namespace WatchedController

variable {K P : Type}

/-! ## Histories -/

def joinedIn? (generation : Nat) : Occurrence K P → Option (Instant × Request K P)
  | .joined during now request => if during = generation then some (now, request) else none
  | _ => none

/-- The requests that joined the active queue during a generation, each with its instant, in the
order in which they joined. -/
def joinedIn (generation : Nat) (history : List (Occurrence K P)) :
    List (Instant × Request K P) :=
  history.filterMap (joinedIn? generation)

/-- A window counts from the first request of its generation. -/
def Opens (timeout : Duration) (window : Window) (history : List (Occurrence K P)) : Prop :=
  ∃ first, (joinedIn window.generation history).head? = some first ∧
    window.deadline = first.1 + timeout

/-- At an instant the first request of a generation has the age of the timeout. -/
def IsDue (timeout : Duration) (generation : Nat) (now : Instant)
    (history : List (Occurrence K P)) : Prop :=
  ∃ first, (joinedIn generation history).head? = some first ∧ first.1 + timeout ≤ now

theorem joinedIn_append (generation : Nat) (history later : List (Occurrence K P)) :
    joinedIn generation (history ++ later) =
      joinedIn generation history ++ joinedIn generation later :=
  List.filterMap_append

theorem joinedIn_joined (generation : Nat) (now : Instant) (request : Request K P)
    (history : List (Occurrence K P)) :
    joinedIn generation (history ++ [.joined generation now request]) =
      joinedIn generation history ++ [(now, request)] := by
  rw [joinedIn_append]
  simp [joinedIn, joinedIn?]

theorem joinedIn_of_silent {generation : Nat} {occurrence : Occurrence K P}
    (silent : joinedIn? generation occurrence = none) (history : List (Occurrence K P)) :
    joinedIn generation (history ++ [occurrence]) = joinedIn generation history := by
  rw [joinedIn_append]
  simp [joinedIn, silent]

/-- The first request of a generation stays the first. -/
theorem head?_joinedIn_append {generation : Nat} {history : List (Occurrence K P)}
    {first : Instant × Request K P} (head : (joinedIn generation history).head? = some first)
    (later : List (Occurrence K P)) :
    (joinedIn generation (history ++ later)).head? = some first := by
  rw [joinedIn_append, List.head?_append, head, Option.some_or]

theorem Opens.append {timeout : Duration} {window : Window} {history : List (Occurrence K P)}
    (opens : Opens timeout window history) (later : List (Occurrence K P)) :
    Opens timeout window (history ++ later) := by
  obtain ⟨first, head, deadline⟩ := opens
  exact ⟨first, head?_joinedIn_append head later, deadline⟩

theorem IsDue.append {timeout : Duration} {generation : Nat} {now : Instant}
    {history : List (Occurrence K P)} (due : IsDue timeout generation now history)
    (later : List (Occurrence K P)) : IsDue timeout generation now (history ++ later) := by
  obtain ⟨first, head, age⟩ := due
  exact ⟨first, head?_joinedIn_append head later, age⟩

theorem Opens.isDue {timeout : Duration} {window : Window} {history : List (Occurrence K P)}
    (opens : Opens timeout window history) {now : Instant} (expired : window.deadline ≤ now) :
    IsDue timeout window.generation now history := by
  obtain ⟨first, head, deadline⟩ := opens
  exact ⟨first, head, deadline ▸ expired⟩

end WatchedController

/-! ## Phases -/

/-- A batch has left the queue, and its generation is still in progress. -/
def OwnerPhase.IsFlushing {K P : Type} : OwnerPhase K P → Prop
  | .popped _ _ => True
  | .closed _ _ => True
  | _ => False

/-- The window that the ticker has loaded and not yet done with. -/
def TickerPhase.window? : TickerPhase → Option Window
  | .loaded window _ => some window
  | .expired window _ => some window
  | _ => none

namespace WatchedController

variable {K P : Type}

/-- A signal is being delivered, or is in the channel, or was received and not acted on. -/
def IsPending (generation : Nat) (system : WatchedController K P) : Prop :=
  system.ticker = .delivering generation ∨ generation ∈ system.controller.signals ∨
    generation ∈ system.received

/-- The active queue holds what joined during the generation in progress, there is room, and a
window is open for whatever is queued. -/
structure IsSettled (system : WatchedController K P) : Prop where
  room : system.queue.length < system.controller.batchSize
  queued : (joinedIn system.timer.current system.history).map Prod.snd = system.queue
  closed_iff : system.timer.armed = none ↔ system.timer.timeout = 0 ∨ system.queue = []

/-- One more request has joined, and if it is the first one its window is not open yet. -/
structure IsJoining (now : Instant) (system : WatchedController K P) : Prop where
  fits : system.queue.length ≤ system.controller.batchSize
  queued : (joinedIn system.timer.current system.history).map Prod.snd = system.queue
  filled : system.queue ≠ []
  closed : system.timer.timeout = 0 → system.timer.armed = none
  first : system.timer.armed = none → system.timer.timeout = 0 ∨
    ∃ request, joinedIn system.timer.current system.history = [(now, request)]

/-- All that joined during the generation in progress is in the batch.  If it leaves on a signal,
the signal is that of its generation and was reported. -/
structure IsFlushing (batch : Batch (Request K P)) (cause : FlushCause K P)
    (system : WatchedController K P) : Prop where
  empty : system.queue = []
  taken : (joinedIn system.timer.current system.history).map Prod.snd = batch.requests
  current : batch.generation = system.timer.current
  caused : ∀ generation, cause.signal? = some generation →
    generation = system.timer.current ∧ ∃ now, .reported generation now ∈ system.history

/-- What holds while the owner is in a phase. -/
def HoldsIn (system : WatchedController K P) : OwnerPhase K P → Prop
  | .resting => system.IsSettled
  | .joining now => system.IsJoining now
  | .popped batch cause => system.IsFlushing batch cause
  | .closed batch cause => system.IsFlushing batch cause ∧ system.timer.armed = none
  | .draining _ => system.IsSettled

/-- What holds in every phase of the owner: the timer, the ticker and the signals agree with the
history. -/
structure IsTraced (timeout : Duration) (system : WatchedController K P) : Prop where
  positive : 0 < system.controller.batchSize
  configured : system.timer.timeout = timeout
  window : ∀ window, system.timer.armed = some window →
    window.generation = system.timer.current ∧ Opens timeout window system.history
  joins : ∀ generation, system.timer.current < generation →
    joinedIn generation system.history = []
  mark : system.timer.reported ≤ system.timer.current + 1
  reports : ∀ generation now, .reported generation now ∈ system.history →
    generation < system.timer.reported ∧ IsDue timeout generation now system.history
  returns : ∀ signal batch, .returned signal batch ∈ system.history →
    batch.generation < system.timer.current
  pending : ∀ generation, system.IsPending generation →
    ∃ now, .reported generation now ∈ system.history
  held : ∀ window, system.ticker.window? = some window →
    window.generation ≤ system.timer.current ∧ Opens timeout window system.history
  expired : ∀ window now, system.ticker = .expired window now → window.deadline ≤ now

/-- The invariant.  Once the generation in progress has been reported, its batch is leaving or
its signal is still pending. -/
structure IsSound (timeout : Duration) (system : WatchedController K P) : Prop
    extends system.IsTraced timeout where
  phase : system.HoldsIn system.owner
  awaited : system.timer.reported = system.timer.current + 1 →
    system.owner.IsFlushing ∨ system.IsPending system.timer.current

variable {system : WatchedController K P} {timeout : Duration}

/-! ## What a step leaves alone -/

/-- The phases of the owner look at the active queue, the timer and the history. -/
theorem HoldsIn.congr {phase : OwnerPhase K P} (holds : system.HoldsIn phase)
    {next : WatchedController K P} (queue : next.queue = system.queue)
    (batchSize : next.controller.batchSize = system.controller.batchSize)
    (armed : next.timer.armed = system.timer.armed)
    (current : next.timer.current = system.timer.current)
    (timeout : next.timer.timeout = system.timer.timeout)
    (joined : joinedIn system.timer.current next.history =
      joinedIn system.timer.current system.history)
    (history : ∀ occurrence ∈ system.history, occurrence ∈ next.history) :
    next.HoldsIn phase := by
  have settles (settled : system.IsSettled) : next.IsSettled := by
    obtain ⟨room, queued, closed⟩ := settled
    rw [← joined, ← current] at queued
    rw [← armed, ← timeout] at closed
    rw [← queue] at room queued closed
    exact ⟨batchSize ▸ room, queued, closed⟩
  have flushes {batch : Batch (Request K P)} {cause : FlushCause K P}
      (flushing : system.IsFlushing batch cause) : next.IsFlushing batch cause := by
    obtain ⟨empty, taken, generation, caused⟩ := flushing
    rw [← queue] at empty
    rw [← joined] at taken
    rw [← current] at taken generation caused
    refine ⟨empty, taken, generation, ?_⟩
    intro signal signalled
    obtain ⟨same, now, reported⟩ := caused signal signalled
    exact ⟨same, now, history _ reported⟩
  cases phase with
  | resting => exact settles holds
  | joining now =>
      obtain ⟨fits, queued, filled, closed, first⟩ := holds
      rw [← joined] at queued first
      rw [← current] at queued first
      rw [← armed, ← timeout] at closed first
      rw [← queue] at fits queued filled
      exact ⟨batchSize ▸ fits, queued, filled, closed, first⟩
  | popped batch cause => exact flushes holds
  | closed batch cause =>
      obtain ⟨flushing, closed⟩ := holds
      exact ⟨flushes flushing, armed.trans closed⟩
  | draining batches => exact settles holds

/-- What may be noted next: a request of the generation in progress, a window that is due, or a
batch of an earlier generation. -/
def Admits (timeout : Duration) (system : WatchedController K P) : Occurrence K P → Prop
  | .joined generation _ _ => generation = system.timer.current
  | .reported generation now =>
      generation < system.timer.reported ∧ IsDue timeout generation now system.history
  | .consumed _ => True
  | .returned _ batch => batch.generation < system.timer.current

theorem IsTraced.note (traced : system.IsTraced timeout) {occurrence : Occurrence K P}
    (admitted : system.Admits timeout occurrence) :
    (system.note occurrence).IsTraced timeout where
  positive := traced.positive
  configured := traced.configured
  window := by
    intro window armed
    obtain ⟨same, opens⟩ := traced.window window armed
    exact ⟨same, opens.append _⟩
  joins := by
    intro later ahead
    have silent : joinedIn? later occurrence = none := by
      cases occurrence with
      | joined generation now request =>
          have same : generation = system.timer.current := admitted
          have behind : generation ≠ later := same ▸ Nat.ne_of_lt ahead
          exact if_neg behind
      | reported generation now => rfl
      | consumed generation => rfl
      | returned signal batch => rfl
    exact (joinedIn_of_silent silent system.history).trans (traced.joins later ahead)
  mark := traced.mark
  reports := by
    intro generation now noted
    rcases List.mem_append.mp noted with before | last
    · obtain ⟨marked, due⟩ := traced.reports generation now before
      exact ⟨marked, due.append _⟩
    · obtain rfl := List.mem_singleton.mp last
      obtain ⟨marked, due⟩ := admitted
      exact ⟨marked, due.append _⟩
  returns := by
    intro signal batch noted
    rcases List.mem_append.mp noted with before | last
    · exact traced.returns signal batch before
    · obtain rfl := List.mem_singleton.mp last
      exact admitted
  pending := by
    intro signal pending
    obtain ⟨now, noted⟩ := traced.pending signal pending
    exact ⟨now, List.mem_append_left _ noted⟩
  held := by
    intro window holds
    obtain ⟨bound, opens⟩ := traced.held window holds
    exact ⟨bound, opens.append _⟩
  expired := traced.expired

end WatchedController

end KeyedBatching
