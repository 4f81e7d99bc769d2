import KeyedBatching.RequestBuffer
import Mathlib.Logic.Function.Basic
import Mathlib.Logic.Relation

/-!
# Buffers and their ticker, step by step

Other threads open and close buffers, and stop the ticker, while its thread
checks the registrations that it has collected.  They meet at three kinds of
locks: that of the schedule; that of a registration, which a check holds until
the handler has returned; and that of a buffer's slot, which a close call holds
until it returns.  A step here is what one thread does between two accesses to
what is shared, and nothing is assumed about the order of the steps.

A close call is the same on any thread and in any handler, whether it is made
through the buffer, through a closer, or because the buffer is dropped, and a
controller closes its buffer.  A bare registration is like a buffer that nobody
but its owner closes.
-/

namespace KeyedBatching

/-! ## The system -/

/-- How far the thread has come with a registration whose lock it holds. -/
inductive CheckStage where
  | locked
  /-- The registration was found not to be silenced. -/
  | admitted
  /-- The timer has reported a window, and the handler was not called yet. -/
  | expired (generation : Nat)
  | calling
  | leaving
deriving DecidableEq

structure Check where
  registration : Registration
  stage : CheckStage
deriving DecidableEq

/-- How far a close call has come that has emptied its slot and holds the lock of the slot. -/
inductive ClosingStage where
  | taken (handle : RegistrationHandle)
  | silenced (handle : RegistrationHandle)
deriving DecidableEq

/-- What is remembered of a run: the calls of handlers, and the returns of close calls. -/
inductive BufferEvent where
  | called (number generation : Nat)
  | closed (number : Nat) (outcome : Except BufferError Unit)

/-- A ticker and the buffers that were opened with it, by the numbers of their timers. -/
structure WatchedBuffers (K P : Type) where
  ticker : Ticker
  /-- Nobody holds the state of the ticker any more. -/
  gone : Bool := false
  check : Option Check := none
  buffers : Nat → Option (RequestBuffer K P) := fun _ => none
  closing : Nat → Option ClosingStage := fun _ => none
  history : List BufferEvent := []

namespace WatchedBuffers

variable {K P : Type}

/-- The ticker as a claim finds it. -/
def ticker? (system : WatchedBuffers K P) : Option Ticker :=
  if system.gone then none else some system.ticker

def note (event : BufferEvent) (system : WatchedBuffers K P) : WatchedBuffers K P :=
  { system with history := system.history ++ [event] }

def withBuffer (number : Nat) (buffer : RequestBuffer K P) (system : WatchedBuffers K P) :
    WatchedBuffers K P :=
  { system with buffers := Function.update system.buffers number (some buffer) }

def withClosing (number : Nat) (stage : Option ClosingStage) (system : WatchedBuffers K P) :
    WatchedBuffers K P :=
  { system with closing := Function.update system.closing number stage }

theorem withBuffer_same (number : Nat) (buffer : RequestBuffer K P)
    (system : WatchedBuffers K P) :
    (system.withBuffer number buffer).buffers number = some buffer := by
  simp [withBuffer]

theorem withBuffer_other {number other : Nat} (differs : other ≠ number)
    (buffer : RequestBuffer K P) (system : WatchedBuffers K P) :
    (system.withBuffer number buffer).buffers other = system.buffers other := by
  simp [withBuffer, differs]

theorem withClosing_same (number : Nat) (stage : Option ClosingStage)
    (system : WatchedBuffers K P) : (system.withClosing number stage).closing number = stage := by
  simp [withClosing]

theorem withClosing_other {number other : Nat} (differs : other ≠ number)
    (stage : Option ClosingStage) (system : WatchedBuffers K P) :
    (system.withClosing number stage).closing other = system.closing other := by
  simp [withClosing, differs]

/-- The thread holds the lock of a registration. -/
def IsChecking (system : WatchedBuffers K P) (id : Nat) : Prop :=
  ∃ check, system.check = some check ∧ check.registration.id = id

/-- The thread is in the handler of a buffer. -/
def IsRunning (system : WatchedBuffers K P) (number : Nat) : Prop :=
  ∃ registration generation ends collected,
    system.ticker.activity = .handling registration generation ends collected ∧
      registration.timer = number

/-- The generations that the handler of a buffer was called with. -/
def callsOf (number : Nat) (system : WatchedBuffers K P) : List Nat :=
  system.history.filterMap fun
    | .called called generation => if called = number then some generation else none
    | .closed .. => none

/-- The check that the thread is in while it does something. -/
def underway : Activity → Option Check
  | .handling registration _ _ _ => some ⟨registration, .calling⟩
  | _ => none

theorem underway_beginRound (now : Instant) (ticker : Ticker) :
    underway (ticker.beginRound now).activity = none := by
  unfold Ticker.beginRound
  split
  · rfl
  · split <;> rfl

/-! ## Steps -/

/-- The number of the only ticker here. -/
def tickerNumber : Nat := 0

/-- The thread polls the timer of a registration, and drops the lock if nothing has expired. -/
def poll (registration : Registration) (now : Instant) (system : WatchedBuffers K P) :
    WatchedBuffers K P :=
  match system.buffers registration.timer with
  | none => { system with check := none }
  | some buffer =>
      let outcome := buffer.timer.pollExpired now
      { system.withBuffer registration.timer { buffer with timer := outcome.2 } with
        check := outcome.1.map fun generation => ⟨registration, .expired generation⟩ }

/-- A buffer is opened with the ticker, unless its settings are wrong or the ticker refuses. -/
def openBuffer (number : Nat) (settings : BufferSettings) (handler : Handler) (now : Instant)
    (system : WatchedBuffers K P) : WatchedBuffers K P :=
  let outcome :=
    (RequestBuffer.watched settings tickerNumber number number handler now system.ticker).value
  match outcome.1 with
  | .error _ => { system with ticker := outcome.2 }
  | .ok buffer => { system with ticker := outcome.2 }.withBuffer number buffer

/-- The end of a close call that has silenced its claim. -/
def endClosing (number : Nat) (handle : RegistrationHandle) (system : WatchedBuffers K P) :
    WatchedBuffers K P :=
  let system := system.withClosing number none
  match system.ticker? with
  | none => system.note (.closed number (.error (.close .shutdown)))
  | some ticker =>
      let outcome := ticker.remove handle.id
      { system with ticker := outcome.2 }.note (.closed number (outcome.1.mapError .close))

/-- The steps of the ticker's thread. -/
inductive ThreadStep : WatchedBuffers K P → WatchedBuffers K P → Prop
  | beginRound {system} (now : Instant) (between : system.check = none)
      (done : system.ticker.activity = .serving []) :
      ThreadStep system { system with ticker := system.ticker.beginRound now }
  | lock {system} {registration : Registration} {later : List Registration}
      (between : system.check = none)
      (collected : system.ticker.activity = .serving (registration :: later)) :
      ThreadStep system { system with
        ticker := { system.ticker with activity := .serving later }
        check := some ⟨registration, .locked⟩ }
  | skip {system} {registration : Registration}
      (locked : system.check = some ⟨registration, .locked⟩)
      (silenced : registration.id ∈ system.ticker.cancelled) :
      ThreadStep system { system with check := none }
  | allow {system} {registration : Registration}
      (locked : system.check = some ⟨registration, .locked⟩)
      (live : registration.id ∉ system.ticker.cancelled) :
      ThreadStep system { system with check := some ⟨registration, .admitted⟩ }
  | poll {system} {registration : Registration} (now : Instant)
      (admitted : system.check = some ⟨registration, .admitted⟩) :
      ThreadStep system (system.poll registration now)
  | call {system} {registration : Registration} {generation : Nat}
      {collected : List Registration} (ends : Instant)
      (expired : system.check = some ⟨registration, .expired generation⟩)
      (serving : system.ticker.activity = .serving collected) :
      ThreadStep system ({ system with
        ticker := (system.ticker.beginHandling registration generation ends collected).value
        check := some ⟨registration, .calling⟩ }.note (.called registration.timer generation))
  | leave {system} {registration : Registration} {generation : Nat} {ends : Instant}
      {collected : List Registration} (panicked : Bool)
      (handling : system.ticker.activity = .handling registration generation ends collected) :
      ThreadStep system { system with
        ticker := (system.ticker.finishHandling registration generation panicked collected).value
        check := some ⟨registration, .leaving⟩ }
  | unlock {system} {registration : Registration}
      (leaving : system.check = some ⟨registration, .leaving⟩) :
      ThreadStep system { system with check := none }

/-- The steps of the other threads, which a handler may take as well. -/
inductive CallerStep : WatchedBuffers K P → WatchedBuffers K P → Prop
  | openBuffer {system} {number : Nat} (settings : BufferSettings) (handler : Handler)
      (now : Instant) (unused : system.buffers number = none) (here : system.gone = false) :
      CallerStep system (system.openBuffer number settings handler now)
  /-- Whatever an owner does with its buffer, it leaves the slot alone. -/
  | operate {system} {number : Nat} {buffer next : RequestBuffer K P}
      (found : system.buffers number = some buffer)
      (slot : next.registration = buffer.registration) :
      CallerStep system (system.withBuffer number next)
  | closeEmpty {system} {number : Nat} {buffer : RequestBuffer K P}
      (found : system.buffers number = some buffer) (free : system.closing number = none)
      (empty : buffer.registration = none) :
      CallerStep system (system.note (.closed number (.ok ())))
  | take {system} {number : Nat} {buffer : RequestBuffer K P} {handle : RegistrationHandle}
      (found : system.buffers number = some buffer) (free : system.closing number = none)
      (full : buffer.registration = some handle) :
      CallerStep system ((system.withBuffer number { buffer with registration := none }).withClosing
        number (some (.taken handle)))
  | silence {system} {number : Nat} {handle : RegistrationHandle}
      (taken : system.closing number = some (.taken handle))
      (unchecked : ¬ system.IsChecking handle.id) :
      CallerStep system ({ system with ticker := system.ticker.silence handle.id }.withClosing
        number (some (.silenced handle)))
  | endClosing {system} {number : Nat} {handle : RegistrationHandle}
      (silenced : system.closing number = some (.silenced handle)) :
      CallerStep system (system.endClosing number handle)
  | requestStop {system} : CallerStep system { system with ticker := system.ticker.requestStop }
  | stopFromHandler {system} {number : Nat} (running : system.IsRunning number) :
      CallerStep system { system with ticker := system.ticker.stopFromHandler.value }
  /-- A thread that waited for the end of the ticker's thread goes on. -/
  | conclude {system} (stopped : system.ticker.stopRequested = true)
      (ended : system.ticker.joinable = true → system.ticker.hasEnded = true) :
      CallerStep system { system with ticker := system.ticker.conclude.value }
  | discard {system} (stopped : system.ticker.stopRequested = true)
      (ended : system.ticker.hasEnded = true) :
      CallerStep system { system with gone := true }

inductive Step (system next : WatchedBuffers K P) : Prop
  | thread (step : ThreadStep system next)
  | caller (step : CallerStep system next)

/-- The states that a ticker reaches from its start on. -/
inductive Reachable : WatchedBuffers K P → Prop
  | start (name : String) : Reachable { ticker := (Ticker.start name).value }
  | step {system next : WatchedBuffers K P} (reached : Reachable system)
      (step : Step system next) : Reachable next

theorem Reachable.run {system later : WatchedBuffers K P} (reached : Reachable system)
    (run : Relation.ReflTransGen Step system later) : Reachable later := by
  induction run with
  | refl => exact reached
  | tail _ step ih => exact ih.step step

/-! ## Undisturbed runs -/

theorem eq_of_ticker?_eq_some {system : WatchedBuffers K P} {ticker : Ticker}
    (here : system.ticker? = some ticker) : ticker = system.ticker := by
  unfold ticker? at here
  split at here
  · cases here
  · exact (Option.some.inj here).symm

theorem withBuffer_self {system : WatchedBuffers K P} {number : Nat}
    {buffer : RequestBuffer K P} (found : system.buffers number = some buffer) :
    system.withBuffer number buffer = system := by
  simp [withBuffer, ← found]

theorem withClosing_withClosing (number : Nat) (stage next : Option ClosingStage)
    (system : WatchedBuffers K P) :
    (system.withClosing number stage).withClosing number next =
      system.withClosing number next := by
  simp [withClosing]

theorem withClosing_self {system : WatchedBuffers K P} {number : Nat}
    (free : system.closing number = none) : system.withClosing number none = system := by
  simp [withClosing, ← free]

theorem endClosing_withClosing (number : Nat) (handle : RegistrationHandle)
    (stage : Option ClosingStage) (system : WatchedBuffers K P) :
    (system.withClosing number stage).endClosing number handle =
      system.endClosing number handle := by
  rw [endClosing, endClosing, withClosing_withClosing]

theorem ofSlot_here (handle : RegistrationHandle) (ticker : Ticker) :
    (Closing.ofSlot (some handle) (some ticker)).value =
      ⟨(ticker.cancel handle.id).1.mapError .close, none, some (ticker.cancel handle.id).2⟩ := by
  rcases cancelled : ticker.cancel handle.id with ⟨outcome, after⟩
  simp only [Closing.ofSlot, cancelled]
  cases outcome <;> rfl

/-- A close call that finds a claim gets to its end, unless a check holds it up. -/
theorem claim_run {system : WatchedBuffers K P} {number : Nat} {buffer : RequestBuffer K P}
    {handle : RegistrationHandle} (found : system.buffers number = some buffer)
    (free : system.closing number = none) (full : buffer.registration = some handle)
    (unchecked : ¬ system.IsChecking handle.id) :
    Relation.ReflTransGen CallerStep system
      (({ system with ticker := system.ticker.silence handle.id }.withBuffer number
        { buffer with registration := none }).endClosing number handle) := by
  let emptied : RequestBuffer K P := { buffer with registration := none }
  let claimed := (system.withBuffer number emptied).withClosing number (some (.taken handle))
  let silenced := { system with ticker := system.ticker.silence handle.id }.withBuffer
    number emptied
  have claims : CallerStep system claimed := .take found free full
  have silences : CallerStep claimed
      (silenced.withClosing number (some (.silenced handle))) := by
    rw [← withClosing_withClosing number (some (.taken handle))]
    exact .silence (withClosing_same _ _ _) unchecked
  have ends : CallerStep (silenced.withClosing number (some (.silenced handle)))
      (silenced.endClosing number handle) := by
    rw [← endClosing_withClosing number handle (some (.silenced handle))]
    exact .endClosing (withClosing_same _ _ _)
  exact ((Relation.ReflTransGen.single claims).tail silences).tail ends

/-- Undisturbed, a close call leaves behind what closing the slot leaves behind. -/
theorem close_run {system : WatchedBuffers K P} {number : Nat} {buffer : RequestBuffer K P}
    (found : system.buffers number = some buffer) (free : system.closing number = none)
    (unchecked : ∀ handle, buffer.registration = some handle → ¬ system.IsChecking handle.id) :
    let closing := (Closing.ofSlot buffer.registration system.ticker?).value
    ∃ ticker, (∀ after, closing.ticker = some after → ticker = after) ∧
      Relation.ReflTransGen CallerStep system
        (({ system with ticker }.withBuffer number
          { buffer with registration := closing.slot }).note (.closed number closing.outcome)) := by
  intro closing
  cases slot : buffer.registration with
  | none =>
      have result : closing = ⟨.ok (), none, system.ticker?⟩ := by
        simp [closing, slot, Closing.ofSlot]
      have untouched : { buffer with registration := none } = buffer := by rw [← slot]
      rw [result, untouched]
      refine ⟨system.ticker, fun after here => (eq_of_ticker?_eq_some here).symm, ?_⟩
      rw [withBuffer_self found]
      exact .single (.closeEmpty found free slot)
  | some handle =>
      let silenced := { system with ticker := system.ticker.silence handle.id }.withBuffer number
        { buffer with registration := none }
      have run : Relation.ReflTransGen CallerStep system (silenced.endClosing number handle) :=
        claim_run found free slot (unchecked handle slot)
      have unclosed : silenced.withClosing number none = silenced := withClosing_self free
      have kept : silenced.ticker? = system.ticker?.map (Ticker.silence handle.id) := by
        by_cases gone : system.gone = true <;> simp [silenced, withBuffer, ticker?, gone]
      rw [endClosing, unclosed, kept] at run
      cases here : system.ticker? with
      | none =>
          have result : closing = ⟨.error (.close .shutdown), none, none⟩ := by
            simp [closing, slot, here, Closing.ofSlot]
          rw [here] at run
          rw [result]
          exact ⟨system.ticker.silence handle.id, by simp, run⟩
      | some ticker =>
          obtain rfl := eq_of_ticker?_eq_some here
          have result : closing = ⟨(system.ticker.cancel handle.id).1.mapError .close, none,
              some (system.ticker.cancel handle.id).2⟩ := by
            rw [← ofSlot_here]
            simp only [closing, slot, here]
          rw [here] at run
          rw [result]
          exact ⟨(system.ticker.cancel handle.id).2, fun after => Option.some.inj, run⟩

end WatchedBuffers

end KeyedBatching
