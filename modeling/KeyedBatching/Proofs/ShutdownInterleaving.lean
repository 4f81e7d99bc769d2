import KeyedBatching.Proofs.HandlerRounds

/-!
# Shutting a ticker down, lock by lock

Any number of threads call for the end of a ticker, and so may the handlers that
its own thread runs.  A call first asks the thread to stop, under the lock of the
schedule.  Then it takes the lock of the thread's handle, and keeps that lock to
its end.  Whoever finds the handle there takes it: another thread waits with it
for the end of the ticker's thread, and a handler, which cannot wait for itself,
drops it.

Meanwhile the thread goes on with its rounds, each of which begins under the lock
of the schedule, and buffers are opened and closed as before.  Dropping a ticker
is one more call for its end.
-/

namespace KeyedBatching

/-! ## The system -/

/-- Those who can hold a lock: the thread of the ticker, and other threads by their names. -/
inductive Party (ι : Type) where
  | thread
  | caller (name : ι)
deriving DecidableEq

inductive Lock where
  | schedule
  | handle
  | registration (id : Nat)
deriving DecidableEq

/-- How far a call for the end of the ticker has come. -/
inductive StopStage where
  | entering
  /-- In possession of the lock of the schedule. -/
  | asking
  | claiming
  /-- In possession of the lock of the handle, here and in all later stages. -/
  | claimed
  | joining
  | leaving
deriving DecidableEq

/-- What is remembered of a run: the returns of calls, and that a handler dropped the handle. -/
inductive StopEvent (ι : Type) where
  | returned (party : Party ι)
  | detached
deriving DecidableEq

/-- A ticker with its buffers, the locks of its schedule and of its handle, and the calls for its
end that are on their way. -/
structure StoppableTicker (ι K P : Type) where
  base : WatchedBuffers K P
  scheduleHolder : Option (Party ι) := none
  handleHolder : Option (Party ι) := none
  calls : Party ι → Option StopStage := fun _ => none
  history : List (StopEvent ι) := []

namespace StoppableTicker

variable {ι K P : Type}

abbrev ticker (system : StoppableTicker ι K P) : Ticker :=
  system.base.ticker

def withTicker (ticker : Ticker) (system : StoppableTicker ι K P) : StoppableTicker ι K P :=
  { system with base := { system.base with ticker } }

def note (event : StopEvent ι) (system : StoppableTicker ι K P) : StoppableTicker ι K P :=
  { system with history := system.history ++ [event] }

/-- The lock of a registration is the thread's, whose check holds it. -/
def Holds (system : StoppableTicker ι K P) (party : Party ι) : Lock → Prop
  | .schedule => system.scheduleHolder = some party
  | .handle => system.handleHolder = some party
  | .registration id => party = .thread ∧ system.base.IsChecking id

/-- The lock that a party needs for its next step. -/
def Awaits (system : StoppableTicker ι K P) (party : Party ι) : Lock → Prop
  | .schedule => system.calls party = some .entering ∨
      party = .thread ∧ system.base.IsBetween ∧ system.scheduleHolder ≠ some .thread
  | .handle => system.calls party = some .claiming
  | .registration id => party = .thread ∧ system.base.check = none ∧
      ∃ registration later, system.ticker.activity = .serving (registration :: later) ∧
        registration.id = id

/-! ## Steps -/

variable [DecidableEq ι]

def withCall (party : Party ι) (stage : Option StopStage) (system : StoppableTicker ι K P) :
    StoppableTicker ι K P :=
  { system with calls := Function.update system.calls party stage }

/-- The steps of a party's call for the end of the ticker. -/
inductive StopStep (party : Party ι) : StoppableTicker ι K P → StoppableTicker ι K P → Prop
  | enter {system} (idle : system.calls party = none)
      (inside : party = .thread → system.base.IsHandling) :
      StopStep party system (system.withCall party (some .entering))
  | lockSchedule {system} (entering : system.calls party = some .entering)
      (free : system.scheduleHolder = none) :
      StopStep party system
        ({ system with scheduleHolder := some party }.withCall party (some .asking))
  | ask {system} (asking : system.calls party = some .asking) :
      StopStep party system ({ system.withTicker system.ticker.requestStop with
        scheduleHolder := none }.withCall party (some .claiming))
  | lockHandle {system} (claiming : system.calls party = some .claiming)
      (free : system.handleHolder = none) :
      StopStep party system
        ({ system with handleHolder := some party }.withCall party (some .claimed))
  | join {system} (claimed : system.calls party = some .claimed)
      (present : system.ticker.joinable = true) (outside : party ≠ .thread) :
      StopStep party system (system.withCall party (some .joining))
  | detach {system} (claimed : system.calls party = some .claimed)
      (present : system.ticker.joinable = true) (inside : party = .thread) :
      StopStep party system (((system.withTicker system.ticker.stopFromHandler.value).withCall
        party (some .leaving)).note .detached)
  | pass {system} (claimed : system.calls party = some .claimed)
      (taken : system.ticker.joinable = false) :
      StopStep party system
        ((system.withTicker system.ticker.conclude.value).withCall party (some .leaving))
  | conclude {system} (joining : system.calls party = some .joining)
      (ended : system.ticker.hasEnded = true) :
      StopStep party system
        ((system.withTicker system.ticker.conclude.value).withCall party (some .leaving))
  | leave {system} (leaving : system.calls party = some .leaving) :
      StopStep party system
        (({ system with handleHolder := none }.withCall party none).note (.returned party))

/-- A step of the thread, of a call for the end of the ticker, or of anybody else, who leaves the
request to stop and the handle alone. -/
inductive Step : StoppableTicker ι K P → StoppableTicker ι K P → Prop
  | lockSchedule {system} (between : system.base.IsBetween)
      (free : system.scheduleHolder = none) :
      Step system { system with scheduleHolder := some .thread }
  | beginRound {system} (now : Instant) (between : system.base.IsBetween)
      (held : system.scheduleHolder = some .thread) :
      Step system
        { system.withTicker (system.ticker.beginRound now) with scheduleHolder := none }
  | work {system} {base : WatchedBuffers K P} (within : ¬ system.base.IsBetween)
      (quiet : system.calls .thread = none) (step : system.base.ThreadStep base) :
      Step system { system with base }
  | stop {system next} (party : Party ι) (step : StopStep party system next) : Step system next
  | bystander {system} {base : WatchedBuffers K P} (step : system.base.CallerStep base)
      (asked : base.ticker.stopRequested = system.ticker.stopRequested)
      (taken : base.ticker.joinable = system.ticker.joinable)
      (free : base.ticker.schedule = system.ticker.schedule ∨ system.scheduleHolder = none) :
      Step system { system with base }

/-- The states that a ticker reaches from its start on. -/
inductive Reachable : StoppableTicker ι K P → Prop
  | start (name : String) : Reachable { base := { ticker := (Ticker.start name).value } }
  | step {system next : StoppableTicker ι K P} (reached : Reachable system)
      (step : Step system next) : Reachable next

/-! ## Undisturbed calls -/

variable {system : StoppableTicker ι K P} {party : Party ι}

@[simp] theorem withCall_self (party : Party ι) (stage : Option StopStage)
    (system : StoppableTicker ι K P) : (system.withCall party stage).calls party = stage :=
  Function.update_self ..

theorem withCall_other {other : Party ι} (differs : other ≠ party) (stage : Option StopStage)
    (system : StoppableTicker ι K P) :
    (system.withCall party stage).calls other = system.calls other :=
  Function.update_of_ne differs ..

@[simp] theorem withCall_withCall (party : Party ι) (stage later : Option StopStage)
    (system : StoppableTicker ι K P) :
    (system.withCall party stage).withCall party later = system.withCall party later := by
  simp [withCall]

/-- A call asks the thread to stop. -/
theorem ask_run (idle : system.calls party = none)
    (inside : party = .thread → system.base.IsHandling)
    (scheduleFree : system.scheduleHolder = none) :
    Relation.ReflTransGen (StopStep party) system
      ((system.withTicker system.ticker.requestStop).withCall party (some .claiming)) := by
  have enters := StopStep.enter idle inside
  have locks := StopStep.lockSchedule (withCall_self party (some .entering) system) scheduleFree
  have asking := (Relation.ReflTransGen.single enters).tail locks
  have claiming := asking.tail (.ask (withCall_self ..))
  simpa [withCall, withTicker, ← scheduleFree] using claiming

/-- The part of a call that is the same for all parties: it asks the thread to stop, and takes the
lock of the handle. -/
theorem claim_run (idle : system.calls party = none)
    (inside : party = .thread → system.base.IsHandling)
    (scheduleFree : system.scheduleHolder = none) (handleFree : system.handleHolder = none) :
    Relation.ReflTransGen (StopStep party) system
      ({ system.withTicker system.ticker.requestStop with
        handleHolder := some party }.withCall party (some .claimed)) := by
  have claiming := ask_run idle inside scheduleFree
  have claimed := claiming.tail (.lockHandle (withCall_self ..) handleFree)
  simpa [withCall, withTicker] using claimed

/-- The end of a call, which gives the lock of the handle back. -/
theorem leave_step (idle : system.calls party = none) (handleFree : system.handleHolder = none) :
    StopStep party ({ system with handleHolder := some party }.withCall party (some .leaving))
      (system.note (.returned party)) := by
  have leaves := StopStep.leave
    (withCall_self party (some .leaving) { system with handleHolder := some party })
  simpa [withCall, note, ← idle, ← handleFree] using leaves

/-- A thread that finds the ticker's thread ended, or its handle taken, gets to the end of its
call. -/
theorem shutdown_run {name : ι} (idle : system.calls (.caller name) = none)
    (scheduleFree : system.scheduleHolder = none) (handleFree : system.handleHolder = none)
    (ready : system.ticker.joinable = true → system.ticker.hasEnded = true) :
    Relation.ReflTransGen (StopStep (.caller name)) system
      ((system.withTicker system.ticker.requestStop.conclude.value).note
        (.returned (.caller name))) := by
  have claimed := claim_run idle (by intro inside; cases inside) scheduleFree handleFree
  let stopped := system.withTicker system.ticker.requestStop.conclude.value
  have leaving : Relation.ReflTransGen (StopStep (.caller name)) system
      ({ stopped with handleHolder := some (.caller name) }.withCall (.caller name)
        (some .leaving)) := by
    cases present : system.ticker.joinable with
    | true =>
        have joining := claimed.tail (.join (withCall_self ..) present (by simp))
        have concluded := joining.tail (.conclude (withCall_self ..) (ready present))
        simpa [stopped, withCall, withTicker] using concluded
    | false =>
        have passed := claimed.tail (.pass (withCall_self ..) present)
        simpa [stopped, withCall, withTicker] using passed
  exact leaving.tail (leave_step idle handleFree)

/-- A handler drops the handle, or finds it gone, and gets to the end of its call. -/
theorem stopFromHandler_run (idle : system.calls .thread = none)
    (handling : system.base.IsHandling)
    (scheduleFree : system.scheduleHolder = none) (handleFree : system.handleHolder = none) :
    ∃ history, Relation.ReflTransGen (StopStep .thread) system
      { system.withTicker system.ticker.stopFromHandler.value with history } := by
  have claimed := claim_run idle (fun _ => handling) scheduleFree handleFree
  let stopped := system.withTicker system.ticker.stopFromHandler.value
  have leaving : ∃ history, Relation.ReflTransGen (StopStep .thread) system
      ({ stopped with handleHolder := some .thread, history }.withCall .thread
        (some .leaving)) := by
    cases present : system.ticker.joinable with
    | true =>
        refine ⟨system.history ++ [.detached], ?_⟩
        have detached := claimed.tail (.detach (withCall_self ..) present rfl)
        simpa [stopped, withCall, withTicker, note, Ticker.stopFromHandler,
          Ticker.requestStop] using detached
    | false =>
        refine ⟨system.history, ?_⟩
        have passed := claimed.tail (.pass (withCall_self ..) present)
        simpa [stopped, withCall, withTicker, Ticker.stopFromHandler, Ticker.requestStop,
          Ticker.conclude_value] using passed
  obtain ⟨history, run⟩ := leaving
  let released : StoppableTicker ι K P := { stopped with history }
  have leaves : StopStep .thread
      ({ released with handleHolder := some .thread }.withCall .thread (some .leaving))
      (released.note (.returned .thread)) := leave_step idle handleFree
  refine ⟨history ++ [.returned .thread], ?_⟩
  exact run.tail leaves

end StoppableTicker

end KeyedBatching
