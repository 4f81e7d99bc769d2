import KeyedBatching.BatchTimer
import KeyedBatching.Proofs.ScheduleRounds
import Mathlib.Logic.Function.Basic

/-!
# The service of a ticker

A ticker together with the timers that it watches, as a run of what happens to
them at given instants: registrations and cancellations by other threads, changes
of a timer by its owner, rounds of the thread, and the check of each registration
that a round has collected.  Each call of a handler returns or panics, whatever the
other calls of that handler do, and none shuts the ticker down.

Nothing is assumed about the order of the events but what the locks enforce.  A
round takes the registrations in the order of a table that has none of its own, so
the thread may check them in any order.  A cancellation and a check of the same
registration exclude each other until the handler is left.
-/

namespace KeyedBatching

open Telemetry

theorem KeyTable.erase_of_absent {K V : Type} [DecidableEq K] {table : KeyTable K V} {key : K}
    (absent : table.get? key = none) : table.erase key = table := by
  obtain ⟨entries⟩ := table
  rw [erase, mk.injEq, List.filter_eq_self]
  intro entry member
  simpa using fun same : entry.1 = key =>
    get?_eq_none_iff.mp absent (List.mem_map.mpr ⟨entry, member, same⟩)

/-- What happens to a ticker and to the timers that it watches. -/
inductive ServiceEvent where
  | register (timer inbox : Nat) (handler : Handler) (now : Instant) (delay period : Duration)
  /-- The first half of a cancellation. -/
  | silence (id : Nat)
  /-- The second half of a cancellation. -/
  | remove (id : Nat)
  /-- The owner of a timer changes it. -/
  | access (timer : Nat) (change : BatchTimer → BatchTimer)
  /-- A round that collects what is due. -/
  | collect (now : Instant)
  /-- A round whose sums leave the clock's range, at which the thread dies. -/
  | overrun (now : Instant)
  /-- A check that finds its registration silenced. -/
  | pass (registration : Registration) (now : Instant)
  /-- A check that polls the timer, up to the call of the handler. -/
  | check (registration : Registration) (now : Instant)
  /-- The call of a handler is over: it has returned, or it has panicked. -/
  | leave (panicked : Bool)

/-- A ticker, its timers by their numbers, and what is remembered of a run. -/
structure TickerService where
  ticker : Ticker
  timers : Nat → BatchTimer
  /-- All registrations that were made, in order. -/
  registered : List Registration := []
  /-- The calls of handlers, each with its generation, in order. -/
  calls : List (Registration × Nat) := []
  /-- The calls that are over, in order, each with whether it panicked. -/
  ended : List ((Registration × Nat) × Bool) := []
  metrics : Metrics := {}

namespace TickerService

/-- A ticker that has just started. -/
def start (name : String) (timers : Nat → BatchTimer) : TickerService :=
  { ticker := (Ticker.start name).value, timers }

/-- The generations that the handler of a registration was called with, in order. -/
def firesOf (id : Nat) (system : TickerService) : List Nat :=
  (system.calls.filter fun call => call.1.id = id).map Prod.snd

/-- The call that the thread is in. -/
def underway (system : TickerService) : Option (Registration × Nat) :=
  match system.ticker.activity with
  | .handling registration generation _ _ => some (registration, generation)
  | .serving _ | .finished | .crashed _ => none

/-! ## Steps -/

/-- Another thread has a timer watched. -/
def enter (timer inbox : Nat) (handler : Handler) (now : Instant) (delay period : Duration)
    (system : TickerService) : TickerService :=
  let outcome := system.ticker.register timer inbox handler now delay period
  { system with
    ticker := outcome.value.2
    registered := system.registered ++ [⟨system.ticker.nextId, timer, inbox, handler⟩]
    metrics := system.metrics.absorb outcome.notices }

/-- The thread goes on to other registrations. -/
def goOn (later : List Registration) (system : TickerService) : TickerService :=
  { system with ticker := { system.ticker with activity := .serving later } }

/-- The thread polls the timer of a registration, and calls the handler of an expired window. -/
def look (registration : Registration) (now : Instant) (later : List Registration)
    (system : TickerService) : TickerService :=
  let outcome := (system.timers registration.timer).pollExpired now
  let polled :=
    { system with timers := Function.update system.timers registration.timer outcome.2 }
  match outcome.1 with
  | none => polled.goOn later
  | some generation =>
      let ends := now + registration.handler.duration
      let begun := polled.ticker.beginHandling registration generation ends later
      { polled with
        ticker := begun.value
        calls := polled.calls ++ [(registration, generation)]
        metrics := polled.metrics.absorb begun.notices }

theorem look_frame (registration : Registration) (now : Instant) (later : List Registration)
    (system : TickerService) :
    let outcome := (system.timers registration.timer).pollExpired now
    let looked := system.look registration now later
    looked.ticker.schedule = system.ticker.schedule ∧
      looked.ticker.cancelled = system.ticker.cancelled ∧
      looked.ticker.activity.collected = later ∧
      looked.timers = Function.update system.timers registration.timer outcome.2 ∧
      looked.calls = system.calls ++ outcome.1.toList.map fun generation =>
        (registration, generation) := by
  intro outcome looked
  simp only [looked, look, outcome]
  cases ((system.timers registration.timer).pollExpired now).1 <;>
    simp [goOn, Ticker.beginHandling, Activity.collected]

/-- The thread is done with a call. -/
def depart (registration : Registration) (generation : Nat) (panicked : Bool)
    (later : List Registration) (system : TickerService) : TickerService :=
  let outcome := system.ticker.finishHandling registration generation panicked later
  { system with
    ticker := outcome.value
    ended := system.ended ++ [((registration, generation), panicked)]
    metrics := system.metrics.absorb outcome.notices }

/-- One event in a state in which it can happen. -/
inductive Step : TickerService → ServiceEvent → TickerService → Prop
  | register {system} (timer inbox : Nat) {handler : Handler} (now : Instant)
      (delay period : Duration) (returns : handler.stopsTicker = false)
      (within : now + delay < Instant.limit) :
      Step system (.register timer inbox handler now delay period)
        (system.enter timer inbox handler now delay period)
  | silence {system} {id : Nat} (known : id < system.ticker.nextId)
      (unlocked : system.ticker.isHandling id = false) :
      Step system (.silence id) { system with ticker := system.ticker.silence id }
  | remove {system} (id : Nat) :
      Step system (.remove id) { system with ticker := (system.ticker.remove id).2 }
  | access {system} (timer : Nat) (change : BatchTimer → BatchTimer) :
      Step system (.access timer change)
        { system with
          timers := Function.update system.timers timer (change (system.timers timer)) }
  | collect {system} {now : Instant} {due : List Registration} {schedule : Schedule}
      (between : system.ticker.activity = .serving [])
      (collected : system.ticker.schedule.collect now = some (due, schedule)) :
      Step system (.collect now) { system with ticker := system.ticker.beginRound now }
  | overrun {system} {now : Instant} (between : system.ticker.activity = .serving [])
      (beyond : system.ticker.schedule.collect now = none) :
      Step system (.overrun now) { system with ticker := system.ticker.beginRound now }
  | pass {system} {registration : Registration} {collected : List Registration} (now : Instant)
      (serving : system.ticker.activity = .serving collected) (member : registration ∈ collected)
      (silenced : registration.id ∈ system.ticker.cancelled) :
      Step system (.pass registration now) (system.goOn (collected.erase registration))
  | check {system} {registration : Registration} {collected : List Registration} (now : Instant)
      (serving : system.ticker.activity = .serving collected) (member : registration ∈ collected)
      (live : registration.id ∉ system.ticker.cancelled) :
      Step system (.check registration now)
        (system.look registration now (collected.erase registration))
  | leave {system} {registration : Registration} {generation : Nat} {ends : Instant}
      {collected : List Registration} (panicked : Bool)
      (handling : system.ticker.activity = .handling registration generation ends collected) :
      Step system (.leave panicked) (system.depart registration generation panicked collected)

/-- One event after the other. -/
inductive Run : TickerService → List ServiceEvent → TickerService → Prop
  | done (system : TickerService) : Run system [] system
  | next {system middle last event later} (step : Step system event middle)
      (run : Run middle later last) : Run system (event :: later) last

theorem Run.append {system middle last : TickerService} {events later : List ServiceEvent}
    (first : Run system events middle) (second : Run middle later last) :
    Run system (events ++ later) last := by
  induction first with
  | done => exact second
  | next step _ ih => exact .next step (ih second)

/-! ## What a ticker refers to -/

variable {system next last : TickerService} {event : ServiceEvent} {events : List ServiceEvent}

/-- All registrations have numbers of their own, and what the schedule and the thread refer to was
registered. -/
structure IsSound (system : TickerService) : Prop where
  running : system.ticker.stopRequested = false
  numbered : system.ticker.schedule.IsNumbered
  old : ∀ registration ∈ system.registered, registration.id < system.ticker.nextId
  distinct : (system.registered.map Registration.id).Nodup
  scheduled : ∀ entry ∈ system.ticker.schedule.entries, entry.2.registration ∈ system.registered
  collected : system.ticker.activity.collected ⊆ system.registered
  once : system.ticker.activity.collected.Nodup
  silenced : ∀ id ∈ system.ticker.cancelled, id < system.ticker.nextId
  called : ∀ call ∈ system.calls, call.1 ∈ system.registered

section Ticker

variable {ticker : Ticker} {id : Nat} {now : Instant}

theorem register_value (running : ticker.stopRequested = false) (timer inbox : Nat)
    (handler : Handler) (now : Instant) (delay period : Duration) :
    (ticker.register timer inbox handler now delay period).value.2 =
      { ticker with
        nextId := ticker.nextId + 1
        schedule := ticker.schedule.put ticker.nextId
          ⟨⟨ticker.nextId, timer, inbox, handler⟩, now + delay, period⟩ } := by
  simp [Ticker.register, running]

theorem remove_value (running : ticker.stopRequested = false) (id : Nat) :
    (ticker.remove id).2 = { ticker with schedule := ticker.schedule.erase id } := by
  unfold Ticker.remove
  split
  next stopped => simp [running] at stopped
  · split
    · rfl
    next unknown =>
      have absent : ticker.schedule.get? id = none := by simpa [KeyTable.contains] using unknown
      rw [KeyTable.erase_of_absent absent]

theorem beginRound_value (running : ticker.stopRequested = false) {due : List Registration}
    {schedule : Schedule} (collected : ticker.schedule.collect now = some (due, schedule)) :
    ticker.beginRound now =
      { ticker with
        schedule := ticker.schedule.after now
        activity := .serving (Schedule.dueAt now ticker.schedule.entries) } := by
  obtain ⟨_, rfl, rfl⟩ := Schedule.collect_eq_some_iff.mp collected
  simp [Ticker.beginRound, running, collected]

theorem beginRound_overrun (running : ticker.stopRequested = false)
    (beyond : ticker.schedule.collect now = none) :
    ticker.beginRound now = { ticker with activity := .crashed Ticker.overflowReason } := by
  simp [Ticker.beginRound, running, beyond]

end Ticker

theorem isSound_start (name : String) (timers : Nat → BatchTimer) :
    (start name timers).IsSound where
  running := rfl
  numbered := ⟨List.nodup_nil, fun _ member => nomatch member⟩
  old := fun _ member => nomatch member
  distinct := List.nodup_nil
  scheduled := fun _ member => nomatch member
  collected := List.nil_subset _
  once := List.nodup_nil
  silenced := fun _ member => nomatch member
  called := fun _ member => nomatch member

/-- What was done before, and a new registration. -/
theorem IsSound.enter (sound : system.IsSound) (timer inbox : Nat) (handler : Handler)
    (now : Instant) (delay period : Duration) :
    (system.enter timer inbox handler now delay period).IsSound := by
  have unused : ∀ registration ∈ system.registered, registration.id ≠ system.ticker.nextId :=
    fun registration member => Nat.ne_of_lt (sound.old registration member)
  simp only [TickerService.enter, register_value sound.running]
  constructor
  · exact sound.running
  · exact sound.numbered.put rfl
  · intro registration member
    rcases List.mem_append.mp member with old | new
    · exact Nat.lt_succ_of_lt (sound.old registration old)
    · obtain rfl := List.mem_singleton.mp new
      exact Nat.lt_succ_self _
  · rw [List.map_append, List.nodup_append]
    refine ⟨sound.distinct, List.nodup_singleton _, ?_⟩
    intro id member new alone same
    obtain ⟨registration, old, rfl⟩ := List.mem_map.mp member
    exact unused registration old (same.trans (List.mem_singleton.mp alone))
  · intro entry member
    rcases KeyTable.mem_entries_put member with rfl | old
    · exact List.mem_append_right _ (List.mem_singleton_self _)
    · exact List.mem_append_left _ (sound.scheduled entry old)
  · exact fun registration member => List.mem_append_left _ (sound.collected member)
  · exact sound.once
  · exact fun id member => Nat.lt_succ_of_lt (sound.silenced id member)
  · exact fun call member => List.mem_append_left _ (sound.called call member)

/-- The thread has collected what is due. -/
theorem IsSound.round (sound : system.IsSound) (now : Instant) :
    IsSound { system with
      ticker := { system.ticker with
        schedule := system.ticker.schedule.after now
        activity := .serving (Schedule.dueAt now system.ticker.schedule.entries) } } :=
  { sound with
    numbered := sound.numbered.after now
    scheduled := by
      intro entry member
      obtain ⟨before, known, rfl⟩ := List.mem_map.mp member
      rw [Appointment.after_registration]
      exact sound.scheduled before known
    collected := by
      intro registration member
      obtain ⟨entry, known, _, rfl⟩ := Schedule.mem_dueAt.mp member
      exact sound.scheduled entry known
    once := sound.numbered.nodup_dueAt now }

theorem IsSound.goOn (sound : system.IsSound) {later : List Registration}
    (fewer : later.Sublist system.ticker.activity.collected) : (system.goOn later).IsSound :=
  { sound with
    collected := fun _ member => sound.collected (fewer.subset member)
    once := fewer.nodup sound.once }

theorem IsSound.look (sound : system.IsSound) {registration : Registration}
    (member : registration ∈ system.ticker.activity.collected) {later : List Registration}
    (fewer : later.Sublist system.ticker.activity.collected) (now : Instant) :
    (system.look registration now later).IsSound := by
  unfold TickerService.look
  dsimp only
  split
  · exact { sound.goOn fewer with }
  · refine { sound.goOn fewer with called := ?_ }
    intro call among
    rcases List.mem_append.mp among with old | new
    · exact sound.called call old
    · obtain rfl := List.mem_singleton.mp new
      exact sound.collected member

theorem Step.sound (step : Step system event next) (sound : system.IsSound) : next.IsSound := by
  cases step with
  | register timer inbox now delay period returns within =>
      exact sound.enter timer inbox _ now delay period
  | silence known unlocked =>
      exact { sound with
        silenced := List.forall_mem_cons.mpr ⟨known, sound.silenced⟩ }
  | remove id =>
      rw [remove_value sound.running]
      exact { sound with
        numbered := sound.numbered.erase id
        scheduled := fun entry member =>
          sound.scheduled entry (KeyTable.mem_entries_erase member) }
  | access timer change => exact { sound with }
  | collect between collected =>
      rw [beginRound_value sound.running collected]
      exact sound.round _
  | overrun between beyond =>
      rw [beginRound_overrun sound.running beyond]
      exact { sound with collected := List.nil_subset _, once := List.nodup_nil }
  | pass now serving member silenced =>
      apply sound.goOn
      rw [serving]
      exact List.erase_sublist
  | check now serving member live =>
      apply sound.look <;> rw [serving]
      · exact member
      · exact List.erase_sublist
  | leave panicked handling =>
      have same := sound.collected
      have once := sound.once
      rw [handling] at same once
      simp only [depart, Ticker.finishHandling_value]
      exact { sound with collected := same, once }

theorem Run.sound (run : Run system events last) (sound : system.IsSound) : last.IsSound := by
  induction run with
  | done => exact sound
  | next step _ ih => exact ih (step.sound sound)

/-! ## Counters -/

/-- Each call is counted when it begins, and each that panicked when it is over. -/
structure IsCounted (system : TickerService) : Prop where
  fired : system.metrics.timeoutsFired = system.calls.length
  panicked : system.metrics.handlerPanics = system.ended.countP Prod.snd
  begun : system.calls = system.ended.map Prod.fst ++ system.underway.toList

theorem isCounted_start (name : String) (timers : Nat → BatchTimer) :
    (start name timers).IsCounted :=
  ⟨rfl, rfl, rfl⟩

theorem underway_of_serving {collected : List Registration}
    (serving : system.ticker.activity = .serving collected) : system.underway = none := by
  simp only [underway, serving]

/-- Nothing is counted where no call begins or ends. -/
theorem IsCounted.congr (counted : system.IsCounted) (metrics : next.metrics = system.metrics)
    (calls : next.calls = system.calls) (ended : next.ended = system.ended)
    (underway : next.underway = system.underway) : next.IsCounted := by
  constructor
  · rw [metrics, calls]
    exact counted.fired
  · rw [metrics, ended]
    exact counted.panicked
  · rw [calls, ended, underway]
    exact counted.begun

theorem IsCounted.look (counted : system.IsCounted) (before : system.underway = none)
    (registration : Registration) (now : Instant) (later : List Registration) :
    (system.look registration now later).IsCounted := by
  unfold TickerService.look
  dsimp only
  split
  · exact counted.congr rfl rfl rfl before.symm
  next generation expired =>
    have begun := counted.begun
    rw [before, Option.toList_none, List.append_nil] at begun
    constructor
    · simp [Ticker.beginHandling, Metrics.absorb, Metrics.record, counted.fired]
    · simpa [Ticker.beginHandling, Metrics.absorb, Metrics.record] using counted.panicked
    · simp [Ticker.beginHandling, underway, begun]

theorem absorb_finishHandling (registration : Registration) (generation : Nat) (panicked : Bool)
    (later : List Registration) (ticker : Ticker) (metrics : Metrics) :
    metrics.absorb (ticker.finishHandling registration generation panicked later).notices =
      { metrics with
        handlerPanics := metrics.handlerPanics + if panicked then 1 else 0 } := by
  cases panicked <;> simp [Ticker.finishHandling, Metrics.absorb, Metrics.record]

theorem IsCounted.depart (counted : system.IsCounted) {registration : Registration}
    {generation : Nat} {ends : Instant} {collected : List Registration} (panicked : Bool)
    (handling : system.ticker.activity = .handling registration generation ends collected) :
    (system.depart registration generation panicked collected).IsCounted := by
  have begun := counted.begun
  simp only [underway, handling, Option.toList_some] at begun
  simp only [TickerService.depart, Ticker.finishHandling_value, absorb_finishHandling]
  constructor
  · exact counted.fired
  · rw [counted.panicked, List.countP_append, List.countP_singleton]
  · simp [underway, begun]

theorem Step.counted (step : Step system event next) (sound : system.IsSound)
    (counted : system.IsCounted) : next.IsCounted := by
  cases step with
  | register timer inbox now delay period returns within =>
      refine counted.congr ?_ rfl rfl ?_
      · simp [TickerService.enter, Ticker.register, sound.running, Metrics.absorb]
      · simp [TickerService.enter, register_value sound.running, underway]
  | silence known unlocked => exact counted.congr rfl rfl rfl rfl
  | remove id =>
      refine counted.congr rfl rfl rfl ?_
      simp only [underway, (Ticker.remove_frame id system.ticker).2]
  | access timer change => exact counted.congr rfl rfl rfl rfl
  | collect between collected =>
      rw [beginRound_value sound.running collected]
      exact counted.congr rfl rfl rfl (underway_of_serving between).symm
  | overrun between beyond =>
      rw [beginRound_overrun sound.running beyond]
      exact counted.congr rfl rfl rfl (underway_of_serving between).symm
  | pass now serving member silenced =>
      exact counted.congr rfl rfl rfl (underway_of_serving serving).symm
  | @check registration collected now serving member live =>
      exact counted.look (underway_of_serving serving) registration now _
  | leave panicked handling => exact counted.depart panicked handling

theorem Run.counted (run : Run system events last) (sound : system.IsSound)
    (counted : system.IsCounted) : last.IsCounted := by
  induction run with
  | done => exact counted
  | next step _ ih => exact ih (step.sound sound) (step.counted sound counted)

end TickerService

end KeyedBatching
