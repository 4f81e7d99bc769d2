import KeyedBatching.Proofs.ScheduleRounds
import KeyedBatching.Proofs.TimerRuns

/-!
# How late a report is

A ticker looks at a timer for the first time one timeout after the registration, and
from then on at a fixed rate, whenever the windows of the timer open.  So no look
belongs to a window: the one that finds it expired comes from a grid that is older
than the window, and every round that is late by periods moves the grid.  Yet a look
that comes before the deadline puts the next one less than a period after the
deadline, and so does the registration, since the window is not older.
-/

namespace KeyedBatching

def TimerEntry.polledAt? : TimerEntry → Option Instant
  | .polled now _ => some now
  | _ => none

/-- The instants of the polls. -/
def TimerLog.polls (log : List TimerEntry) : List Instant :=
  log.filterMap TimerEntry.polledAt?

theorem TimerLog.polls_concat (log : List TimerEntry) (entry : TimerEntry) :
    polls (log ++ [entry]) = polls log ++ entry.polledAt?.toList := by
  cases entry <;> simp [polls, TimerEntry.polledAt?]

/-- Where a list with one more element is cut. -/
theorem concat_eq_append_cons {α : Type} {list before after : List α} {last middle : α}
    (cut : list ++ [last] = before ++ middle :: after) :
    list = before ∧ last = middle ∧ after = [] ∨
      ∃ rest, after = rest ++ [last] ∧ list = before ++ middle :: rest := by
  rcases after.eq_nil_or_concat' with rfl | ⟨rest, final, rfl⟩
  · obtain ⟨same, one⟩ := List.append_inj' cut rfl
    exact .inl ⟨same, List.singleton_inj.mp one, rfl⟩
  · rw [← List.cons_append, ← List.append_assoc] at cut
    obtain ⟨same, one⟩ := List.append_inj' cut rfl
    rw [List.singleton_inj.mp one]
    exact .inr ⟨rest, rfl, same⟩

/-- A registration of a timer, the time that its polls may take to come, and the machine. -/
structure Watch where
  id : Nat
  timeout : Duration
  period : Duration
  /-- The longest time from the instant at which a look is due to its poll. -/
  lateness : Duration
  /-- The instant of the registration. -/
  since : Instant
  enabled : timeout ≠ 0
  periodic : 0 < period
  machine : Machine

theorem Watch.lt_add_timeout (watch : Watch) (opening : Instant) :
    opening < opening + watch.timeout :=
  Nat.lt_add_of_pos_right (Nat.pos_of_ne_zero watch.enabled)

/-- A timer with the schedule of the ticker that looks at it. -/
structure WatchedTimer where
  schedule : Schedule
  timer : BatchTimer
  clock : Instant
  /-- When the look was due that a round has taken, until it polls the timer. -/
  taken : Option Instant := none
  /-- The calls of the timer since the registration. -/
  log : List TimerEntry := []
deriving DecidableEq

/-- The first look at a timer that is watched comes after a delay. -/
theorem Ticker.register_eq_ok {ticker registered : Ticker} {timer inbox id : Nat}
    {handler : Handler} {now : Instant} {delay period : Duration}
    (registers : (ticker.register timer inbox handler now delay period).value =
      (.ok id, registered)) :
    registered.schedule =
      ticker.schedule.put id ⟨⟨id, timer, inbox, handler⟩, now + delay, period⟩ := by
  unfold register at registers
  split at registers
  · cases registers
  · cases registers
    rfl

namespace WatchedTimer

variable {watch : Watch} {system next : WatchedTimer}

/-! ## Steps -/

def perform (machine : Machine) (call : TimerCall) (system : WatchedTimer) : WatchedTimer :=
  let outcome := system.timer.perform machine call
  { system with timer := outcome.2, log := system.log ++ [outcome.1] }

/-- The ticker has taken what was due at an instant. -/
def collect (watch : Watch) (now : Instant) (due : List Registration) (schedule : Schedule)
    (system : WatchedTimer) : WatchedTimer :=
  { system with
    schedule
    clock := now
    taken :=
      if due.any fun registration => registration.id = watch.id then
        (system.schedule.get? watch.id).map Appointment.due
      else none }

/-- The ticker polls the timer at an instant, for the look that it has taken. -/
def poll (machine : Machine) (now : Instant) (system : WatchedTimer) : WatchedTimer :=
  { system.perform machine (.poll now) with clock := now, taken := none }

/-- A call of the timer's owner, a registration that comes or goes, a round of the ticker, or the
poll that follows it. -/
inductive Step (watch : Watch) (system : WatchedTimer) : WatchedTimer → Prop
  | arm {now : Instant} (later : system.clock ≤ now) :
      Step watch system { system.perform watch.machine (.arm now) with clock := now }
  | advance : Step watch system (system.perform watch.machine .advance)
  | register {id : Nat} {appointment : Appointment} (other : id ≠ watch.id)
      (own : appointment.registration.id = id) :
      Step watch system { system with schedule := system.schedule.put id appointment }
  | remove {id : Nat} (other : id ≠ watch.id) :
      Step watch system { system with schedule := system.schedule.erase id }
  | round {now : Instant} {due : List Registration} {schedule : Schedule}
      (later : system.clock ≤ now) (idle : system.taken = none)
      (collected : system.schedule.collect now = some (due, schedule)) :
      Step watch system (system.collect watch now due schedule)
  | poll {now look : Instant} (later : system.clock ≤ now) (taken : system.taken = some look)
      (inTime : now ≤ look + watch.lateness) :
      Step watch system (system.poll watch.machine now)

/-- What can become of a timer from its registration on, which may have been in use before. -/
inductive Reachable (watch : Watch) : WatchedTimer → Prop
  | start {ticker registered : Ticker} {number inbox : Nat} {handler : Handler}
      {earlier : List TimerCall} (numbered : ticker.schedule.IsNumbered)
      (registers : (ticker.register number inbox handler watch.since watch.timeout
        watch.period).value = (.ok watch.id, registered)) :
      Reachable watch
        { schedule := registered.schedule
          timer := (({ timeout := watch.timeout } : BatchTimer).run watch.machine earlier).2
          clock := watch.since }
  | step {system next : WatchedTimer} (reached : Reachable watch system)
      (step : Step watch system next) : Reachable watch next

/-- When the look is due that polls the timer next. -/
def look? (watch : Watch) (system : WatchedTimer) : Option Instant :=
  system.taken.or ((system.schedule.get? watch.id).map Appointment.due)

theorem polls_poll (machine : Machine) (now : Instant) (system : WatchedTimer) :
    TimerLog.polls (system.poll machine now).log = TimerLog.polls system.log ++ [now] :=
  TimerLog.polls_concat ..

/-! ## The grid -/

/-- The looks at the timer are a period apart or more, and the next one is not far. -/
structure IsOnGrid (watch : Watch) (appointment : Appointment) (system : WatchedTimer) :
    Prop where
  found : system.schedule.get? watch.id = some appointment
  periodic : appointment.period = watch.period
  near : appointment.due ≤ watch.since + watch.timeout ∨
    appointment.due ≤ system.clock + watch.period
  taken : ∀ look, system.taken = some look →
    look ≤ system.clock ∧ look + watch.period ≤ appointment.due
  ahead : ∀ look, system.look? watch = some look →
    watch.since + watch.timeout + (TimerLog.polls system.log).length * watch.period ≤ look
  rate : ∀ (count : Nat) now, (TimerLog.polls system.log)[count]? = some now →
    watch.since + watch.timeout + count * watch.period ≤ now

variable {appointment : Appointment}

theorem IsOnGrid.look?_of_idle (grid : system.IsOnGrid watch appointment)
    (idle : system.taken = none) : system.look? watch = some appointment.due := by
  rw [look?, idle, grid.found]
  rfl

theorem look?_of_taken {look : Instant} (taken : system.taken = some look) :
    system.look? watch = some look := by
  rw [look?, taken]
  rfl

theorem IsOnGrid.exists_look (grid : system.IsOnGrid watch appointment) :
    ∃ look, system.look? watch = some look ∧
      (look ≤ watch.since + watch.timeout ∨ look ≤ system.clock + watch.period) := by
  cases taken : system.taken with
  | none => exact ⟨_, grid.look?_of_idle taken, grid.near⟩
  | some look =>
      have come := (grid.taken look taken).1
      exact ⟨look, look?_of_taken taken, .inr (Nat.le_add_right_of_le come)⟩

theorem IsOnGrid.mono (grid : system.IsOnGrid watch appointment)
    (same : next.schedule.get? watch.id = system.schedule.get? watch.id)
    (taken : next.taken = system.taken) (later : system.clock ≤ next.clock)
    (polls : TimerLog.polls next.log = TimerLog.polls system.log) :
    next.IsOnGrid watch appointment := by
  have look : next.look? watch = system.look? watch := by rw [look?, taken, same, look?]
  constructor
  · rw [same, grid.found]
  · exact grid.periodic
  · exact grid.near.imp_right fun near => Nat.le_trans near (Nat.add_le_add_right later _)
  · intro look isTaken
    rw [taken] at isTaken
    exact (grid.taken look isTaken).imp_left fun come => Nat.le_trans come later
  · rw [look, polls]
    exact grid.ahead
  · rw [polls]
    exact grid.rate

/-- A round takes the look if it is due. -/
theorem IsOnGrid.collect_eq (grid : system.IsOnGrid watch appointment)
    (numbered : system.schedule.IsNumbered) {now : Instant} {due : List Registration}
    {schedule : Schedule} (collected : system.schedule.collect now = some (due, schedule)) :
    system.collect watch now due schedule =
      { system with
        schedule := system.schedule.after now
        clock := now
        taken := if appointment.due ≤ now then some appointment.due else none } := by
  obtain ⟨_, rfl, rfl⟩ := Schedule.collect_eq_some_iff.mp collected
  simp [collect, numbered.any_dueAt grid.found, grid.found]

/-- A round leaves the next look where it is, and books the one after it if it takes it. -/
theorem IsOnGrid.round (grid : system.IsOnGrid watch appointment)
    (numbered : system.schedule.IsNumbered) {now : Instant} (later : system.clock ≤ now)
    (idle : system.taken = none) {due : List Registration} {schedule : Schedule}
    (collected : system.schedule.collect now = some (due, schedule)) :
    (system.collect watch now due schedule).look? watch = system.look? watch ∧
      (system.collect watch now due schedule).IsOnGrid watch (appointment.after now) := by
  have found : (system.schedule.after now).get? watch.id = some (appointment.after now) := by
    rw [Schedule.get?_after, grid.found, Option.map_some]
  have before := grid.look?_of_idle idle
  rw [grid.collect_eq numbered collected]
  by_cases come : appointment.due ≤ now
  · rw [if_pos come]
    refine ⟨before.symm, found, Appointment.after_period.trans grid.periodic, .inr ?_, ?_, ?_,
      grid.rate⟩
    · rw [Appointment.after_of_le come, ← grid.periodic]
      exact Appointment.following_le come
    · rintro _ ⟨⟩
      rw [Appointment.after_of_le come, ← grid.periodic]
      exact ⟨come, Appointment.due_add_period_le_following come⟩
    · intro look isNext
      exact grid.ahead look (before.trans isNext)
  · rw [if_neg come]
    rw [Appointment.after_of_lt (Nat.lt_of_not_le come)] at found ⊢
    have same := found.trans grid.found.symm
    refine ⟨?_, grid.mono same idle.symm later rfl⟩
    rw [before]
    exact congrArg (Option.map Appointment.due) found

theorem IsOnGrid.poll (grid : system.IsOnGrid watch appointment) {now look : Instant}
    (later : system.clock ≤ now) (taken : system.taken = some look) :
    (system.poll watch.machine now).IsOnGrid watch appointment := by
  obtain ⟨come, spaced⟩ := grid.taken look taken
  have ahead := grid.ahead look (look?_of_taken taken)
  have next : (system.poll watch.machine now).look? watch = some appointment.due :=
    congrArg (Option.map Appointment.due) grid.found
  refine ⟨grid.found, grid.periodic, ?_, ?_, ?_, ?_⟩
  · exact grid.near.imp_right fun near => Nat.le_trans near (Nat.add_le_add_right later _)
  · rintro _ ⟨⟩
  · intro later isNext
    obtain rfl := Option.some.inj (next.symm.trans isNext)
    calc
      watch.since + watch.timeout +
            (TimerLog.polls (system.poll watch.machine now).log).length * watch.period
          = watch.since + watch.timeout +
              (TimerLog.polls system.log).length * watch.period + watch.period := by
            rw [polls_poll, List.length_append, List.length_singleton, Nat.succ_mul,
              ← Nat.add_assoc]
      _ ≤ look + watch.period := Nat.add_le_add_right ahead _
      _ ≤ appointment.due := spaced
  · intro count instant isPoll
    rw [polls_poll] at isPoll
    rcases Nat.lt_trichotomy count (TimerLog.polls system.log).length with old | rfl | beyond
    · rw [List.getElem?_append_left old] at isPoll
      exact grid.rate count instant isPoll
    · rw [List.getElem?_concat_length] at isPoll
      obtain rfl := Option.some.inj isPoll
      exact Nat.le_trans ahead (Nat.le_trans come later)
    · have outside : (TimerLog.polls system.log ++ [now]).length ≤ count := by
        rw [List.length_append, List.length_singleton]
        exact beyond
      rw [List.getElem?_eq_none outside] at isPoll
      cases isPoll

/-! ## Sound states -/

/-- The clock is behind all that has happened, and the timer and the grid are in order. -/
structure IsSound (watch : Watch) (system : WatchedTimer) : Prop where
  numbered : system.schedule.IsNumbered
  since_le : watch.since ≤ system.clock
  polls_le : ∀ now ∈ TimerLog.polls system.log, now ≤ system.clock
  follows : ∃ log, system.timer.Follows watch.timeout log
  onGrid : ∃ appointment, system.IsOnGrid watch appointment

theorem isSound_start {ticker registered : Ticker} {number inbox : Nat} {handler : Handler}
    (earlier : List TimerCall) (numbered : ticker.schedule.IsNumbered)
    (registers : (ticker.register number inbox handler watch.since watch.timeout
      watch.period).value = (.ok watch.id, registered)) :
    IsSound watch
      { schedule := registered.schedule
        timer := (({ timeout := watch.timeout } : BatchTimer).run watch.machine earlier).2
        clock := watch.since } := by
  have booked := Ticker.register_eq_ok registers
  refine ⟨?_, Nat.le_refl _, ?_, ⟨_, (BatchTimer.follows_nil watch.timeout).run earlier⟩,
    ⟨⟨watch.id, number, inbox, handler⟩, watch.since + watch.timeout, watch.period⟩, ?_⟩
  · rw [booked]
    exact numbered.put rfl
  · simp [TimerLog.polls]
  · have found : registered.schedule.get? watch.id =
        some ⟨⟨watch.id, number, inbox, handler⟩, watch.since + watch.timeout, watch.period⟩ := by
      rw [booked, KeyTable.get?_put, if_pos rfl]
    refine ⟨found, rfl, .inl (Nat.le_refl _), by simp, ?_, by simp [TimerLog.polls]⟩
    intro look next
    obtain rfl := Option.some.inj ((congrArg (Option.map Appointment.due) found).symm.trans next)
    simp [TimerLog.polls]

/-- All but the rounds and the polls leave the grid alone. -/
theorem IsSound.mono (sound : system.IsSound watch) (numbered : next.schedule.IsNumbered)
    (same : next.schedule.get? watch.id = system.schedule.get? watch.id)
    (taken : next.taken = system.taken) (later : system.clock ≤ next.clock)
    (polls : TimerLog.polls next.log = TimerLog.polls system.log)
    (follows : ∃ log, next.timer.Follows watch.timeout log) : next.IsSound watch := by
  obtain ⟨appointment, grid⟩ := sound.onGrid
  refine ⟨numbered, Nat.le_trans sound.since_le later, ?_, follows, appointment,
    grid.mono same taken later polls⟩
  intro now isPoll
  rw [polls] at isPoll
  exact Nat.le_trans (sound.polls_le now isPoll) later

theorem IsSound.step (sound : system.IsSound watch) (step : Step watch system next) :
    next.IsSound watch := by
  obtain ⟨log, follows⟩ := sound.follows
  obtain ⟨appointment, grid⟩ := sound.onGrid
  cases step with
  | @arm now later =>
      refine sound.mono sound.numbered rfl rfl later ?_ ⟨_, follows.perform (.arm now)⟩
      refine (TimerLog.polls_concat ..).trans ?_
      rcases system.timer.perform_arm_cases now with result | ⟨_, result⟩ <;> rw [result] <;>
        exact List.append_nil _
  | advance =>
      exact sound.mono sound.numbered rfl rfl (Nat.le_refl _)
        ((TimerLog.polls_concat ..).trans (List.append_nil _)) ⟨_, follows.advance⟩
  | register other own =>
      refine sound.mono (sound.numbered.put own) ?_ rfl (Nat.le_refl _) rfl sound.follows
      exact (KeyTable.get?_put ..).trans (if_neg other.symm)
  | remove other =>
      refine sound.mono (sound.numbered.erase _) ?_ rfl (Nat.le_refl _) rfl sound.follows
      exact (KeyTable.get?_erase ..).trans (if_neg other.symm)
  | round later idle collected =>
      refine ⟨?_, Nat.le_trans sound.since_le later, ?_, sound.follows, _,
        (grid.round sound.numbered later idle collected).2⟩
      · obtain ⟨_, _, rfl⟩ := Schedule.collect_eq_some_iff.mp collected
        exact sound.numbered.after _
      · intro now isPoll
        exact Nat.le_trans (sound.polls_le now isPoll) later
  | @poll now look later taken =>
      refine ⟨sound.numbered, Nat.le_trans sound.since_le later, ?_, ⟨_, follows.poll now⟩,
        appointment, grid.poll later taken⟩
      rw [polls_poll]
      refine List.forall_mem_append.mpr ⟨?_, List.forall_mem_singleton.mpr (Nat.le_refl now)⟩
      intro instant isPoll
      exact Nat.le_trans (sound.polls_le instant isPoll) later

theorem Reachable.isSound (reached : Reachable watch system) : system.IsSound watch := by
  induction reached with
  | start numbered registers => exact isSound_start _ numbered registers
  | step _ step sound => exact sound.step step

/-! ## Windows -/

/-- No poll has come since the deadline of a window, and the next look is due less than a period
after it. -/
structure IsAwaited (watch : Watch) (opening : Instant) (after : List TimerEntry)
    (system : WatchedTimer) : Prop where
  silent : ∀ entry ∈ after, entry.report? = none
  early : ∀ now ∈ TimerLog.polls after, now < opening + watch.timeout
  near : ∃ look, system.look? watch = some look ∧
    look < opening + watch.timeout + watch.period

/-- The first poll since the deadline of a window has come in time and has reported it, and no
other has reported anything. -/
def IsReported (watch : Watch) (opening : Instant) (after : List TimerEntry)
    (generation : Nat) : Prop :=
  ∃ first now rest, after = first ++ .polled now (some generation) :: rest ∧
    opening + watch.timeout ≤ now ∧
    now < opening + watch.timeout + watch.period + watch.lateness ∧
    (∀ instant ∈ TimerLog.polls first, instant < opening + watch.timeout) ∧
    ∀ entry ∈ first ++ rest, entry.report? = none

/-- A window is open since an instant, and the mark of the timer tells if it is reported. -/
structure IsOpened (watch : Watch) (before : List TimerEntry) (opening : Instant)
    (after : List TimerEntry) (system : WatchedTimer) : Prop where
  since_le : watch.since ≤ opening
  past : ∀ now ∈ TimerLog.polls before, now ≤ opening
  armed : system.timer.armed = some ⟨system.timer.current, opening + watch.timeout⟩
  fate : system.timer.reported ≤ system.timer.current ∧ system.IsAwaited watch opening after ∨
    system.timer.current < system.timer.reported ∧
      IsReported watch opening after system.timer.current

variable {before after : List TimerEntry} {opening : Instant}

/-- Before the deadline the next look is close, be it the first one or one after another. -/
theorem IsSound.exists_near (sound : system.IsSound watch) (since_le : watch.since ≤ opening)
    (early : system.clock < opening + watch.timeout) :
    ∃ look, system.look? watch = some look ∧ look < opening + watch.timeout + watch.period := by
  obtain ⟨_, grid⟩ := sound.onGrid
  obtain ⟨look, isNext, first | later⟩ := grid.exists_look
  · refine ⟨look, isNext, ?_⟩
    calc
      look ≤ watch.since + watch.timeout := first
      _ ≤ opening + watch.timeout := Nat.add_le_add_right since_le _
      _ < opening + watch.timeout + watch.period := Nat.lt_add_of_pos_right watch.periodic
  · refine ⟨look, isNext, ?_⟩
    calc
      look ≤ system.clock + watch.period := later
      _ < opening + watch.timeout + watch.period := Nat.add_lt_add_right early _

theorem IsAwaited.concat {entry : TimerEntry} (awaited : system.IsAwaited watch opening after)
    (silent : entry.report? = none)
    (early : ∀ now, entry.polledAt? = some now → now < opening + watch.timeout)
    (near : ∃ look, next.look? watch = some look ∧
      look < opening + watch.timeout + watch.period) :
    next.IsAwaited watch opening (after ++ [entry]) := by
  refine ⟨?_, ?_, near⟩
  · exact List.forall_mem_append.mpr ⟨awaited.silent, List.forall_mem_singleton.mpr silent⟩
  · rw [TimerLog.polls_concat]
    exact List.forall_mem_append.mpr
      ⟨awaited.early, fun now isPoll => early now (Option.mem_toList.mp isPoll)⟩

theorem IsAwaited.report (awaited : system.IsAwaited watch opening after) {now look : Instant}
    (isNext : system.look? watch = some look) (come : opening + watch.timeout ≤ now)
    (inTime : now ≤ look + watch.lateness) (generation : Nat) :
    IsReported watch opening (after ++ [.polled now (some generation)]) generation := by
  refine ⟨after, now, [], rfl, come, ?_, awaited.early, by simpa using awaited.silent⟩
  obtain ⟨same, found, near⟩ := awaited.near
  obtain rfl := Option.some.inj (isNext.symm.trans found)
  exact Nat.lt_of_le_of_lt inTime (Nat.add_lt_add_right near _)

theorem IsReported.concat {entry : TimerEntry} {generation : Nat}
    (reported : IsReported watch opening after generation) (silent : entry.report? = none) :
    IsReported watch opening (after ++ [entry]) generation := by
  obtain ⟨first, now, rest, rfl, come, inTime, early, others⟩ := reported
  refine ⟨first, now, rest ++ [entry], by simp, come, inTime, early, ?_⟩
  rw [← List.append_assoc]
  exact List.forall_mem_append.mpr ⟨others, List.forall_mem_singleton.mpr silent⟩

/-! ## Windows along a run -/

theorem IsSound.opens (sound : system.IsSound watch) {now : Instant}
    (later : system.clock ≤ now)
    (opens : (system.timer.perform watch.machine (.arm now)).1 = .armed now true) :
    IsOpened watch system.log now []
      { system.perform watch.machine (.arm now) with clock := now } := by
  obtain ⟨log, follows⟩ := sound.follows
  have result : system.timer.perform watch.machine (.arm now) =
      (.armed now (system.timer.armIfIdle now).value.1, (system.timer.armIfIdle now).value.2) := by
    rcases system.timer.perform_arm_cases now with result | ⟨_, result⟩
    · exact result
    · rw [result] at opens
      cases opens
  have first : (system.timer.armIfIdle now).value.1 = true := by
    rw [result] at opens
    exact (TimerEntry.armed.inj opens).2
  obtain ⟨_, idle⟩ : watch.timeout ≠ 0 ∧ TimerLog.firstArm? log = none :=
    of_decide_eq_true ((follows.armIfIdle_fst now).symm.trans first)
  have opened := follows.arm now
  have since_le : watch.since ≤ now := Nat.le_trans sound.since_le later
  obtain ⟨current, mark⟩ := system.timer.armIfIdle_frame now
  have after : (system.perform watch.machine (.arm now)).timer =
      (system.timer.armIfIdle now).value.2 := congrArg Prod.snd result
  refine ⟨since_le, fun instant isPoll => Nat.le_trans (sound.polls_le instant isPoll) later,
    ?_, .inl ⟨?_, ?_⟩⟩
  · rw [after, opened.armed, TimerLog.window?, if_neg watch.enabled, TimerLog.firstArm?_concat,
      idle, opened.counted]
    rfl
  · -- The generation had no window before, so no poll can have reported it.
    rw [after, current, mark]
    exact follows.unreported (follows.idle idle)
  · refine ⟨by simp, by simp [TimerLog.polls], ?_⟩
    exact (sound.step (.arm later)).exists_near since_le (watch.lt_add_timeout now)

theorem IsOpened.frame (opened : system.IsOpened watch before opening after)
    (timer : next.timer = system.timer) (look : next.look? watch = system.look? watch) :
    next.IsOpened watch before opening after := by
  refine ⟨opened.since_le, opened.past, ?_, ?_⟩
  · rw [timer]
    exact opened.armed
  · rw [timer]
    refine opened.fate.imp_left ?_
    rintro ⟨mark, silent, early, near⟩
    exact ⟨mark, silent, early, look ▸ near⟩

/-- A request that finds the window open does nothing to it. -/
theorem IsOpened.arm (opened : system.IsOpened watch before opening after) (now : Instant) :
    IsOpened watch before opening
      (after ++ [(system.timer.perform watch.machine (.arm now)).1])
      { system.perform watch.machine (.arm now) with clock := now } := by
  have found : system.timer.timeout = 0 ∨ system.timer.armed ≠ none :=
    .inr (by simp [opened.armed])
  have result : system.timer.perform watch.machine (.arm now) =
      (.armed now false, system.timer) := by
    simp [BatchTimer.perform, BatchTimer.armIfIdle_idle found]
  have still : IsOpened watch before opening after
      { system.perform watch.machine (.arm now) with clock := now } :=
    opened.frame (congrArg Prod.snd result) rfl
  refine ⟨still.since_le, still.past, still.armed, ?_⟩
  rw [result]
  rcases still.fate with ⟨mark, awaited⟩ | ⟨mark, reported⟩
  · refine .inl ⟨mark, awaited.concat rfl ?_ awaited.near⟩
    rintro _ ⟨⟩
  · exact .inr ⟨mark, reported.concat rfl⟩

theorem IsOpened.poll (opened : system.IsOpened watch before opening after)
    (sound : system.IsSound watch) {now look : Instant} (later : system.clock ≤ now)
    (taken : system.taken = some look) (inTime : now ≤ look + watch.lateness) :
    (system.poll watch.machine now).IsOpened watch before opening
      (after ++ [.polled now (system.timer.pollExpired now).1]) := by
  obtain ⟨log, follows⟩ := sound.follows
  have armed := opened.armed
  rcases follows.pollExpired_cases now with
    ⟨silent, why⟩ | ⟨unreported, window, isOpen, come, reports⟩
  · have same : (system.poll watch.machine now).timer = system.timer := congrArg Prod.snd silent
    refine ⟨opened.since_le, opened.past, ?_, ?_⟩
    · rw [same]
      exact armed
    · rw [same, silent]
      rcases opened.fate with ⟨mark, awaited⟩ | ⟨mark, reported⟩
      · have early : now < opening + watch.timeout := by
          rcases why with isReported | early
          · rw [follows.reported isReported] at mark
            exact absurd mark (Nat.not_succ_le_self _)
          · exact early _ armed
        refine .inl ⟨mark, awaited.concat rfl ?_ ?_⟩
        · rintro _ ⟨⟩
          exact early
        · exact (sound.step (.poll later taken inTime)).exists_near opened.since_le early
      · exact .inr ⟨mark, reported.concat rfl⟩
  · obtain rfl := Option.some.inj (isOpen.symm.trans armed)
    have marked : (system.poll watch.machine now).timer =
        { system.timer with reported := system.timer.current + 1 } := congrArg Prod.snd reports
    refine ⟨opened.since_le, opened.past, ?_, ?_⟩
    · rw [marked]
      exact armed
    · rw [marked, reports]
      rcases opened.fate with ⟨_, awaited⟩ | ⟨mark, _⟩
      · exact .inr ⟨Nat.lt_succ_self _,
          awaited.report (look?_of_taken taken) come inTime system.timer.current⟩
      · exact absurd mark (Nat.not_lt_of_le (follows.unreported unreported))

theorem Reachable.isOpened (reached : Reachable watch system)
    (log : system.log = before ++ .armed opening true :: after)
    (kept : ∀ entry ∈ after, entry.isAdvance = false) :
    system.IsOpened watch before opening after := by
  -- The last entry of the log opens the window, or comes after it and leaves the rest to the
  -- induction; where the log stays as it is, so does the next look.
  induction reached generalizing after with
  | start => simp at log
  | @step system next reached step ih =>
      have sound := reached.isSound
      cases step with
      | @arm now later =>
          rcases concat_eq_append_cons log with ⟨rfl, opens, rfl⟩ | ⟨rest, rfl, earlier⟩
          · obtain rfl : now = opening := by
              have calls := congrArg TimerEntry.call opens
              rw [BatchTimer.call_perform] at calls
              exact TimerCall.arm.inj calls
            exact sound.opens later opens
          · exact (ih earlier fun entry member =>
              kept entry (List.mem_append_left _ member)).arm now
      | advance =>
          rcases concat_eq_append_cons log with ⟨_, opens, _⟩ | ⟨rest, rfl, _⟩
          · cases opens
          · have stays := kept _ (List.mem_append_right _ List.mem_cons_self)
            cases stays
      | register other =>
          refine (ih log kept).frame rfl ?_
          rw [look?, KeyTable.get?_put, if_neg other.symm, look?]
      | remove other =>
          refine (ih log kept).frame rfl ?_
          rw [look?, KeyTable.get?_erase, if_neg other.symm, look?]
      | round later idle collected =>
          obtain ⟨_, grid⟩ := sound.onGrid
          exact (ih log kept).frame rfl (grid.round sound.numbered later idle collected).1
      | @poll now look later taken inTime =>
          rcases concat_eq_append_cons log with ⟨_, opens, _⟩ | ⟨rest, rfl, earlier⟩
          · cases opens
          · exact (ih earlier fun entry member =>
              kept entry (List.mem_append_left _ member)).poll sound later taken inTime

theorem IsOpened.polls_lt (opened : system.IsOpened watch before opening after)
    (awaited : system.IsAwaited watch opening after) :
    ∀ now ∈ TimerLog.polls (before ++ .armed opening true :: after),
      now < opening + watch.timeout := by
  intro now isPoll
  rw [TimerLog.polls, List.filterMap_append] at isPoll
  rcases List.mem_append.mp isPoll with earlier | since
  · calc
      now ≤ opening := opened.past now earlier
      _ < opening + watch.timeout := watch.lt_add_timeout opening
  · exact awaited.early now since

/-- A window that opens after the registration is awaited as long as no poll has come since its
deadline, and the next look is then due less than a period after the deadline.  The first poll since
the deadline reports it, less than a period and the longest delay of a poll after the deadline, and
no later poll does.  Poll number `count` does not come before `count` periods after the first look,
so that a window is reported once there were enough polls. -/
theorem reachable_report_in_time (reached : Reachable watch system)
    (log : system.log = before ++ .armed opening true :: after)
    (kept : ∀ entry ∈ after, entry.isAdvance = false) :
    (system.IsAwaited watch opening after ∨
      IsReported watch opening after system.timer.current) ∧
    ∀ count < (TimerLog.polls system.log).length,
      opening ≤ watch.since + count * watch.period →
        IsReported watch opening after system.timer.current := by
  have opened := reached.isOpened log kept
  have fate : system.IsAwaited watch opening after ∨
      IsReported watch opening after system.timer.current :=
    opened.fate.imp And.right And.right
  refine ⟨fate, ?_⟩
  intro count made behind
  rcases fate with awaited | reported
  · obtain ⟨_, grid⟩ := reached.isSound.onGrid
    obtain ⟨now, isPoll⟩ : ∃ now, (TimerLog.polls system.log)[count]? = some now :=
      ⟨_, List.getElem?_eq_getElem made⟩
    have late : opening + watch.timeout ≤ now := by
      calc
        opening + watch.timeout
            ≤ watch.since + count * watch.period + watch.timeout := Nat.add_le_add_right behind _
        _ = watch.since + watch.timeout + count * watch.period := Nat.add_right_comm ..
        _ ≤ now := grid.rate count now isPoll
    have early : now < opening + watch.timeout :=
      opened.polls_lt awaited now (log ▸ List.mem_of_getElem? isPoll)
    exact absurd late (Nat.not_le_of_lt early)
  · exact reported

/-- A window opens 3 after the registration, the first look comes a little too early for it, and the
second one is taken so late that it moves the grid. -/
theorem reachable_report_in_time_moved_grid :
    let watch : Watch := ⟨1, 50, 10, 25, 0, by decide, by decide, {}⟩
    let registration : Registration := ⟨1, 4, 4, {}⟩
    let after : List TimerEntry := [.polled 52 none, .polled 76 (some 0), .polled 86 none]
    let system : WatchedTimer :=
      { schedule := ⟨[(1, ⟨registration, 95, 10⟩)]⟩
        timer := ⟨50, 0, some ⟨0, 53⟩, 1⟩
        clock := 86
        log := .armed 3 true :: after }
    Reachable watch system ∧ TimerLog.polls system.log = [52, 76, 86] ∧
      (∀ entry ∈ after, entry.isAdvance = false) ∧ 3 ≤ watch.since + 1 * watch.period ∧
      IsReported watch 3 after 0 := by
  intro watch registration after system
  have registers : (({ name := "" } : Ticker).register 4 4 {} 0 50 10).value =
      (.ok 1, { name := "", nextId := 2, schedule := ⟨[(1, ⟨registration, 50, 10⟩)]⟩ }) := rfl
  have fresh : ({ name := "" } : Ticker).schedule.IsNumbered :=
    ⟨List.nodup_nil, fun _ member => nomatch member⟩
  have reached : Reachable watch system := by
    refine .step (.step (.step (.step (.step (.step (.step
      (@Reachable.start watch _ _ 4 4 {} [] fresh registers)
      (@Step.arm _ _ 3 (by decide)))
      (@Step.round _ _ 50 _ _ (by decide) rfl rfl))
      (@Step.poll _ _ 52 50 (by decide) rfl (by decide)))
      (@Step.round _ _ 75 _ _ (by decide) rfl rfl))
      (@Step.poll _ _ 76 60 (by decide) rfl (by decide)))
      (@Step.round _ _ 85 _ _ (by decide) rfl rfl))
      (@Step.poll _ _ 86 85 (by decide) rfl (by decide))
  have log : system.log = [] ++ .armed 3 true :: after := rfl
  have kept : ∀ entry ∈ after, entry.isAdvance = false := by decide
  have behind : 3 ≤ watch.since + 1 * watch.period := by decide
  exact ⟨reached, rfl, kept, behind,
    (reachable_report_in_time reached log kept).2 1 (by decide) behind⟩

end WatchedTimer

end KeyedBatching
