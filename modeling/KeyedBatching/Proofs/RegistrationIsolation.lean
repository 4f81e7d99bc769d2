import KeyedBatching.Proofs.TickerService

/-!
# Isolation of registrations

What becomes of a registration depends on nothing but what concerns it: the rounds
of the thread, the checks of the registration itself, its cancellation, and the
accesses to its timer.  Each event of a run concerns a registration in one way, or
not at all, and the registration's own standing after a run is found by going over
the former alone.  So a run may add and cancel other registrations, and any call of
a handler may panic: the registration's looks and calls are the same.
-/

namespace KeyedBatching

open Telemetry

/-! ## The standing of a registration -/

/-- When a registration is looked at next, and how often after that. -/
structure Beat where
  due : Instant
  period : Duration
deriving DecidableEq

/-- The beat after a round: unchanged before it is due, else the next point of its grid, or a
period from now if that point has passed too. -/
def Beat.after (now : Instant) (beat : Beat) : Beat :=
  if now < beat.due then beat
  else if beat.due + beat.period ≤ now then { beat with due := now + beat.period }
  else { beat with due := beat.due + beat.period }

def Appointment.beat (appointment : Appointment) : Beat :=
  ⟨appointment.due, appointment.period⟩

theorem Appointment.beat_after (now : Instant) (appointment : Appointment) :
    (appointment.after now).beat = appointment.beat.after now := by
  unfold after Beat.after following beat
  split
  · rfl
  · split <;> rfl

/-- What can happen to a single registration. -/
inductive OwnEvent where
  /-- A round of the thread. -/
  | round (now : Instant)
  /-- The check of the registration, once a round has collected it. -/
  | look (now : Instant)
  | silence
  | remove
  /-- The owner of the timer changes it. -/
  | access (change : BatchTimer → BatchTimer)
  /-- Another registration of the same timer polls it. -/
  | poll (now : Instant)

/-- All that concerns a registration, and the generations that its handler was called with. -/
structure Standing where
  /-- The beat, as long as the registration is in the schedule. -/
  beat : Option Beat
  timer : BatchTimer
  /-- A round has collected the registration, and the check is still to come. -/
  collected : Bool := false
  silenced : Bool := false
  fires : List Nat := []
deriving DecidableEq

namespace Standing

/-- A round finds the registration due. -/
def isDue (now : Instant) (standing : Standing) : Bool :=
  standing.beat.any fun beat => beat.due ≤ now

/-- The standing after an event. -/
def react (standing : Standing) : OwnEvent → Standing
  | .round now =>
      if standing.isDue now then
        { standing with beat := standing.beat.map (Beat.after now), collected := true }
      else standing
  | .look now =>
      if standing.silenced then { standing with collected := false }
      else
        let outcome := standing.timer.pollExpired now
        { standing with
          timer := outcome.2
          collected := false
          fires := standing.fires ++ outcome.1.toList }
  | .silence => { standing with silenced := true }
  | .remove => { standing with beat := none }
  | .access change => { standing with timer := change standing.timer }
  | .poll now => { standing with timer := (standing.timer.pollExpired now).2 }

/-- The standing after some events. -/
def replay (standing : Standing) (history : List OwnEvent) : Standing :=
  history.foldl react standing

/-- Only a removal ends the beat. -/
theorem isSome_beat_replay {standing : Standing} {history : List OwnEvent}
    (kept : .remove ∉ history) (scheduled : standing.beat.isSome = true) :
    (standing.replay history).beat.isSome = true := by
  induction history generalizing standing with
  | nil => exact scheduled
  | cons event later ih =>
      obtain ⟨differs, kept⟩ := not_or.mp (mt List.mem_cons.mpr kept)
      refine ih kept ?_
      cases event with
      | remove => exact absurd rfl differs
      | round now =>
          rw [react]
          split
          · simpa using scheduled
          · exact scheduled
      | look now =>
          rw [react]
          split <;> exact scheduled
      | _ => exact scheduled

end Standing

/-- In which way an event concerns a registration. -/
def Registration.ownEvent (own : Registration) : ServiceEvent → Option OwnEvent
  | .register .. | .overrun _ | .leave _ => none
  | .silence id => if id = own.id then some .silence else none
  | .remove id => if id = own.id then some .remove else none
  | .access timer change => if timer = own.timer then some (.access change) else none
  | .collect now => some (.round now)
  | .pass registration now => if registration.id = own.id then some (.look now) else none
  | .check registration now =>
      if registration.id = own.id then some (.look now)
      else if registration.timer = own.timer then some (.poll now)
      else none

namespace TickerService

variable {system next last : TickerService} {event : ServiceEvent} {events : List ServiceEvent}
  {own : Registration}

/-- The standing of a registration in a state. -/
def standing (own : Registration) (system : TickerService) : Standing :=
  { beat := (system.ticker.schedule.get? own.id).map Appointment.beat
    timer := system.timers own.timer
    collected := own ∈ system.ticker.activity.collected
    silenced := own.id ∈ system.ticker.cancelled
    fires := system.firesOf own.id }

/-! ## One event -/

/-- A registration is told by its number. -/
theorem IsSound.eq_of_id (sound : system.IsSound) (member : own ∈ system.registered)
    {other : Registration} (known : other ∈ system.registered) (same : other.id = own.id) :
    other = own :=
  List.inj_on_of_nodup_map sound.distinct known member same

theorem IsSound.nodup_of_serving (sound : system.IsSound) {collected : List Registration}
    (serving : system.ticker.activity = .serving collected) : collected.Nodup := by
  have once := sound.once
  rw [serving] at once
  exact once

theorem standing_eq {standing : Standing}
    (beat : (system.ticker.schedule.get? own.id).map Appointment.beat = standing.beat)
    (timer : system.timers own.timer = standing.timer)
    (collected : own ∈ system.ticker.activity.collected ↔ standing.collected = true)
    (silenced : own.id ∈ system.ticker.cancelled ↔ standing.silenced = true)
    (fires : system.firesOf own.id = standing.fires) : system.standing own = standing := by
  rw [TickerService.standing, Standing.mk.injEq]
  exact ⟨beat, timer, Bool.eq_iff_iff.mpr (by simpa using collected),
    Bool.eq_iff_iff.mpr (by simpa using silenced), fires⟩

/-- Nothing that concerns the registration has changed. -/
theorem standing_congr
    (schedule : next.ticker.schedule.get? own.id = system.ticker.schedule.get? own.id)
    (timer : next.timers own.timer = system.timers own.timer)
    (collected : own ∈ next.ticker.activity.collected ↔ own ∈ system.ticker.activity.collected)
    (silenced : own.id ∈ next.ticker.cancelled ↔ own.id ∈ system.ticker.cancelled)
    (fires : next.firesOf own.id = system.firesOf own.id) :
    next.standing own = system.standing own :=
  standing_eq (by rw [schedule]; rfl) timer (by simpa [TickerService.standing] using collected)
    (by simpa [TickerService.standing] using silenced) fires

theorem standing_enter (sound : system.IsSound) (member : own ∈ system.registered)
    (timer inbox : Nat) (handler : Handler) (now : Instant) (delay period : Duration) :
    (system.enter timer inbox handler now delay period).standing own = system.standing own := by
  have older : own.id ≠ system.ticker.nextId := Nat.ne_of_lt (sound.old own member)
  simp only [TickerService.enter, register_value sound.running]
  refine standing_congr ?_ rfl .rfl .rfl rfl
  rw [KeyTable.get?_put, if_neg older]

theorem isDue_standing {now : Instant} :
    (system.standing own).isDue now = true ↔
      ∃ appointment, system.ticker.schedule.get? own.id = some appointment ∧
        appointment.due ≤ now := by
  simp [Standing.isDue, TickerService.standing, Appointment.beat, Option.any_eq_true]

/-- A round collects the registration exactly if its own beat has come. -/
theorem IsSound.mem_dueAt_iff (sound : system.IsSound) (member : own ∈ system.registered)
    {now : Instant} :
    own ∈ Schedule.dueAt now system.ticker.schedule.entries ↔
      (system.standing own).isDue now = true := by
  rw [sound.numbered.mem_dueAt_iff, isDue_standing]
  constructor
  · rintro ⟨appointment, found, come, _⟩
    exact ⟨appointment, found, come⟩
  · rintro ⟨appointment, found, come⟩
    have entry := KeyTable.mem_of_find found
    have same : appointment.registration = own :=
      sound.eq_of_id member (sound.scheduled _ entry) (sound.numbered.numbered _ entry)
    exact ⟨appointment, found, come, same⟩

theorem standing_round (sound : system.IsSound) (member : own ∈ system.registered)
    {now : Instant} (between : system.ticker.activity = .serving []) :
    standing own { system with
      ticker := { system.ticker with
        schedule := system.ticker.schedule.after now
        activity := .serving (Schedule.dueAt now system.ticker.schedule.entries) } } =
      (system.standing own).react (.round now) := by
  by_cases due : (system.standing own).isDue now = true
  · rw [Standing.react, if_pos due]
    refine standing_eq ?_ rfl ?_ ?_ rfl
    · simp only [Schedule.get?_after, TickerService.standing, Option.map_map]
      congr 1
      funext appointment
      exact appointment.beat_after now
    · exact iff_of_true ((sound.mem_dueAt_iff member).mpr due) rfl
    · simp [TickerService.standing]
  · rw [Standing.react, if_neg due]
    refine standing_congr ?_ rfl ?_ .rfl rfl
    · rw [Schedule.get?_after]
      cases found : system.ticker.schedule.get? own.id with
      | none => rfl
      | some appointment =>
          have early : now < appointment.due :=
            Nat.lt_of_not_le fun come => due (isDue_standing.mpr ⟨appointment, found, come⟩)
          rw [Option.map_some, Appointment.after_of_lt early]
    · rw [between]
      refine iff_of_false ?_ List.not_mem_nil
      exact fun collected => due ((sound.mem_dueAt_iff member).mp collected)

theorem standing_remove (sound : system.IsSound) (id : Nat) :
    standing own { system with ticker := (system.ticker.remove id).2 } =
      if id = own.id then (system.standing own).react .remove else system.standing own := by
  rw [remove_value sound.running]
  split
  next same =>
    refine standing_eq ?_ rfl ?_ ?_ rfl
    · rw [KeyTable.get?_erase, if_pos same.symm]
      rfl
    · simp [TickerService.standing, Standing.react]
    · simp [TickerService.standing, Standing.react]
  next other =>
    refine standing_congr ?_ rfl .rfl .rfl rfl
    rw [KeyTable.get?_erase, if_neg (Ne.symm other)]

theorem standing_pass (sound : system.IsSound) (member : own ∈ system.registered)
    {registration : Registration} {collected : List Registration} (now : Instant)
    (serving : system.ticker.activity = .serving collected) (among : registration ∈ collected)
    (silenced : registration.id ∈ system.ticker.cancelled) :
    standing own (system.goOn (collected.erase registration)) =
      if registration.id = own.id then (system.standing own).react (.look now)
      else system.standing own := by
  have once : collected.Nodup := sound.nodup_of_serving serving
  split
  next same =>
    obtain rfl : registration = own :=
      sound.eq_of_id member (sound.collected (by rwa [serving])) same
    have passed : (system.standing registration).silenced = true := decide_eq_true silenced
    rw [Standing.react, if_pos passed]
    refine standing_eq rfl rfl ?_ ?_ rfl
    · simpa [goOn, Activity.collected] using once.not_mem_erase
    · simp [goOn, TickerService.standing]
  next differs =>
    refine standing_congr rfl rfl ?_ .rfl rfl
    have other : own ≠ registration := fun same => differs (by rw [same])
    rw [serving]
    exact List.mem_erase_of_ne other

theorem firesOf_of_calls {registration : Registration} {answer : Option Nat}
    (calls : next.calls = system.calls ++ answer.toList.map fun generation =>
      (registration, generation)) (id : Nat) :
    next.firesOf id =
      system.firesOf id ++ if registration.id = id then answer.toList else [] := by
  rw [firesOf, calls, List.filter_append, List.map_append, firesOf]
  by_cases same : registration.id = id <;> cases answer <;> simp [same]

/-- A check polls the timer of its own registration, and may call its handler. -/
theorem standing_check (sound : system.IsSound) (member : own ∈ system.registered)
    {registration : Registration} {collected : List Registration} (now : Instant)
    (serving : system.ticker.activity = .serving collected) (among : registration ∈ collected)
    (live : registration.id ∉ system.ticker.cancelled) :
    standing own (system.look registration now (collected.erase registration)) =
      if registration.id = own.id then (system.standing own).react (.look now)
      else if registration.timer = own.timer then (system.standing own).react (.poll now)
      else system.standing own := by
  have once : collected.Nodup := sound.nodup_of_serving serving
  obtain ⟨schedule, cancelled, left, timers, calls⟩ :=
    look_frame registration now (collected.erase registration) system
  have fires := firesOf_of_calls calls own.id
  split
  next same =>
    obtain rfl : registration = own :=
      sound.eq_of_id member (sound.collected (by rwa [serving])) same
    have unsilenced : ¬ (system.standing registration).silenced = true := by
      simpa [TickerService.standing] using live
    rw [Standing.react, if_neg unsilenced]
    refine standing_eq ?_ ?_ ?_ ?_ ?_
    · rw [schedule]
      rfl
    · rw [timers, Function.update_self]
      rfl
    · simpa [left] using once.not_mem_erase
    · simp [cancelled, TickerService.standing]
    · rw [fires, if_pos rfl]
      rfl
  next differs =>
    have other : own ≠ registration := fun same => differs (by rw [same])
    have stays : own ∈ collected.erase registration ↔ own ∈ system.ticker.activity.collected := by
      rw [serving]
      exact List.mem_erase_of_ne other
    rw [← left] at stays
    rw [if_neg differs, List.append_nil] at fires
    split
    next shared =>
      refine standing_eq ?_ ?_ ?_ ?_ fires
      · rw [schedule]
        rfl
      · rw [timers, shared, Function.update_self]
        rfl
      · simpa [TickerService.standing, Standing.react] using stays
      · simp [cancelled, TickerService.standing, Standing.react]
    next apart =>
      refine standing_congr (by rw [schedule]) ?_ stays (by rw [cancelled]) fires
      rw [timers, Function.update_of_ne (Ne.symm apart)]

/-- Whether the call has panicked does not matter. -/
theorem standing_depart (own : Registration) {registration : Registration} {generation : Nat}
    {ends : Instant} {collected : List Registration} (panicked : Bool)
    (handling : system.ticker.activity = .handling registration generation ends collected) :
    standing own (system.depart registration generation panicked collected) =
      system.standing own := by
  simp only [depart, Ticker.finishHandling_value]
  refine standing_congr rfl rfl ?_ .rfl rfl
  rw [handling]
  rfl

theorem Step.standing (step : Step system event next) (sound : system.IsSound)
    (member : own ∈ system.registered) :
    next.standing own =
      (own.ownEvent event).elim (system.standing own) (system.standing own).react := by
  cases step with
  | register timer inbox now delay period returns within =>
      exact standing_enter sound member timer inbox _ now delay period
  | @silence id known unlocked =>
      by_cases same : id = own.id
      · simp [Registration.ownEvent, same, TickerService.standing, Standing.react, Ticker.silence,
          firesOf]
      · simp only [Registration.ownEvent, if_neg same, Option.elim_none]
        exact standing_congr rfl rfl .rfl (by simp [Ticker.silence, Ne.symm same]) rfl
  | remove id =>
      rw [standing_remove sound id]
      by_cases same : id = own.id <;> simp [Registration.ownEvent, same]
  | access timer change =>
      by_cases same : timer = own.timer
      · subst same
        simp only [Registration.ownEvent, if_true, Option.elim_some]
        refine standing_eq rfl (Function.update_self ..) ?_ ?_ rfl <;>
          simp [TickerService.standing, Standing.react]
      · simp only [Registration.ownEvent, if_neg same, Option.elim_none]
        exact standing_congr rfl (Function.update_of_ne (Ne.symm same) ..) .rfl .rfl rfl
  | collect between collected =>
      rw [beginRound_value sound.running collected]
      exact standing_round sound member between
  | overrun between beyond =>
      rw [beginRound_overrun sound.running beyond]
      refine standing_congr rfl rfl ?_ .rfl rfl
      rw [between]
      rfl
  | @pass registration collected now serving among silenced =>
      rw [standing_pass sound member now serving among silenced]
      by_cases same : registration.id = own.id <;> simp [Registration.ownEvent, same]
  | @check registration collected now serving among live =>
      rw [standing_check sound member now serving among live]
      by_cases same : registration.id = own.id
      · simp [Registration.ownEvent, same]
      · by_cases shared : registration.timer = own.timer <;>
          simp [Registration.ownEvent, same, shared]
  | leave panicked handling => exact standing_depart own panicked handling

/-! ## Runs -/

theorem Step.registered (step : Step system event next) :
    system.registered ⊆ next.registered := by
  cases step with
  | register => exact List.subset_append_left _ _
  | check =>
      unfold TickerService.look
      dsimp only
      split <;> exact List.Subset.refl _
  | _ => exact List.Subset.refl _

/-- The standing after a run is found by going over the events that concern the registration. -/
theorem Run.standing (run : Run system events last) (sound : system.IsSound)
    (member : own ∈ system.registered) :
    last.standing own = (system.standing own).replay (events.filterMap own.ownEvent) := by
  induction run with
  | done => rfl
  | @next system middle last event later step _ ih =>
      rw [ih (step.sound sound) (step.registered member), step.standing sound member]
      cases concerned : own.ownEvent event with
      | none => rw [List.filterMap_cons_none concerned, Option.elim_none]
      | some happened =>
          rw [List.filterMap_cons_some concerned, Option.elim_some, Standing.replay,
            Standing.replay, List.foldl_cons]

/-- A new registration is neither collected nor silenced, and was never called. -/
theorem standing_registered (sound : system.IsSound) (own : Registration)
    (new : own.id = system.ticker.nextId) (now : Instant) (delay period : Duration) :
    let entered := system.enter own.timer own.inbox own.handler now delay period
    own ∈ entered.registered ∧
      entered.standing own =
        { beat := some ⟨now + delay, period⟩, timer := system.timers own.timer } := by
  have unused : own ∉ system.registered := fun member =>
    Nat.ne_of_lt (sound.old own member) new
  have same : (⟨system.ticker.nextId, own.timer, own.inbox, own.handler⟩ : Registration) = own := by
    rw [← new]
  simp only [TickerService.enter, register_value sound.running, same]
  refine ⟨List.mem_append_right _ (List.mem_singleton_self own), standing_eq ?_ rfl ?_ ?_ ?_⟩
  · rw [KeyTable.get?_put, if_pos new]
    rfl
  · simpa using fun collected => unused (sound.collected collected)
  · simpa using fun silenced => Nat.ne_of_lt (sound.silenced _ silenced) new
  · rw [firesOf, List.map_eq_nil_iff, List.filter_eq_nil_iff]
    intro call member
    simpa [new] using Nat.ne_of_lt (sound.old _ (sound.called call member))

/-- In a run from the start the registration is made, with the given standing, and the events after
it lead to a state. -/
def IsServed (own : Registration) (first : Standing) (events : List ServiceEvent)
    (last : TickerService) : Prop :=
  ∃ name timers before opened now delay period,
    Run (start name timers) before opened ∧ own.id = opened.ticker.nextId ∧
      Run opened (.register own.timer own.inbox own.handler now delay period :: events) last ∧
      first = { beat := some ⟨now + delay, period⟩, timer := opened.timers own.timer }

variable {first : Standing}

/-- The state right after the registration. -/
theorem IsServed.exists_run (served : IsServed own first events last) :
    ∃ entered, Run entered events last ∧ entered.IsSound ∧ entered.IsCounted ∧
      own ∈ entered.registered ∧ entered.standing own = first := by
  obtain ⟨name, timers, before, opened, now, delay, period, run, new, later, rfl⟩ := served
  have sound := run.sound (isSound_start name timers)
  have counted := run.counted (isSound_start name timers) (isCounted_start name timers)
  cases later with
  | next step later =>
      refine ⟨_, later, step.sound sound, step.counted sound counted, ?_⟩
      cases step
      exact standing_registered sound own new now delay period

theorem Run.registered (run : Run system events last) : system.registered ⊆ last.registered := by
  induction run with
  | done => exact List.Subset.refl _
  | next step _ ih => exact fun _ member => ih (step.registered member)

theorem IsServed.standing (served : IsServed own first events last) :
    last.standing own = first.replay (events.filterMap own.ownEvent) := by
  obtain ⟨entered, run, sound, _, member, rfl⟩ := served.exists_run
  exact run.standing sound member

theorem IsServed.sound (served : IsServed own first events last) :
    last.IsSound ∧ last.IsCounted ∧ own ∈ last.registered := by
  obtain ⟨entered, run, sound, counted, member, _⟩ := served.exists_run
  exact ⟨run.sound sound, run.counted sound counted, run.registered member⟩

theorem mem_of_remove (removed : .remove ∈ events.filterMap own.ownEvent) :
    .remove own.id ∈ events := by
  obtain ⟨event, member, concerned⟩ := List.mem_filterMap.mp removed
  cases event <;> simp only [Registration.ownEvent] at concerned
  case remove id =>
    split at concerned
    next same =>
      rw [← same]
      exact member
    · cases concerned
  all_goals (repeat' split at concerned) <;> cases concerned

/-- As long as nobody removes it, a registration stays in the schedule. -/
theorem IsServed.scheduled (served : IsServed own first events last)
    (kept : .remove own.id ∉ events) :
    ∃ appointment, last.ticker.schedule.get? own.id = some appointment ∧
      appointment.registration = own := by
  obtain ⟨sound, _, member⟩ := served.sound
  have begun : first.beat.isSome = true := by
    obtain ⟨_, _, _, _, _, _, _, _, _, _, rfl⟩ := served
    rfl
  have beats : (last.standing own).beat.isSome = true := by
    rw [served.standing]
    exact Standing.isSome_beat_replay (fun removed => kept (mem_of_remove removed)) begun
  have present : (last.ticker.schedule.get? own.id).isSome = true := by
    simpa [TickerService.standing] using beats
  obtain ⟨appointment, found⟩ := Option.isSome_iff_exists.mp present
  have entry := KeyTable.mem_of_find found
  exact ⟨appointment, found,
    sound.eq_of_id member (sound.scheduled _ entry) (sound.numbered.numbered _ entry)⟩

end TickerService

end KeyedBatching
