import KeyedBatching.Controller
import KeyedBatching.Proofs.CloseOutcomes
import Mathlib.Data.Finset.Card

/-!
# The ledger of registrations

While a ticker runs, its schedule has exactly one entry for each buffer with a
timeout that was opened and not yet closed.  What is done to one buffer does not
show in the entries of the others, and an opening that fails does not show at
all.  A ticker that was asked to stop leaves its schedule as it is.
-/

namespace KeyedBatching

namespace WatchedBuffers

variable {K P : Type}

/-! ## Runs of buffers and controllers -/

/-- A controller is opened with the ticker, unless its settings are wrong or the ticker refuses. -/
def openController (number : Nat) (settings : ControllerSettings) (handler : Handler)
    (now : Instant) (system : WatchedBuffers K P) : WatchedBuffers K P :=
  let outcome :=
    (Controller.watched settings tickerNumber number number handler now system.ticker).value
  match outcome.1 with
  | .error _ => { system with ticker := outcome.2 }
  | .ok (controller : Controller K P) =>
      { system with ticker := outcome.2 }.withBuffer number controller.buffer

/-- What is done to one buffer, by its owner or through its closers.  The settings of a buffer
never change. -/
inductive MemberStep (number : Nat) : WatchedBuffers K P → WatchedBuffers K P → Prop
  | openBuffer {system} (settings : BufferSettings) (handler : Handler) (now : Instant)
      (unused : system.buffers number = none) (here : system.gone = false) :
      MemberStep number system (system.openBuffer number settings handler now)
  | openController {system} (settings : ControllerSettings) (handler : Handler) (now : Instant)
      (unused : system.buffers number = none) (here : system.gone = false) :
      MemberStep number system (system.openController number settings handler now)
  | operate {system} {buffer next : RequestBuffer K P}
      (found : system.buffers number = some buffer)
      (slot : next.registration = buffer.registration)
      (settings : next.settings = buffer.settings) :
      MemberStep number system (system.withBuffer number next)
  | closeEmpty {system} {buffer : RequestBuffer K P}
      (found : system.buffers number = some buffer) (free : system.closing number = none)
      (empty : buffer.registration = none) :
      MemberStep number system (system.note (.closed number (.ok ())))
  | take {system} {buffer : RequestBuffer K P} {handle : RegistrationHandle}
      (found : system.buffers number = some buffer) (free : system.closing number = none)
      (full : buffer.registration = some handle) :
      MemberStep number system
        ((system.withBuffer number { buffer with registration := none }).withClosing number
          (some (.taken handle)))
  | silence {system} {handle : RegistrationHandle}
      (taken : system.closing number = some (.taken handle))
      (unchecked : ¬ system.IsChecking handle.id) :
      MemberStep number system
        ({ system with ticker := system.ticker.silence handle.id }.withClosing number
          (some (.silenced handle)))
  | endClosing {system} {handle : RegistrationHandle}
      (silenced : system.closing number = some (.silenced handle)) :
      MemberStep number system (system.endClosing number handle)

inductive LedgerStep (system next : WatchedBuffers K P) : Prop
  | thread (step : ThreadStep system next)
  | member (number : Nat) (step : MemberStep number system next)
  /-- What leaves all buffers alone, such as a shutdown of the ticker. -/
  | apart (step : CallerStep system next) (buffers : next.buffers = system.buffers)
      (closing : next.closing = system.closing)

/-- The states that a ticker reaches from its start on. -/
inductive LedgerReachable : WatchedBuffers K P → Prop
  | start (name : String) : LedgerReachable { ticker := (Ticker.start name).value }
  | step {system next : WatchedBuffers K P} (reached : LedgerReachable system)
      (step : LedgerStep system next) : LedgerReachable next

variable {system next later : WatchedBuffers K P}

/-- A controller is opened as its buffer is, but a batch size of zero is refused before. -/
theorem openController_cases (number : Nat) (settings : ControllerSettings) (handler : Handler)
    (now : Instant) (system : WatchedBuffers K P) :
    system.openController number settings handler now = system ∨
      system.openController number settings handler now =
        system.openBuffer number settings.buffer handler now := by
  by_cases zero : settings.batchSize = 0
  · exact .inl (by simp [openController, Controller.watched, Controller.checkSettings, zero])
  · right
    rcases opened : (RequestBuffer.watched (K := K) (P := P) settings.buffer tickerNumber number
      number handler now system.ticker).value with ⟨outcome, ticker⟩
    cases outcome <;>
      simp [openController, WatchedBuffers.openBuffer, Controller.watched,
        Controller.checkSettings, zero, opened, Except.map, Controller.around]

theorem MemberStep.base {number : Nat} (step : MemberStep number system next) :
    next = system ∨ CallerStep system next := by
  cases step with
  | openBuffer settings handler now unused here =>
      exact .inr (.openBuffer settings handler now unused here)
  | openController settings handler now unused here =>
      rcases openController_cases number settings handler now system with same | same
      · exact .inl same
      · rw [same]
        exact .inr (.openBuffer settings.buffer handler now unused here)
  | operate found slot settings => exact .inr (.operate found slot)
  | closeEmpty found free empty => exact .inr (.closeEmpty found free empty)
  | take found free full => exact .inr (.take found free full)
  | silence taken unchecked => exact .inr (.silence taken unchecked)
  | endClosing silenced => exact .inr (.endClosing silenced)

theorem LedgerStep.base (step : LedgerStep system next) : next = system ∨ Step system next := by
  cases step with
  | thread step => exact .inr (.thread step)
  | member number step => exact step.base.imp_right .caller
  | apart step buffers closing => exact .inr (.caller step)

theorem LedgerReachable.reachable (reached : LedgerReachable system) : Reachable system := by
  induction reached with
  | start name => exact .start name
  | step _ step ih =>
      rcases step.base with rfl | step
      · exact ih
      · exact ih.step step

theorem LedgerReachable.run (reached : LedgerReachable system)
    (run : Relation.ReflTransGen LedgerStep system later) : LedgerReachable later := by
  induction run with
  | refl => exact reached
  | tail _ step ih => exact ih.step step

/-! ## Settings -/

def settingsOf (number : Nat) (system : WatchedBuffers K P) : Option BufferSettings :=
  (system.buffers number).map RequestBuffer.settings

theorem settingsOf_withBuffer {number : Nat} {buffer other : RequestBuffer K P}
    (found : system.buffers number = some buffer) (same : other.settings = buffer.settings)
    (member : Nat) :
    (system.withBuffer number other).settingsOf member = system.settingsOf member := by
  by_cases own : member = number
  · rw [settingsOf, settingsOf, own, withBuffer_same, found, Option.map_some, Option.map_some, same]
  · rw [settingsOf, settingsOf, withBuffer_other own]

theorem ThreadStep.settingsOf (step : ThreadStep system next) (number : Nat) :
    next.settingsOf number = system.settingsOf number := by
  cases step with
  | poll now admitted =>
      unfold WatchedBuffers.poll
      split
      · rfl
      next buffer found =>
        have kept : { buffer with
          timer := (buffer.timer.pollExpired now).2 }.settings = buffer.settings := rfl
        exact settingsOf_withBuffer found kept number
  | _ => rfl

/-- A buffer is opened, or all settings stay as they are. -/
theorem LedgerStep.settingsOf (step : LedgerStep system next) :
    (∃ number settings handler now, system.buffers number = none ∧
        next = system.openBuffer number settings handler now) ∨
      ∀ number, next.settingsOf number = system.settingsOf number := by
  cases step with
  | thread step => exact .inr step.settingsOf
  | apart step buffers closing =>
      right
      intro number
      rw [WatchedBuffers.settingsOf, WatchedBuffers.settingsOf, buffers]
  | member number step =>
      cases step with
      | openBuffer settings handler now unused here =>
          exact .inl ⟨number, settings, handler, now, unused, rfl⟩
      | openController settings handler now unused here =>
          rcases openController_cases number settings handler now system with same | same
          · rw [same]
            exact .inr fun _ => rfl
          · exact .inl ⟨number, settings.buffer, handler, now, unused, same⟩
      | operate found slot settings => exact .inr (settingsOf_withBuffer found settings)
      | @take buffer handle found free full =>
          have kept : { buffer with registration := none }.settings = buffer.settings := rfl
          exact .inr (settingsOf_withBuffer found kept)
      | endClosing silenced =>
          right
          intro other
          simp only [WatchedBuffers.endClosing]
          split <;> rfl
      | _ => exact .inr fun _ => rfl

/-! ## Live buffers -/

/-- The buffer has a timeout, and none of its close calls has returned. -/
def IsLive (system : WatchedBuffers K P) (number : Nat) : Prop :=
  (∃ settings, system.settingsOf number = some settings ∧ settings.timeoutEnabled = true) ∧
    system.outcomesOf number = []

/-- Exactly the live buffers have claims, and what is booked for them has their interval. -/
structure IsLedger (system : WatchedBuffers K P) : Prop where
  live : ∀ number, (∃ id, system.claimOf number = some id) ↔ system.IsLive number
  period : ∀ booking ∈ system.bookings, ∀ settings,
    system.settingsOf booking.registration.timer = some settings →
      booking.period = settings.interval

theorem isLive_congr {number : Nat}
    (settings : next.settingsOf number = system.settingsOf number)
    (outcomes : next.outcomesOf number = system.outcomesOf number) :
    next.IsLive number ↔ system.IsLive number := by
  rw [IsLive, IsLive, settings, outcomes]

theorem claimOf_of_closed {number : Nat} (closed : system.IsClosed number) :
    system.claimOf number = none := by
  obtain ⟨⟨buffer, found, empty⟩, free⟩ := closed
  rw [claimOf_of_free free found, empty]
  rfl

theorem IsLedger.congr (ledger : system.IsLedger)
    (settings : ∀ number, next.settingsOf number = system.settingsOf number)
    (claims : next.claimOf = system.claimOf) (bookings : next.bookings = system.bookings)
    (returns : next.returns = system.returns) : next.IsLedger := by
  constructor
  · intro number
    rw [claims, isLive_congr (settings number) (outcomesOf_congr number returns)]
    exact ledger.live number
  · intro booking member
    rw [bookings] at member
    rw [settings]
    exact ledger.period booking member

/-- The return of a close call leaves its buffer without a claim. -/
theorem IsLedger.returns (ledger : system.IsLedger)
    (settings : ∀ number, next.settingsOf number = system.settingsOf number) {number : Nat}
    {outcome : Except BufferError Unit} (usedUp : next.claimOf number = none)
    (elsewhere : ∀ other, other ≠ number → next.claimOf other = system.claimOf other)
    (bookings : next.bookings ⊆ system.bookings)
    (returns : next.returns = system.returns ++ [(number, outcome)]) : next.IsLedger := by
  constructor
  · intro other
    by_cases same : other = number
    · subst same
      rw [usedUp, IsLive, outcomesOf_append returns]
      simp
    · rw [elsewhere other same,
        isLive_congr (settings other) (outcomesOf_other returns (Ne.symm same))]
      exact ledger.live other
  · intro booking member
    rw [settings]
    exact ledger.period booking (bookings member)

/-- A step that opens no buffer keeps the ledger. -/
theorem IsLedger.move (ledger : system.IsLedger) (after : next.IsSound)
    (settings : ∀ number, next.settingsOf number = system.settingsOf number)
    (move : system.Move next) : next.IsLedger := by
  have elsewhere {number : Nat} (usedUp : next.claimOf =
      Function.update system.claimOf number none) (other : Nat) (differs : other ≠ number) :
      next.claimOf other = system.claimOf other := by
    rw [usedUp, Function.update_of_ne differs]
  cases move with
  | keep claims schedule returns =>
      exact ledger.congr settings claims (by rw [bookings, schedule]) returns
  | round claims running bookings returns => exact ledger.congr settings claims bookings returns
  | enter number appointment unused claims =>
      -- The new claim would be that of a buffer without settings.
      have absent : next.buffers number = none := by
        have same := settings number
        rwa [settingsOf, settingsOf, unused, Option.map_none, Option.map_eq_none_iff] at same
      have claim : next.claimOf number = some system.ticker.nextId := by
        rw [claims, Function.update_self]
      cases (after.claimOf_of_unused absent).symm.trans claim
  | again number closed claims schedule returns =>
      refine ledger.returns settings ?_ ?_ ?_ returns
      · rw [claims, claimOf_of_closed closed]
      · exact fun other _ => by rw [claims]
      · rw [bookings, schedule]
        exact List.Subset.refl _
  | leave number handle silenced claims running schedule returns =>
      refine ledger.returns settings ?_ (elsewhere claims) ?_ returns
      · rw [claims, Function.update_self]
      · rw [bookings, schedule, Schedule.bookings_erase]
        exact List.filter_subset_self _
  | abandon number handle silenced claims stopped schedule returns =>
      refine ledger.returns settings ?_ (elsewhere claims) ?_ returns
      · rw [claims, Function.update_self]
      · rw [bookings, schedule]
        exact List.Subset.refl _

/-- A new buffer has a claim if it has a timeout. -/
theorem IsLedger.add (ledger : system.IsLedger) (booked : system.IsBooked)
    (sound : system.IsSound) {number : Nat} (settings : BufferSettings)
    (unused : system.buffers number = none)
    (own : next.settingsOf number = some settings)
    (others : ∀ other, other ≠ number → next.settingsOf other = system.settingsOf other)
    (claim : (∃ id, next.claimOf number = some id) ↔ settings.timeoutEnabled = true)
    (elsewhere : ∀ other, other ≠ number → next.claimOf other = system.claimOf other)
    (bookings : ∀ booking ∈ next.bookings, booking ∈ system.bookings ∨
      booking.registration.timer = number ∧ booking.period = settings.interval)
    (returns : next.returns = system.returns) : next.IsLedger := by
  have unreturned : next.outcomesOf number = [] := by
    rw [outcomesOf_congr number returns]
    apply sound.outcomesOf_eq_nil
    rintro ⟨⟨buffer, found, _⟩, _⟩
    cases unused.symm.trans found
  constructor
  · intro other
    by_cases same : other = number
    · subst same
      rw [claim, IsLive, own, unreturned]
      simp
    · rw [elsewhere other same, isLive_congr (others other same) (outcomesOf_congr other returns)]
      exact ledger.live other
  · intro booking member given known
    rcases bookings booking member with old | ⟨timer, period⟩
    · rw [others _ (booked.timer_ne_of_unused sound unused old)] at known
      exact ledger.period booking old given known
    · rw [timer, own] at known
      obtain rfl := Option.some.inj known
      exact period

theorem IsLedger.openBuffer (ledger : system.IsLedger) (booked : system.IsBooked)
    (sound : system.IsSound) {number : Nat} (settings : BufferSettings) (handler : Handler)
    (now : Instant) (unused : system.buffers number = none) :
    IsLedger (system.openBuffer number settings handler now) := by
  have free := sound.free_of_unused unused
  have elsewhere (buffer : RequestBuffer K P) (other : Nat) (differs : other ≠ number) :
      (system.withBuffer number buffer).claimOf other = system.claimOf other := by
    rw [claimOf_add free, Function.update_of_ne differs]
  have others (buffer : RequestBuffer K P) (other : Nat) (differs : other ≠ number) :
      (system.withBuffer number buffer).settingsOf other = system.settingsOf other := by
    rw [settingsOf, settingsOf, withBuffer_other differs]
  rcases openBuffer_cases number settings handler now system with
    ⟨_, _, result⟩ | ⟨disabled, result⟩ | ⟨enabled, _, result⟩
  · rw [result]
    exact ledger.congr (fun _ => rfl) rfl rfl rfl
  · rw [result]
    refine ledger.add booked sound settings unused ?_ (others _) ?_ (elsewhere _)
      (fun _ => .inl) rfl
    · rw [settingsOf, withBuffer_same]
      rfl
    · rw [claimOf_add free, Function.update_self]
      simp [RequestBuffer.empty, BufferSettings.timeoutEnabled, disabled]
  · rw [result]
    refine ledger.add booked sound settings unused ?_ (others _) ?_ (elsewhere _)
      ?_ rfl
    · rw [settingsOf, withBuffer_same]
      rfl
    · have claims := claimOf_add free
        (RequestBuffer.empty settings (some ⟨tickerNumber, system.ticker.nextId⟩))
      have claim := (congrFun claims number).trans (Function.update_self _ _ _)
      refine ⟨fun _ => by simp [BufferSettings.timeoutEnabled, enabled], fun _ => ?_⟩
      exact ⟨system.ticker.nextId, claim⟩
    · intro booking member
      have entered := member
      rw [bookings, withBuffer, Schedule.bookings_put booked.nextId_unused] at entered
      rcases List.mem_append.mp entered with old | new
      · exact .inl old
      · rw [List.mem_singleton.mp new]
        exact .inr ⟨rfl, rfl⟩

theorem LedgerReachable.isLedger (reached : LedgerReachable system) : system.IsLedger := by
  induction reached with
  | start name =>
      refine ⟨fun number => ⟨?_, ?_⟩, fun booking member => by cases member⟩
      · rintro ⟨id, claim⟩
        cases claim
      · rintro ⟨⟨settings, known, _⟩, _⟩
        cases known
  | @step system next before step ledger =>
      have sound := before.reachable.isSound
      have booked := before.reachable.isBooked
      rcases step.settingsOf with ⟨number, settings, handler, now, unused, rfl⟩ | settings
      · exact ledger.openBuffer booked sound settings handler now unused
      · rcases step.base with rfl | step
        · exact ledger
        · exact ledger.move (step.isSound sound) settings (step.move booked sound)

/-! ## Entries -/

/-- The entries of one buffer. -/
def entriesOf (number : Nat) (system : WatchedBuffers K P) : List (Nat × Appointment) :=
  system.ticker.schedule.entries.filter fun entry => entry.2.registration.timer = number

theorem mem_entriesOf {number : Nat} {entry : Nat × Appointment} :
    entry ∈ system.entriesOf number ↔
      entry ∈ system.ticker.schedule.entries ∧ entry.2.registration.timer = number := by
  simp [entriesOf]

theorem booking_of_entry {entry : Nat × Appointment}
    (member : entry ∈ system.ticker.schedule.entries) :
    Schedule.bookingOf entry ∈ system.bookings :=
  List.mem_map_of_mem member

/-- A running ticker has nothing booked but what is claimed. -/
theorem IsBooked.claim_of_entry (booked : system.IsBooked)
    (running : system.ticker.stopRequested = false) {number : Nat} {entry : Nat × Appointment}
    (member : entry ∈ system.entriesOf number) : system.claimOf number = some entry.1 := by
  obtain ⟨scheduled, rfl⟩ := mem_entriesOf.mp member
  rcases booked.claimed _ (booking_of_entry scheduled) with claim | late
  · exact claim
  · cases running.symm.trans (booked.late _ late).1

theorem IsBooked.nodup_entries (booked : system.IsBooked) :
    (system.ticker.schedule.entries.map Prod.fst).Nodup := by
  have distinct := booked.distinct
  rwa [← Schedule.keys_eq] at distinct

/-- A running ticker has one entry for a claim. -/
theorem IsBooked.entriesOf_of_claim (booked : system.IsBooked)
    (running : system.ticker.stopRequested = false) {number id : Nat}
    (claim : system.claimOf number = some id) :
    ∃ appointment, system.entriesOf number = [(id, appointment)] := by
  obtain ⟨booking, member, rfl, timer⟩ := booked.booked number id claim
  obtain ⟨⟨id, appointment⟩, scheduled, rfl⟩ := List.mem_map.mp member
  refine ⟨appointment, List.perm_singleton.mp ?_⟩
  have distinct : (system.entriesOf number).Nodup :=
    (List.Nodup.of_map _ booked.nodup_entries).filter _
  rw [List.perm_ext_iff_of_nodup distinct (List.nodup_singleton _)]
  intro entry
  rw [List.mem_singleton]
  constructor
  · intro listed
    have same := booked.claim_of_entry running listed
    rw [claim] at same
    exact List.inj_on_of_nodup_map booked.nodup_entries (mem_entriesOf.mp listed).1 scheduled
      (Option.some.inj same).symm
  · rintro rfl
    exact mem_entriesOf.mpr ⟨scheduled, timer⟩

/-- What is done to one buffer does not show in the entries of another. -/
theorem MemberStep.entriesOf {number : Nat} (step : MemberStep number system next)
    (booked : system.IsBooked) {other : Nat} (differs : other ≠ number) :
    next.entriesOf other = system.entriesOf other := by
  have opens (settings : BufferSettings) (handler : Handler) (now : Instant) :
      (system.openBuffer number settings handler now).entriesOf other =
        system.entriesOf other := by
    rcases openBuffer_cases number settings handler now system with
      ⟨_, _, result⟩ | ⟨_, result⟩ | ⟨_, _, result⟩
    · rw [result]
      rfl
    · rw [result]
      rfl
    · rw [result, WatchedBuffers.entriesOf, withBuffer,
        Schedule.entries_put booked.nextId_unused, List.filter_append]
      simp [WatchedBuffers.entriesOf, Ne.symm differs]
  cases step with
  | openBuffer settings handler now unused here => exact opens settings handler now
  | openController settings handler now unused here =>
      rcases openController_cases number settings handler now system with same | same
      · rw [same]
      · rw [same]
        exact opens settings.buffer handler now
  | @endClosing handle silenced =>
      obtain ⟨booking, member, own, timer⟩ :=
        booked.booked number handle.id (claimOf_of_closing silenced)
      have present : handle.id ∈ system.bookings.map Booking.id :=
        List.mem_map.mpr ⟨booking, member, own⟩
      rcases endClosing_of_booked number booked.gone present with
        ⟨_, result⟩ | ⟨_, result⟩
      · rw [result]
        rfl
      · rw [result]
        have spared : ∀ entry ∈ system.entriesOf other, entry.1 ≠ handle.id := by
          intro entry listed same
          obtain ⟨scheduled, belongs⟩ := mem_entriesOf.mp listed
          have equal : Schedule.bookingOf entry = booking :=
            booked.eq_of_id (booking_of_entry scheduled) member (same.trans own.symm)
          rw [← equal] at timer
          exact differs (belongs.symm.trans timer)
        change (system.ticker.schedule.entries.filter _).filter _ = system.entriesOf other
        rw [List.filter_comm]
        exact List.filter_eq_self.mpr fun entry listed => by simpa using spared entry listed
  | _ => rfl

/-- An opening that fails does not show in the schedule. -/
theorem MemberStep.schedule_of_failed {number : Nat} (step : MemberStep number system next)
    (sound : system.IsSound) (failed : next.buffers number = none) :
    next.ticker.schedule = system.ticker.schedule := by
  have opens (settings : BufferSettings) (handler : Handler) (now : Instant)
      (failed : (system.openBuffer number settings handler now).buffers number = none) :
      (system.openBuffer number settings handler now).ticker.schedule =
        system.ticker.schedule := by
    rcases openBuffer_cases number settings handler now system with
      ⟨_, _, result⟩ | ⟨_, result⟩ | ⟨_, _, result⟩
    · rw [result]
    · rw [result]
      rfl
    · rw [result, withBuffer_same] at failed
      cases failed
  cases step with
  | openBuffer settings handler now unused here => exact opens settings handler now failed
  | openController settings handler now unused here =>
      rcases openController_cases number settings handler now system with same | same
      · rw [same]
      · rw [same] at failed ⊢
        exact opens settings.buffer handler now failed
  | @endClosing handle silenced =>
      have ends : Step system (system.endClosing number handle) := .caller (.endClosing silenced)
      obtain ⟨buffer, found, _⟩ := ends.isEmptied (sound.emptied number _ silenced)
      cases failed.symm.trans found
  | _ => rfl

/-- A ticker that was asked to stop leaves its schedule alone. -/
theorem Move.schedule_of_stopped (move : system.Move next)
    (stopped : system.ticker.stopRequested = true) :
    next.ticker.schedule = system.ticker.schedule := by
  cases move with
  | keep claims schedule returns => exact schedule
  | round claims running => cases running.symm.trans stopped
  | enter number appointment unused claims running => cases running.symm.trans stopped
  | again number closed claims schedule returns => exact schedule
  | leave number handle silenced claims running => cases running.symm.trans stopped
  | abandon number handle silenced claims stopped schedule returns => exact schedule

theorem LedgerReachable.schedule_of_stopped (reached : LedgerReachable system)
    (stopped : system.ticker.stopRequested = true)
    (run : Relation.ReflTransGen LedgerStep system later) :
    later.ticker.stopRequested = true ∧ later.ticker.schedule = system.ticker.schedule := by
  induction run with
  | refl => exact ⟨stopped, rfl⟩
  | @tail between last before step ih =>
      obtain ⟨stopped, same⟩ := ih
      have reached := (reached.run before).reachable
      rcases step.base with rfl | step
      · exact ⟨stopped, same⟩
      · refine ⟨step.grows.stopped stopped, ?_⟩
        rw [(step.move reached.isBooked reached.isSound).schedule_of_stopped stopped, same]

/-- The count of registrations of a running ticker is that of the live buffers. -/
theorem IsLedger.registrationCount (ledger : system.IsLedger) (booked : system.IsBooked)
    (running : system.ticker.stopRequested = false) {live : Finset Nat}
    (all : ∀ number, number ∈ live ↔ system.IsLive number) :
    system.ticker.registrationCount = live.card := by
  let timers := system.ticker.schedule.entries.map fun entry => entry.2.registration.timer
  have listed {entry : Nat × Appointment} (member : entry ∈ system.ticker.schedule.entries) :
      entry ∈ system.entriesOf entry.2.registration.timer := mem_entriesOf.mpr ⟨member, rfl⟩
  have distinct : timers.Nodup := by
    apply List.Nodup.map_on _ (List.Nodup.of_map _ booked.nodup_entries)
    intro entry member other among same
    have claim := booked.claim_of_entry running (listed member)
    rw [same, booked.claim_of_entry running (listed among)] at claim
    exact List.inj_on_of_nodup_map booked.nodup_entries member among (Option.some.inj claim).symm
  have same : timers.toFinset = live := by
    ext number
    rw [List.mem_toFinset, all, ← ledger.live]
    constructor
    · intro member
      obtain ⟨entry, scheduled, rfl⟩ := List.mem_map.mp member
      exact ⟨entry.1, booked.claim_of_entry running (listed scheduled)⟩
    · rintro ⟨id, claim⟩
      obtain ⟨booking, member, _, timer⟩ := booked.booked number id claim
      obtain ⟨entry, scheduled, rfl⟩ := List.mem_map.mp member
      exact List.mem_map.mpr ⟨entry, scheduled, timer⟩
  rw [← same, List.toFinset_card_of_nodup distinct]
  exact (List.length_map _).symm

/-- While the ticker runs, each live buffer has exactly one entry, with its interval, and there is
no other entry.  Openings that fail and whatever is done to one buffer leave the entries of the
others alone.  Once the ticker was asked to stop, its entries never change. -/
theorem reachable_ledger (reached : LedgerReachable system) :
    (system.ticker.stopRequested = false →
      (∀ number, system.IsLive number → ∃ id appointment settings,
        system.entriesOf number = [(id, appointment)] ∧
          system.settingsOf number = some settings ∧ appointment.period = settings.interval) ∧
      (∀ number, ¬ system.IsLive number → system.entriesOf number = []) ∧
      ∀ live : Finset Nat, (∀ number, number ∈ live ↔ system.IsLive number) →
        system.ticker.registrationCount = live.card) ∧
    (∀ number next, MemberStep number system next →
      (∀ other, other ≠ number → next.entriesOf other = system.entriesOf other) ∧
      (next.buffers number = none → next.ticker.schedule = system.ticker.schedule)) ∧
    (system.ticker.stopRequested = true →
      ∀ later, Relation.ReflTransGen LedgerStep system later →
        later.ticker.schedule = system.ticker.schedule) := by
  have booked := reached.reachable.isBooked
  have sound := reached.reachable.isSound
  have ledger := reached.isLedger
  refine ⟨fun running => ⟨?_, ?_, ?_⟩, ?_, ?_⟩
  · intro number live
    obtain ⟨id, claim⟩ := (ledger.live number).mpr live
    obtain ⟨appointment, only⟩ := booked.entriesOf_of_claim running claim
    obtain ⟨⟨settings, known, _⟩, _⟩ := live
    have listed : (id, appointment) ∈ system.entriesOf number := by
      rw [only]
      exact List.mem_cons_self
    obtain ⟨scheduled, rfl⟩ := mem_entriesOf.mp listed
    exact ⟨id, appointment, settings, only, known,
      ledger.period _ (booking_of_entry scheduled) settings known⟩
  · intro number dead
    rw [List.eq_nil_iff_forall_not_mem]
    intro entry listed
    exact dead ((ledger.live number).mp ⟨entry.1, booked.claim_of_entry running listed⟩)
  · exact fun live all => ledger.registrationCount booked running all
  · intro number next step
    exact ⟨fun other differs => step.entriesOf booked differs, step.schedule_of_failed sound⟩
  · exact fun stopped later run => (reached.schedule_of_stopped stopped run).2

/-- A buffer and a controller are open, and a close call of the buffer is about to end.  Further
openings fail, and so does one after the ticker was stopped. -/
theorem reachable_ledger_controller :
    ∃ system : WatchedBuffers Nat String, LedgerReachable system ∧
      system.IsLive 7 ∧ system.IsLive 8 ∧ ¬ system.IsLive 9 ∧
      (∃ id appointment settings, system.entriesOf 8 = [(id, appointment)] ∧
        system.settingsOf 8 = some settings ∧ appointment.period = settings.interval) ∧
      system.entriesOf 9 = [] ∧ system.ticker.registrationCount = 2 ∧
      ∃ closed stopped refused : WatchedBuffers Nat String,
        closed.entriesOf 7 = [] ∧ closed.entriesOf 8 = system.entriesOf 8 ∧
        stopped.ticker.stopRequested = true ∧ refused.buffers 10 = none ∧
        refused.ticker.schedule = stopped.ticker.schedule := by
  let settings : BufferSettings := { timeout := 100, interval := 10 }
  let wrong : BufferSettings := { timeout := 100, interval := 0 }
  let handle : RegistrationHandle := ⟨tickerNumber, 1⟩
  let started : WatchedBuffers Nat String := { ticker := (Ticker.start "timeouts").value }
  let first := started.openBuffer 7 settings {} 0
  let second := first.openController 8 { buffer := settings } {} 0
  let empty := second.openController 9 { buffer := settings, batchSize := 0 } {} 0
  let failed := empty.openBuffer 9 wrong {} 0
  let taken := (failed.withBuffer 7 (.empty settings none)).withClosing 7 (some (.taken handle))
  let silenced := { taken with ticker := taken.ticker.silence 1 }.withClosing 7
    (some (.silenced handle))
  let closed := silenced.endClosing 7 handle
  let stopped := { closed with ticker := closed.ticker.requestStop }
  let refused := stopped.openController 10 { buffer := settings } {} 0
  have idle : ¬ taken.IsChecking 1 := by
    rintro ⟨check, checking, _⟩
    cases checking
  have opened : LedgerReachable failed := by
    have opens : LedgerStep started first := .member 7 (.openBuffer settings {} 0 rfl rfl)
    have controls : LedgerStep first second := .member 8 (.openController _ {} 0 rfl rfl)
    have refuses : LedgerStep second empty := .member 9 (.openController _ {} 0 rfl rfl)
    have fails : LedgerStep empty failed := .member 9 (.openBuffer wrong {} 0 rfl rfl)
    exact .step (.step (.step (.step (.start _) opens) controls) refuses) fails
  have reached : LedgerReachable silenced := by
    have full : failed.buffers 7 = some (.empty settings (some handle)) := rfl
    have takes : LedgerStep failed taken := .member 7 (.take full rfl rfl)
    have silences : LedgerStep taken silenced := .member 7 (.silence rfl idle)
    exact .step (.step opened takes) silences
  have ends : MemberStep 7 silenced closed := .endClosing rfl
  have stops : LedgerStep closed stopped := .apart .requestStop rfl rfl
  have late : MemberStep 10 stopped refused := .openController _ {} 0 rfl rfl
  have after : LedgerReachable stopped := .step (.step reached (.member 7 ends)) stops
  have firstLive : silenced.IsLive 7 := ⟨⟨settings, rfl, rfl⟩, rfl⟩
  have secondLive : silenced.IsLive 8 := ⟨⟨settings, rfl, rfl⟩, rfl⟩
  have noneLive : ¬ silenced.IsLive 9 := by
    rintro ⟨⟨given, known, _⟩, _⟩
    cases known
  have all (number : Nat) : number ∈ ({7, 8} : Finset Nat) ↔ silenced.IsLive number := by
    by_cases seven : number = 7
    · simp [seven, firstLive]
    by_cases eight : number = 8
    · simp [eight, secondLive]
    have absent : silenced.settingsOf number = none := by
      have unused : silenced.buffers number = none := calc
        silenced.buffers number = failed.buffers number := withBuffer_other seven _ failed
        _ = first.buffers number := withBuffer_other eight _ first
        _ = started.buffers number := withBuffer_other seven _ started
        _ = none := rfl
      rw [settingsOf, unused, Option.map_none]
    simp [IsLive, absent, seven, eight]
  obtain ⟨running, members, _⟩ := reachable_ledger reached
  obtain ⟨live, dead, count⟩ := running rfl
  obtain ⟨_, failures, unchanged⟩ := reachable_ledger after
  exact ⟨silenced, reached, firstLive, secondLive, noneLive, live 8 secondLive, dead 9 noneLive,
    count {7, 8} all, closed, stopped, refused, rfl, (members 7 closed ends).1 8 (by decide), rfl,
    rfl, (failures 10 refused late).2 rfl⟩

end WatchedBuffers

end KeyedBatching
