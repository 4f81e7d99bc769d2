import KeyedBatching.Proofs.HandlerRounds

/-!
# What a ticker has booked

A claim on a registration is in the slot of its buffer, or with the close call
that took it from there.  Every claim has its entry in the schedule, and every
entry its claim, save those that a close call could not take away any more
because the ticker was shut down.  Only the opening of a buffer adds an entry,
only the end of a close call takes one away, and a round of the thread moves
nothing but the instants at which registrations are due.
-/

namespace KeyedBatching

/-- What an entry of a schedule says apart from when the registration is due. -/
structure Booking where
  id : Nat
  registration : Registration
  period : Duration
deriving DecidableEq

namespace Schedule

def bookingOf (entry : Nat × Appointment) : Booking :=
  ⟨entry.1, entry.2.registration, entry.2.period⟩

def bookings (schedule : Schedule) : List Booking :=
  schedule.entries.map bookingOf

theorem keys_eq (schedule : Schedule) : schedule.keys = schedule.bookings.map Booking.id := by
  simp [KeyTable.keys, bookings, bookingOf]

theorem entries_put {schedule : Schedule} {id : Nat}
    (unused : id ∉ schedule.bookings.map Booking.id) (appointment : Appointment) :
    (schedule.put id appointment).entries = schedule.entries ++ [(id, appointment)] := by
  rw [← keys_eq] at unused
  exact KeyTable.replace_absent appointment unused

theorem bookings_put {schedule : Schedule} {id : Nat}
    (unused : id ∉ schedule.bookings.map Booking.id) (appointment : Appointment) :
    bookings (schedule.put id appointment) =
      schedule.bookings ++ [bookingOf (id, appointment)] := by
  rw [bookings, entries_put unused, List.map_append, bookings]
  rfl

theorem bookings_erase (id : Nat) (schedule : Schedule) :
    bookings (schedule.erase id) = schedule.bookings.filter fun booking => booking.id ≠ id := by
  rw [bookings, bookings, List.filter_map]
  rfl

theorem contains_iff {schedule : Schedule} {id : Nat} :
    schedule.contains id = true ↔ id ∈ schedule.bookings.map Booking.id := by
  rw [← keys_eq, KeyTable.contains, Option.isSome_iff_ne_none, Ne, KeyTable.get?_eq_none_iff,
    not_not]

end Schedule

theorem Appointment.period_of_next? {now : Instant} {appointment moved : Appointment}
    (next : appointment.next? now = some moved) : moved.period = appointment.period := by
  unfold next? at next
  split at next
  · cases next
  · split at next
    · obtain ⟨due, _, rfl⟩ := Option.map_eq_some_iff.mp next
      rfl
    · obtain rfl := Option.some.inj next
      rfl

namespace Schedule

theorem bookings_collectEntries {now : Instant} {entries rest : List (Nat × Appointment)}
    {due : List Registration} (collected : collectEntries now entries = some (due, rest)) :
    rest.map bookingOf = entries.map bookingOf := by
  induction entries generalizing due rest with
  | nil =>
      obtain ⟨rfl, rfl⟩ : [] = due ∧ [] = rest := by simpa [collectEntries] using collected
      rfl
  | cons entry later ih =>
      obtain ⟨id, appointment⟩ := entry
      rw [collectEntries] at collected
      split at collected
      · obtain ⟨⟨others, left⟩, within, same⟩ := Option.map_eq_some_iff.mp collected
        obtain ⟨rfl, rfl⟩ := Prod.mk.inj same
        rw [List.map_cons, List.map_cons, ih within]
      · split at collected
        next moved others next within =>
          obtain ⟨rfl, rfl⟩ := Prod.mk.inj (Option.some.inj collected)
          have kept : bookingOf (id, moved) = bookingOf (id, appointment) := by
            rw [bookingOf, bookingOf, Appointment.registration_of_next? next,
              Appointment.period_of_next? next]
          rw [List.map_cons, List.map_cons, ih within, kept]
        · cases collected

end Schedule

namespace Ticker

theorem beginRound_bookings (now : Instant) (ticker : Ticker) :
    (ticker.beginRound now).schedule.bookings = ticker.schedule.bookings := by
  unfold beginRound
  split
  · rfl
  · split
    · rfl
    next due schedule collected =>
      obtain ⟨⟨others, entries⟩, within, same⟩ := Option.map_eq_some_iff.mp collected
      obtain ⟨rfl, rfl⟩ := Prod.mk.inj same
      exact Schedule.bookings_collectEntries within

/-- A removal succeeds exactly if the ticker was not asked to stop, provided that the registration
is there at all. -/
theorem remove_of_booked {id : Nat} {ticker : Ticker}
    (booked : id ∈ ticker.schedule.bookings.map Booking.id) :
    ticker.stopRequested = true ∧ ticker.remove id = (.error .shutdown, ticker) ∨
      ticker.stopRequested = false ∧
        ticker.remove id = (.ok (), { ticker with schedule := ticker.schedule.erase id }) := by
  have present := Schedule.contains_iff.mpr booked
  cases stopped : ticker.stopRequested with
  | true => exact .inl ⟨rfl, by simp [remove, stopped]⟩
  | false => exact .inr ⟨rfl, by simp [remove, stopped, present]⟩

end Ticker

def ClosingStage.handle : ClosingStage → RegistrationHandle
  | .taken handle => handle
  | .silenced handle => handle

namespace WatchedBuffers

variable {K P : Type}

abbrev bookings (system : WatchedBuffers K P) : List Booking :=
  system.ticker.schedule.bookings

/-- The number of the registration that a buffer has a claim on, wherever the claim is. -/
def claimOf (system : WatchedBuffers K P) (number : Nat) : Option Nat :=
  match system.closing number with
  | some stage => some stage.handle.id
  | none => (system.buffers number).bind fun buffer =>
      buffer.registration.map RegistrationHandle.id

/-- The outcomes of the close calls that have returned, with the numbers of their buffers. -/
def returns (system : WatchedBuffers K P) : List (Nat × Except BufferError Unit) :=
  system.history.filterMap fun
    | .called .. => none
    | .closed number outcome => some (number, outcome)

/-- A close call of the buffer found the ticker shut down. -/
def IsClosedLate (system : WatchedBuffers K P) (number : Nat) : Prop :=
  (number, .error (.close .shutdown)) ∈ system.returns

/-! ## Books -/

/-- Claims and entries belong together. -/
structure IsBooked (system : WatchedBuffers K P) : Prop where
  distinct : (system.bookings.map Booking.id).Nodup
  numbered : ∀ booking ∈ system.bookings,
    booking.registration.id = booking.id ∧ booking.id < system.ticker.nextId
  /-- What is claimed is booked, for the buffer that has the claim. -/
  booked : ∀ number id, system.claimOf number = some id →
    ∃ booking ∈ system.bookings, booking.id = id ∧ booking.registration.timer = number
  /-- What is booked is claimed, unless a close call came too late to take it away. -/
  claimed : ∀ booking ∈ system.bookings,
    system.claimOf booking.registration.timer = some booking.id ∨
      system.IsClosedLate booking.registration.timer
  /-- A close call that came too late has left its entry behind. -/
  late : ∀ number, system.IsClosedLate number → system.ticker.stopRequested = true ∧
    ∃ booking ∈ system.bookings, booking.registration.timer = number
  gone : system.gone = true → system.ticker.stopRequested = true

/-- What a step does to the claims, to the schedule, and to the returns of close calls. -/
inductive Move (system next : WatchedBuffers K P) : Prop
  | keep (claims : next.claimOf = system.claimOf)
      (schedule : next.ticker.schedule = system.ticker.schedule)
      (returns : next.returns = system.returns)
  | round (claims : next.claimOf = system.claimOf)
      (running : system.ticker.stopRequested = false)
      (bookings : next.bookings = system.bookings) (returns : next.returns = system.returns)
  | enter (number : Nat) (appointment : Appointment)
      (unused : system.buffers number = none)
      (claims : next.claimOf =
        Function.update system.claimOf number (some system.ticker.nextId))
      (running : system.ticker.stopRequested = false)
      (numbered : appointment.registration.id = system.ticker.nextId)
      (own : appointment.registration.timer = number)
      (schedule : next.ticker.schedule =
        system.ticker.schedule.put system.ticker.nextId appointment)
      (counted : next.ticker.nextId = system.ticker.nextId + 1)
      (returns : next.returns = system.returns)
  | again (number : Nat) (closed : system.IsClosed number)
      (claims : next.claimOf = system.claimOf)
      (schedule : next.ticker.schedule = system.ticker.schedule)
      (returns : next.returns = system.returns ++ [(number, .ok ())])
  | leave (number : Nat) (handle : RegistrationHandle)
      (silenced : system.closing number = some (.silenced handle))
      (claims : next.claimOf = Function.update system.claimOf number none)
      (running : system.ticker.stopRequested = false)
      (schedule : next.ticker.schedule = system.ticker.schedule.erase handle.id)
      (returns : next.returns = system.returns ++ [(number, .ok ())])
  | abandon (number : Nat) (handle : RegistrationHandle)
      (silenced : system.closing number = some (.silenced handle))
      (claims : next.claimOf = Function.update system.claimOf number none)
      (stopped : system.ticker.stopRequested = true)
      (schedule : next.ticker.schedule = system.ticker.schedule)
      (returns : next.returns = system.returns ++ [(number, .error (.close .shutdown))])

variable {system next later : WatchedBuffers K P}

/-! ## Claims -/

theorem claimOf_of_closing {number : Nat} {stage : ClosingStage}
    (onItsWay : system.closing number = some stage) :
    system.claimOf number = some stage.handle.id := by
  rw [claimOf, onItsWay]

theorem claimOf_of_free {number : Nat} {buffer : RequestBuffer K P}
    (free : system.closing number = none) (found : system.buffers number = some buffer) :
    system.claimOf number = buffer.registration.map RegistrationHandle.id := by
  rw [claimOf, free, found]
  rfl

/-- A step on one buffer changes the claim of no other. -/
theorem claimOf_eq_update {number : Nat} {claim : Option Nat}
    (own : next.claimOf number = claim)
    (elsewhere : ∀ other, other ≠ number →
      next.closing other = system.closing other ∧ next.buffers other = system.buffers other) :
    next.claimOf = Function.update system.claimOf number claim := by
  funext other
  by_cases same : other = number
  · rw [same, Function.update_self, own]
  · obtain ⟨closing, buffers⟩ := elsewhere other same
    rw [Function.update_of_ne same, claimOf, claimOf, closing, buffers]

theorem claimOf_unchanged (number : Nat) (own : next.claimOf number = system.claimOf number)
    (elsewhere : ∀ other, other ≠ number →
      next.closing other = system.closing other ∧ next.buffers other = system.buffers other) :
    next.claimOf = system.claimOf := by
  rw [claimOf_eq_update own elsewhere, Function.update_eq_self]

/-- Whoever still has a claim is not the buffer whose claim was used up. -/
theorem claimOf_of_usedUp {number other id : Nat}
    (usedUp : next.claimOf = Function.update system.claimOf number none)
    (claim : next.claimOf other = some id) : other ≠ number ∧ system.claimOf other = some id := by
  rw [usedUp] at claim
  have differs : other ≠ number := by
    rintro rfl
    rw [Function.update_self] at claim
    cases claim
  rw [Function.update_of_ne differs] at claim
  exact ⟨differs, claim⟩

theorem claimOf_withBuffer {number : Nat} {buffer other : RequestBuffer K P}
    (found : system.buffers number = some buffer)
    (slot : other.registration = buffer.registration) :
    (system.withBuffer number other).claimOf = system.claimOf := by
  apply claimOf_unchanged number
  · rw [claimOf, claimOf, withBuffer_same, found, Option.bind_some, Option.bind_some, slot]
    rfl
  · exact fun member differs => ⟨rfl, withBuffer_other differs other system⟩

/-- A new buffer comes with the claim in its slot. -/
theorem claimOf_add {number : Nat} (free : system.closing number = none)
    (buffer : RequestBuffer K P) :
    (system.withBuffer number buffer).claimOf = Function.update system.claimOf number
      (buffer.registration.map RegistrationHandle.id) :=
  claimOf_eq_update (claimOf_of_free free (withBuffer_same number buffer system))
    fun _ differs => ⟨rfl, withBuffer_other differs buffer system⟩

theorem claimOf_take {number : Nat} {buffer : RequestBuffer K P} {handle : RegistrationHandle}
    (found : system.buffers number = some buffer) (free : system.closing number = none)
    (full : buffer.registration = some handle) :
    ((system.withBuffer number { buffer with registration := none }).withClosing number
      (some (.taken handle))).claimOf = system.claimOf := by
  apply claimOf_unchanged number
  · rw [claimOf_of_closing (withClosing_same _ _ _), claimOf_of_free free found, full]
    rfl
  · exact fun other differs =>
      ⟨withClosing_other differs _ system, withBuffer_other differs _ system⟩

theorem claimOf_silence {number : Nat} {handle : RegistrationHandle}
    (taken : system.closing number = some (.taken handle)) :
    ({ system with ticker := system.ticker.silence handle.id }.withClosing number
      (some (.silenced handle))).claimOf = system.claimOf := by
  apply claimOf_unchanged number
  · rw [claimOf_of_closing (withClosing_same _ _ _), claimOf_of_closing taken]
    rfl
  · exact fun other differs => ⟨withClosing_other differs _ system, rfl⟩

/-- The end of a close call uses the claim up. -/
theorem claimOf_endClosing {number : Nat} (handle : RegistrationHandle)
    (emptied : system.IsEmptied number) :
    (system.endClosing number handle).claimOf = Function.update system.claimOf number none := by
  obtain ⟨buffer, found, empty⟩ := emptied
  have closing : (system.endClosing number handle).closing =
      (system.withClosing number none).closing := by
    simp only [WatchedBuffers.endClosing]
    split <;> rfl
  have buffers : (system.endClosing number handle).buffers = system.buffers := by
    simp only [WatchedBuffers.endClosing]
    split <;> rfl
  apply claimOf_eq_update
  · rw [claimOf_of_free (by rw [closing, withClosing_same]) (by rw [buffers, found]), empty]
    rfl
  · exact fun other differs =>
      ⟨by rw [closing, withClosing_other differs], by rw [buffers]⟩

/-! ## Moves -/

theorem returns_note (number : Nat) (outcome : Except BufferError Unit)
    (system : WatchedBuffers K P) :
    (system.note (.closed number outcome)).returns = system.returns ++ [(number, outcome)] := by
  simp [returns, note]

theorem mem_returns {number : Nat} {outcome : Except BufferError Unit} :
    (number, outcome) ∈ system.returns ↔ .closed number outcome ∈ system.history := by
  rw [returns, List.mem_filterMap]
  constructor
  · rintro ⟨event, member, returned⟩
    cases event with
    | called called generation => cases returned
    | closed closed result =>
        obtain ⟨rfl, rfl⟩ := Prod.mk.inj (Option.some.inj returned)
        exact member
  · exact fun member => ⟨_, member, rfl⟩

theorem ThreadStep.move (step : ThreadStep system next) : system.Move next := by
  cases step with
  | beginRound now between done =>
      cases stopped : system.ticker.stopRequested with
      | true => exact .keep rfl (by simp [Ticker.beginRound, stopped]) rfl
      | false => exact .round rfl stopped (Ticker.beginRound_bookings now system.ticker) rfl
  | poll now admitted =>
      refine .keep ?_ (by rw [poll_ticker]) (by rw [returns, poll_history, returns])
      unfold WatchedBuffers.poll
      split
      · rfl
      next buffer found => exact claimOf_withBuffer found rfl
  | call ends expired serving => exact .keep rfl rfl (by simp [returns, note])
  | leave panicked handling => exact .keep rfl (by rw [Ticker.finishHandling_value]) rfl
  | _ => exact .keep rfl rfl rfl

theorem IsSound.free_of_unused (sound : system.IsSound) {number : Nat}
    (unused : system.buffers number = none) : system.closing number = none := by
  by_contra onItsWay
  obtain ⟨stage, onItsWay⟩ := Option.ne_none_iff_exists'.mp onItsWay
  obtain ⟨buffer, found, _⟩ := sound.emptied number stage onItsWay
  cases unused.symm.trans found

theorem IsSound.claimOf_of_unused (sound : system.IsSound) {number : Nat}
    (unused : system.buffers number = none) : system.claimOf number = none := by
  rw [claimOf, sound.free_of_unused unused, unused]
  rfl

/-- A failed opening leaves no more behind than a used-up number; otherwise there is a new buffer,
and if it has a timeout, an entry for it. -/
theorem openBuffer_cases (number : Nat) (settings : BufferSettings) (handler : Handler)
    (now : Instant) (system : WatchedBuffers K P) :
    let id := system.ticker.nextId
    let appointment : Appointment :=
      ⟨⟨id, number, number, handler⟩, now + settings.timeout, settings.interval⟩
    let opened := system.openBuffer number settings handler now
    (∃ nextId, id ≤ nextId ∧
        opened = { system with ticker := { system.ticker with nextId } }) ∨
      settings.timeout = 0 ∧ opened = system.withBuffer number (.empty settings none) ∨
      settings.timeout ≠ 0 ∧ system.ticker.stopRequested = false ∧
        opened = { system with ticker := { system.ticker with
          nextId := id + 1
          schedule := system.ticker.schedule.put id appointment } }.withBuffer number
            (.empty settings (some ⟨tickerNumber, id⟩)) := by
  intro id appointment opened
  rcases RequestBuffer.watched_cases (K := K) (P := P) settings tickerNumber number number handler
    now system.ticker with
    ⟨fault, _, result⟩ | ⟨_, ⟨disabled, result⟩ | ⟨enabled, ⟨_, result⟩ | ⟨running, result⟩⟩⟩
  · exact .inl ⟨id, Nat.le_refl id, by simp only [opened, openBuffer, result]; rfl⟩
  · exact .inr (.inl ⟨disabled, by simp only [opened, openBuffer, result]⟩)
  · exact .inl ⟨id + 1, Nat.le_succ id, by simp only [opened, openBuffer, result]; rfl⟩
  · exact .inr (.inr ⟨enabled, running, by simp only [opened, openBuffer, result]; rfl⟩)

theorem openBuffer_move (sound : system.IsSound) {number : Nat} (settings : BufferSettings)
    (handler : Handler) (now : Instant) (unused : system.buffers number = none) :
    system.Move (system.openBuffer number settings handler now) := by
  have free := sound.free_of_unused unused
  have unclaimed := sound.claimOf_of_unused unused
  rcases openBuffer_cases number settings handler now system with
    ⟨_, _, result⟩ | ⟨_, result⟩ | ⟨_, running, result⟩
  · rw [result]
    exact .keep rfl rfl rfl
  · rw [result]
    refine .keep ?_ rfl rfl
    have same : (RequestBuffer.empty settings none : RequestBuffer K P).registration.map
        RegistrationHandle.id = system.claimOf number := unclaimed.symm
    rw [claimOf_add free, same]
    exact Function.update_eq_self number system.claimOf
  · rw [result]
    exact .enter number _ unused (claimOf_add free _) running rfl rfl rfl rfl rfl

/-- A close call that holds a booked claim ends in one of two ways. -/
theorem endClosing_of_booked (number : Nat) {handle : RegistrationHandle}
    (gone : system.gone = true → system.ticker.stopRequested = true)
    (booked : handle.id ∈ system.bookings.map Booking.id) :
    system.ticker.stopRequested = true ∧ system.endClosing number handle =
        (system.withClosing number none).note (.closed number (.error (.close .shutdown))) ∨
      system.ticker.stopRequested = false ∧ system.endClosing number handle =
        ({ system with
          ticker := { system.ticker with
            schedule := system.ticker.schedule.erase handle.id } }.withClosing number none).note
          (.closed number (.ok ())) := by
  cases dropped : system.gone with
  | true =>
      refine .inl ⟨gone dropped, ?_⟩
      simp [WatchedBuffers.endClosing, ticker?, withClosing, dropped]
  | false =>
      rcases Ticker.remove_of_booked booked with ⟨stopped, result⟩ | ⟨running, result⟩
      · refine .inl ⟨stopped, ?_⟩
        simp [WatchedBuffers.endClosing, ticker?, withClosing, dropped, result, Except.mapError]
      · refine .inr ⟨running, ?_⟩
        simp [WatchedBuffers.endClosing, ticker?, withClosing, dropped, result, Except.mapError]

theorem endClosing_move (booked : system.IsBooked) (sound : system.IsSound) {number : Nat}
    {handle : RegistrationHandle} (silenced : system.closing number = some (.silenced handle)) :
    system.Move (system.endClosing number handle) := by
  have claims : (system.endClosing number handle).claimOf =
      Function.update system.claimOf number none :=
    claimOf_endClosing handle (sound.emptied number _ silenced)
  obtain ⟨booking, member, own, _⟩ :=
    booked.booked number handle.id (claimOf_of_closing silenced)
  have present : handle.id ∈ system.bookings.map Booking.id :=
    List.mem_map.mpr ⟨booking, member, own⟩
  rcases endClosing_of_booked number booked.gone present with
    ⟨stopped, result⟩ | ⟨running, result⟩
  · rw [result] at claims ⊢
    exact .abandon number handle silenced claims stopped rfl (returns_note _ _ _)
  · rw [result] at claims ⊢
    exact .leave number handle silenced claims running rfl (returns_note _ _ _)

theorem CallerStep.move (booked : system.IsBooked) (sound : system.IsSound)
    (step : CallerStep system next) : system.Move next := by
  cases step with
  | openBuffer settings handler now unused here =>
      exact openBuffer_move sound settings handler now unused
  | operate found slot => exact .keep (claimOf_withBuffer found slot) rfl rfl
  | @closeEmpty number buffer found free empty =>
      exact .again number ⟨⟨buffer, found, empty⟩, free⟩ rfl rfl (returns_note _ _ _)
  | take found free full => exact .keep (claimOf_take found free full) rfl rfl
  | silence taken unchecked => exact .keep (claimOf_silence taken) rfl rfl
  | endClosing silenced => exact endClosing_move booked sound silenced
  | conclude stopped ended => exact .keep rfl (by rw [Ticker.conclude_value]) rfl
  | _ => exact .keep rfl rfl rfl

theorem Step.move (booked : system.IsBooked) (sound : system.IsSound)
    (step : Step system next) : system.Move next := by
  cases step with
  | thread step => exact step.move
  | caller step => exact step.move booked sound

/-! ## What grows -/

/-- A ticker counts on, and does not forget that it was asked to stop. -/
structure Grows (system next : WatchedBuffers K P) : Prop where
  counted : system.ticker.nextId ≤ next.ticker.nextId
  stopped : system.ticker.stopRequested = true → next.ticker.stopRequested = true
  gone : next.gone = true → system.gone = true ∨ system.ticker.stopRequested = true

theorem Grows.of_eq (counted : next.ticker.nextId = system.ticker.nextId)
    (stopped : next.ticker.stopRequested = system.ticker.stopRequested)
    (gone : next.gone = system.gone) : system.Grows next :=
  ⟨Nat.le_of_eq counted.symm, fun before => stopped.trans before,
    fun after => .inl (gone.symm.trans after)⟩

theorem ThreadStep.grows (step : ThreadStep system next) : system.Grows next := by
  cases step with
  | beginRound now between done =>
      refine .of_eq ?_ (Ticker.beginRound_frame now system.ticker).1 rfl
      simp only [Ticker.beginRound]
      split
      · rfl
      · split <;> rfl
  | poll now admitted =>
      unfold WatchedBuffers.poll
      split <;> exact .of_eq rfl rfl rfl
  | leave panicked handling =>
      rw [Ticker.finishHandling_value]
      exact .of_eq rfl rfl rfl
  | _ => exact .of_eq rfl rfl rfl

theorem openBuffer_grows (number : Nat) (settings : BufferSettings) (handler : Handler)
    (now : Instant) (system : WatchedBuffers K P) :
    system.Grows (system.openBuffer number settings handler now) := by
  rcases openBuffer_cases number settings handler now system with
    ⟨_, more, result⟩ | ⟨_, result⟩ | ⟨_, _, result⟩
  · rw [result]
    exact ⟨more, id, .inl⟩
  · rw [result]
    exact .of_eq rfl rfl rfl
  · rw [result]
    exact ⟨Nat.le_succ _, id, .inl⟩

theorem endClosing_grows (number : Nat) (handle : RegistrationHandle)
    (system : WatchedBuffers K P) : system.Grows (system.endClosing number handle) := by
  simp only [WatchedBuffers.endClosing]
  split
  · exact .of_eq rfl rfl rfl
  next ticker here =>
    obtain rfl := eq_of_ticker?_eq_some here
    simp only [Ticker.remove]
    split
    · exact .of_eq rfl rfl rfl
    · split <;> exact .of_eq rfl rfl rfl

theorem CallerStep.grows (step : CallerStep system next) : system.Grows next := by
  cases step with
  | openBuffer settings handler now unused here =>
      exact openBuffer_grows _ settings handler now system
  | @endClosing number handle silenced => exact endClosing_grows number handle system
  | requestStop => exact ⟨Nat.le_refl _, fun _ => rfl, .inl⟩
  | stopFromHandler running => exact ⟨Nat.le_refl _, fun _ => rfl, .inl⟩
  | conclude stopped ended =>
      rw [Ticker.conclude_value]
      exact .of_eq rfl rfl rfl
  | discard stopped ended => exact ⟨Nat.le_refl _, id, fun _ => .inr stopped⟩
  | _ => exact .of_eq rfl rfl rfl

theorem Step.grows (step : Step system next) : system.Grows next := by
  cases step with
  | thread step => exact step.grows
  | caller step => exact step.grows

/-! ## Books are kept -/

theorem isClosedLate_append {number : Nat} {outcome : Except BufferError Unit}
    (returns : next.returns = system.returns ++ [(number, outcome)]) (other : Nat) :
    next.IsClosedLate other ↔ system.IsClosedLate other ∨
      other = number ∧ outcome = .error (.close .shutdown) := by
  simp [IsClosedLate, returns, eq_comm]

theorem IsBooked.gone_of_grows (booked : system.IsBooked) (grows : system.Grows next)
    (gone : next.gone = true) : next.ticker.stopRequested = true :=
  grows.stopped ((grows.gone gone).elim booked.gone id)

/-- Two entries of one number are the same. -/
theorem IsBooked.eq_of_id (booked : system.IsBooked) {booking other : Booking}
    (member : booking ∈ system.bookings) (among : other ∈ system.bookings)
    (same : booking.id = other.id) : booking = other :=
  List.inj_on_of_nodup_map booked.distinct member among same

/-- The next number is not taken. -/
theorem IsBooked.nextId_unused (booked : system.IsBooked) :
    system.ticker.nextId ∉ system.bookings.map Booking.id := by
  intro taken
  obtain ⟨booking, member, same⟩ := List.mem_map.mp taken
  exact Nat.lt_irrefl _ (same ▸ (booked.numbered booking member).2)

/-- A step that leaves claims, entries and late returns alone keeps the books. -/
theorem IsBooked.congr (booked : system.IsBooked) (grows : system.Grows next)
    (claims : next.claimOf = system.claimOf) (bookings : next.bookings = system.bookings)
    (late : ∀ number, next.IsClosedLate number ↔ system.IsClosedLate number) :
    next.IsBooked := by
  refine ⟨?_, ?_, ?_, ?_, ?_, booked.gone_of_grows grows⟩
  · rw [bookings]
    exact booked.distinct
  · intro booking member
    rw [bookings] at member
    obtain ⟨own, below⟩ := booked.numbered booking member
    exact ⟨own, Nat.lt_of_lt_of_le below grows.counted⟩
  · rw [claims, bookings]
    exact booked.booked
  · intro booking member
    rw [bookings] at member
    rw [claims, late]
    exact booked.claimed booking member
  · intro number closed
    rw [bookings]
    obtain ⟨stopped, left⟩ := booked.late number ((late number).mp closed)
    exact ⟨grows.stopped stopped, left⟩

/-- Nothing is booked for a number that no buffer has. -/
theorem IsBooked.timer_ne_of_unused (booked : system.IsBooked) (sound : system.IsSound)
    {number : Nat} (unused : system.buffers number = none) {booking : Booking}
    (member : booking ∈ system.bookings) : booking.registration.timer ≠ number := by
  rintro rfl
  rcases booked.claimed booking member with claim | late
  · cases (sound.claimOf_of_unused unused).symm.trans claim
  · obtain ⟨⟨buffer, found, _⟩, _⟩ := sound.closed _ _ (mem_returns.mp late)
    cases unused.symm.trans found

theorem IsBooked.enter (booked : system.IsBooked) (sound : system.IsSound)
    (grows : system.Grows next) {number : Nat} {appointment : Appointment}
    (unused : system.buffers number = none)
    (claims : next.claimOf = Function.update system.claimOf number (some system.ticker.nextId))
    (numbered : appointment.registration.id = system.ticker.nextId)
    (own : appointment.registration.timer = number)
    (schedule : next.ticker.schedule =
      system.ticker.schedule.put system.ticker.nextId appointment)
    (counted : next.ticker.nextId = system.ticker.nextId + 1)
    (returns : next.returns = system.returns) : next.IsBooked := by
  let entered := Schedule.bookingOf (system.ticker.nextId, appointment)
  have bookings : next.bookings = system.bookings ++ [entered] := by
    rw [WatchedBuffers.bookings, schedule, Schedule.bookings_put booked.nextId_unused]
  have elsewhere : ∀ booking ∈ system.bookings, booking.registration.timer ≠ number :=
    fun _ => booked.timer_ne_of_unused sound unused
  refine ⟨?_, ?_, ?_, ?_, ?_, booked.gone_of_grows grows⟩
  · rw [bookings, List.map_append, List.nodup_append]
    refine ⟨booked.distinct, List.nodup_singleton _, ?_⟩
    rintro id taken _ (_ | ⟨_, ⟨⟩⟩) rfl
    exact booked.nextId_unused taken
  · rw [bookings, List.forall_mem_append, counted]
    refine ⟨?_, List.forall_mem_singleton.mpr ⟨numbered, Nat.lt_succ_self _⟩⟩
    intro booking member
    obtain ⟨own, below⟩ := booked.numbered booking member
    exact ⟨own, Nat.lt_succ_of_lt below⟩
  · intro member id claim
    rw [bookings]
    by_cases same : member = number
    · subst same
      rw [claims, Function.update_self] at claim
      exact ⟨entered, List.mem_append_right _ List.mem_cons_self, Option.some.inj claim, own⟩
    · rw [claims, Function.update_of_ne same] at claim
      obtain ⟨booking, among, rest⟩ := booked.booked member id claim
      exact ⟨booking, List.mem_append_left _ among, rest⟩
  · rw [bookings, List.forall_mem_append, List.forall_mem_singleton, claims]
    constructor
    · intro booking member
      rw [Function.update_of_ne (elsewhere booking member), IsClosedLate, returns]
      exact booked.claimed booking member
    · have timer : entered.registration.timer = number := own
      rw [timer, Function.update_self]
      exact .inl rfl
  · intro member closed
    rw [IsClosedLate, returns] at closed
    obtain ⟨stopped, booking, among, rest⟩ := booked.late member closed
    rw [bookings]
    exact ⟨grows.stopped stopped, booking, List.mem_append_left _ among, rest⟩

theorem IsBooked.leave (booked : system.IsBooked) (grows : system.Grows next) {number id : Nat}
    (claim : system.claimOf number = some id)
    (claims : next.claimOf = Function.update system.claimOf number none)
    (running : system.ticker.stopRequested = false)
    (schedule : next.ticker.schedule = system.ticker.schedule.erase id)
    (returns : next.returns = system.returns ++ [(number, .ok ())]) : next.IsBooked := by
  have bookings : next.bookings = system.bookings.filter fun booking => booking.id ≠ id := by
    rw [WatchedBuffers.bookings, schedule, Schedule.bookings_erase]
  have kept {booking : Booking} (member : booking ∈ next.bookings) :
      booking ∈ system.bookings ∧ booking.id ≠ id := by
    rw [bookings, List.mem_filter] at member
    exact ⟨member.1, by simpa using member.2⟩
  have late (other : Nat) : next.IsClosedLate other ↔ system.IsClosedLate other := by
    simp [isClosedLate_append returns]
  obtain ⟨erased, _, own, timer⟩ := booked.booked number id claim
  refine ⟨?_, ?_, ?_, ?_, ?_, booked.gone_of_grows grows⟩
  · rw [bookings]
    exact booked.distinct.sublist (List.filter_sublist.map _)
  · intro booking member
    obtain ⟨own, below⟩ := booked.numbered booking (kept member).1
    exact ⟨own, Nat.lt_of_lt_of_le below grows.counted⟩
  · intro other claimed after
    obtain ⟨differs, holds⟩ := claimOf_of_usedUp claims after
    obtain ⟨booking, member, same, belongs⟩ := booked.booked other claimed holds
    refine ⟨booking, ?_, same, belongs⟩
    rw [bookings, List.mem_filter]
    refine ⟨member, ?_⟩
    -- An entry with the erased number would belong to the buffer that was closed.
    have spared : booking.id ≠ id := by
      intro equal
      obtain rfl := booked.eq_of_id member ‹erased ∈ system.bookings› (equal.trans own.symm)
      exact differs (belongs.symm.trans timer)
    simpa using spared
  · intro booking member
    obtain ⟨among, differs⟩ := kept member
    rw [late, claims]
    rcases booked.claimed booking among with holds | closed
    · by_cases same : booking.registration.timer = number
      · rw [same, claim] at holds
        exact absurd (Option.some.inj holds).symm differs
      · rw [Function.update_of_ne same]
        exact .inl holds
    · exact .inr closed
  · intro other closed
    obtain ⟨stopped, _⟩ := booked.late other ((late other).mp closed)
    cases running.symm.trans stopped

theorem IsBooked.abandon (booked : system.IsBooked) (grows : system.Grows next) {number id : Nat}
    (claim : system.claimOf number = some id)
    (claims : next.claimOf = Function.update system.claimOf number none)
    (stopped : system.ticker.stopRequested = true)
    (schedule : next.ticker.schedule = system.ticker.schedule)
    (returns : next.returns = system.returns ++ [(number, .error (.close .shutdown))]) :
    next.IsBooked := by
  have bookings : next.bookings = system.bookings := by
    rw [WatchedBuffers.bookings, schedule]
  have late (other : Nat) :
      next.IsClosedLate other ↔ system.IsClosedLate other ∨ other = number := by
    simp [isClosedLate_append returns]
  refine ⟨?_, ?_, ?_, ?_, ?_, booked.gone_of_grows grows⟩
  · rw [bookings]
    exact booked.distinct
  · intro booking member
    rw [bookings] at member
    obtain ⟨own, below⟩ := booked.numbered booking member
    exact ⟨own, Nat.lt_of_lt_of_le below grows.counted⟩
  · intro other claimed after
    rw [bookings]
    exact booked.booked other claimed (claimOf_of_usedUp claims after).2
  · intro booking member
    rw [bookings] at member
    rw [late, claims]
    by_cases same : booking.registration.timer = number
    · exact .inr (.inr same)
    · rw [Function.update_of_ne same]
      exact (booked.claimed booking member).imp_right .inl
  · intro other closed
    rw [bookings]
    refine ⟨grows.stopped stopped, ?_⟩
    rcases (late other).mp closed with before | rfl
    · exact (booked.late other before).2
    · obtain ⟨booking, member, _, timer⟩ := booked.booked other id claim
      exact ⟨booking, member, timer⟩

theorem IsBooked.step (booked : system.IsBooked) (sound : system.IsSound)
    (step : Step system next) : next.IsBooked := by
  have grows := step.grows
  cases step.move booked sound with
  | keep claims schedule returns =>
      refine booked.congr grows claims (by rw [bookings, schedule]) ?_
      intro number
      rw [IsClosedLate, IsClosedLate, returns]
  | round claims running bookings returns =>
      refine booked.congr grows claims bookings ?_
      intro number
      rw [IsClosedLate, IsClosedLate, returns]
  | enter number appointment unused claims running numbered own schedule counted returns =>
      exact booked.enter sound grows unused claims numbered own schedule counted returns
  | again number closed claims schedule returns =>
      refine booked.congr grows claims (by rw [bookings, schedule]) ?_
      intro other
      simp [isClosedLate_append returns]
  | leave number handle silenced claims running schedule returns =>
      exact booked.leave grows (claimOf_of_closing silenced) claims running schedule returns
  | abandon number handle silenced claims stopped schedule returns =>
      exact booked.abandon grows (claimOf_of_closing silenced) claims stopped schedule returns

theorem isBooked_start (name : String) :
    IsBooked ({ ticker := (Ticker.start name).value } : WatchedBuffers K P) := by
  refine ⟨List.nodup_nil, ?_, ?_, ?_, ?_, ?_⟩
  · exact fun booking member => by cases member
  · exact fun number id claim => by cases claim
  · exact fun booking member => by cases member
  · exact fun number late => by cases late
  · exact fun gone => by cases gone

theorem Reachable.isBooked (reached : Reachable system) : system.IsBooked := by
  induction reached with
  | start name => exact isBooked_start name
  | step before step booked => exact booked.step before.isSound step

end WatchedBuffers

end KeyedBatching
