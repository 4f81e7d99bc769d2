import KeyedBatching.Proofs.ClosingInterleaving
import KeyedBatching.Proofs.TickerMoves

/-!
# What holds of closing buffers between any two steps

A registration that the thread can still come upon is silenced, or its claim is
in the slot of its buffer, or with the close call that took it.  The thread gets
past its first look at a registration only if that is not silenced, and while
it holds the lock nobody can silence it.  A close call returns only when the
slot is empty and no other call is on its way.
-/

namespace KeyedBatching

/-- The thread has found the registration not silenced, and its handler has not returned. -/
def CheckStage.isLive : CheckStage → Bool
  | .admitted | .expired _ | .calling => true
  | .locked | .leaving => false

namespace WatchedBuffers

variable {K P : Type}

/-! ## The invariant -/

/-- The thread can still come upon the registration. -/
def Knows (system : WatchedBuffers K P) (registration : Registration) : Prop :=
  registration ∈ system.ticker.registrations ∨
    registration ∈ system.ticker.activity.collected ∨
    ∃ stage, system.check = some ⟨registration, stage⟩

/-- The claim on a registration is in the slot of its buffer, or with a close call. -/
def Claims (system : WatchedBuffers K P) (registration : Registration) : Prop :=
  ∃ buffer handle, system.buffers registration.timer = some buffer ∧
    handle.id = registration.id ∧
    (buffer.registration = some handle ∨
      system.closing registration.timer = some (.taken handle))

def IsEmptied (system : WatchedBuffers K P) (number : Nat) : Prop :=
  ∃ buffer, system.buffers number = some buffer ∧ buffer.registration = none

/-- The slot of a buffer is empty, and no close call is on its way. -/
def IsClosed (system : WatchedBuffers K P) (number : Nat) : Prop :=
  system.IsEmptied number ∧ system.closing number = none

structure IsSound (system : WatchedBuffers K P) : Prop where
  /-- Whatever the thread can still come upon is silenced, or a close call can still silence it. -/
  claimed : ∀ registration, system.Knows registration →
    registration.id ∈ system.ticker.cancelled ∨ system.Claims registration
  /-- A registration that has passed its check is not silenced before its handler has returned. -/
  live : ∀ registration stage, system.check = some ⟨registration, stage⟩ → stage.isLive = true →
    registration.id ∉ system.ticker.cancelled
  calling : ∀ check, underway system.ticker.activity = some check → system.check = some check
  emptied : ∀ number stage, system.closing number = some stage → system.IsEmptied number
  closed : ∀ number outcome, .closed number outcome ∈ system.history → system.IsClosed number

/-- No slot and no close call was touched. -/
structure SameSlots (system next : WatchedBuffers K P) : Prop where
  buffers : ∀ number buffer, system.buffers number = some buffer →
    ∃ other, next.buffers number = some other ∧ other.registration = buffer.registration
  closing : next.closing = system.closing

variable {system next later : WatchedBuffers K P}

/-- The claim on a registration of a buffer with an empty slot is with a close call. -/
theorem Claims.taken {registration : Registration} (claims : system.Claims registration)
    (emptied : system.IsEmptied registration.timer) :
    ∃ handle, handle.id = registration.id ∧
      system.closing registration.timer = some (.taken handle) := by
  obtain ⟨buffer, found, empty⟩ := emptied
  obtain ⟨other, handle, same, own, slot | taken⟩ := claims
  · rw [found] at same
    obtain rfl := Option.some.inj same
    rw [empty] at slot
    cases slot
  · exact ⟨handle, own, taken⟩

theorem IsClosed.not_claims {registration : Registration}
    (closed : system.IsClosed registration.timer) : ¬ system.Claims registration := by
  intro claims
  obtain ⟨handle, _, taken⟩ := claims.taken closed.1
  rw [closed.2] at taken
  cases taken

namespace SameSlots

theorem of_eq (buffers : next.buffers = system.buffers) (closing : next.closing = system.closing) :
    system.SameSlots next :=
  ⟨fun _ buffer found => ⟨buffer, by rw [buffers, found], rfl⟩, closing⟩

theorem withBuffer {number : Nat} {buffer : RequestBuffer K P}
    (kept : ∀ other, system.buffers number = some other →
      buffer.registration = other.registration) :
    system.SameSlots (system.withBuffer number buffer) := by
  refine ⟨?_, rfl⟩
  intro other found there
  by_cases same : other = number
  · subst same
    exact ⟨buffer, withBuffer_same other buffer system, kept found there⟩
  · exact ⟨found, (withBuffer_other same buffer system).trans there, rfl⟩

theorem replace {number : Nat} {buffer next : RequestBuffer K P}
    (found : system.buffers number = some buffer)
    (slot : next.registration = buffer.registration) :
    system.SameSlots (system.withBuffer number next) := by
  apply withBuffer
  intro other there
  rw [found] at there
  obtain rfl := Option.some.inj there
  exact slot

theorem add {number : Nat} (unused : system.buffers number = none) (buffer : RequestBuffer K P) :
    system.SameSlots (system.withBuffer number buffer) := by
  apply withBuffer
  intro other there
  rw [unused] at there
  cases there

theorem claims (same : system.SameSlots next) {registration : Registration}
    (claimed : system.Claims registration) : next.Claims registration := by
  obtain ⟨buffer, handle, found, own, place⟩ := claimed
  obtain ⟨other, there, slot⟩ := same.buffers _ buffer found
  refine ⟨other, handle, there, own, ?_⟩
  rw [slot, same.closing]
  exact place

theorem isEmptied (same : system.SameSlots next) {number : Nat}
    (emptied : system.IsEmptied number) : next.IsEmptied number := by
  obtain ⟨buffer, found, empty⟩ := emptied
  obtain ⟨other, there, slot⟩ := same.buffers number buffer found
  exact ⟨other, there, slot.trans empty⟩

theorem isClosed (same : system.SameSlots next) {number : Nat}
    (closed : system.IsClosed number) : next.IsClosed number :=
  ⟨same.isEmptied closed.1, by rw [same.closing, closed.2]⟩

end SameSlots

/-- A step that touches no slot keeps the invariant if it makes the thread know of nothing new,
and brings no silenced registration into a check. -/
theorem IsSound.of_sameSlots (sound : system.IsSound) (same : system.SameSlots next)
    (cancelled : next.ticker.cancelled = system.ticker.cancelled)
    (knows : ∀ registration, next.Knows registration → system.Knows registration)
    (live : ∀ registration stage, next.check = some ⟨registration, stage⟩ →
      stage.isLive = true → registration.id ∉ system.ticker.cancelled)
    (calling : ∀ check, underway next.ticker.activity = some check → next.check = some check)
    (history : ∀ number outcome, .closed number outcome ∈ next.history →
      .closed number outcome ∈ system.history) : next.IsSound := by
  constructor
  · intro registration known
    rw [cancelled]
    exact (sound.claimed registration (knows registration known)).imp_right same.claims
  · rw [cancelled]
    exact live
  · exact calling
  · intro number stage onItsWay
    rw [same.closing] at onItsWay
    exact same.isEmptied (sound.emptied number stage onItsWay)
  · intro number outcome returned
    exact same.isClosed (sound.closed number outcome (history number outcome returned))

theorem IsSound.withBuffer (sound : system.IsSound) {number : Nat} {buffer : RequestBuffer K P}
    (same : system.SameSlots (system.withBuffer number buffer)) :
    IsSound (system.withBuffer number buffer) :=
  sound.of_sameSlots same rfl (fun _ => id) sound.live sound.calling fun _ _ => id

/-- Outside of handlers the thread may get to any stage that the registration allows. -/
theorem IsSound.withCheck (sound : system.IsSound) {check : Option Check}
    (outside : underway system.ticker.activity = none)
    (knows : ∀ registration stage, check = some ⟨registration, stage⟩ →
      system.Knows registration)
    (live : ∀ registration stage, check = some ⟨registration, stage⟩ → stage.isLive = true →
      registration.id ∉ system.ticker.cancelled) : IsSound { system with check } := by
  refine sound.of_sameSlots (.of_eq rfl rfl) rfl ?_ ?_ ?_ ?_
  · rintro registration (scheduled | collected | ⟨stage, checked⟩)
    · exact .inl scheduled
    · exact .inr (.inl collected)
    · exact knows registration stage checked
  · exact live
  · intro check handling
    rw [outside] at handling
    cases handling
  · exact fun _ _ => id

theorem IsSound.dropCheck (sound : system.IsSound)
    (outside : underway system.ticker.activity = none) :
    IsSound { system with check := none } := by
  apply sound.withCheck outside <;> simp

/-- A check goes on with a registration that is not silenced, or ends. -/
theorem IsSound.proceed (sound : system.IsSound) {registration : Registration}
    {stage : CheckStage} {check : Option Check}
    (outside : underway system.ticker.activity = none)
    (checked : system.check = some ⟨registration, stage⟩)
    (live : registration.id ∉ system.ticker.cancelled)
    (own : ∀ other, check = some other → other.registration = registration) :
    IsSound { system with check } := by
  apply sound.withCheck outside
  · intro other next same
    obtain rfl : other = registration := own ⟨other, next⟩ same
    exact .inr (.inr ⟨stage, checked⟩)
  · intro other next same _
    obtain rfl : other = registration := own ⟨other, next⟩ same
    exact live

/-- In a check, but not in the handler. -/
theorem IsSound.outside (sound : system.IsSound) {registration : Registration}
    {stage : CheckStage} (checked : system.check = some ⟨registration, stage⟩)
    (before : stage ≠ .calling) : underway system.ticker.activity = none := by
  cases activity : system.ticker.activity with
  | handling running generation ends collected =>
      have calling := sound.calling ⟨running, .calling⟩ (by rw [activity, underway])
      rw [checked] at calling
      obtain ⟨_, same⟩ := Check.mk.inj (Option.some.inj calling)
      exact absurd same before
  | serving collected => rfl
  | finished => rfl
  | crashed reason => rfl

/-! ## Steps of the thread -/

theorem IsSound.beginRound (sound : system.IsSound) (now : Instant) :
    IsSound { system with ticker := system.ticker.beginRound now } := by
  obtain ⟨kept, among⟩ := system.ticker.beginRound_registrations now
  refine sound.of_sameSlots (.of_eq rfl rfl) ?_ ?_ ?_ ?_ ?_
  · unfold Ticker.beginRound
    split
    · rfl
    · split <;> rfl
  · rintro registration (scheduled | collected | checked)
    · rw [kept] at scheduled
      exact .inl scheduled
    · exact .inl (among collected)
    · exact .inr (.inr checked)
  · exact sound.live
  · intro check handling
    rw [underway_beginRound] at handling
    cases handling
  · exact fun _ _ => id

/-- The thread takes or drops the lock of a registration and calls no handler. -/
theorem IsSound.serve (sound : system.IsSound) {registration : Registration}
    {stage : CheckStage} {collected : List Registration} (knows : system.Knows registration)
    (quiet : stage.isLive = false) (among : collected ⊆ system.ticker.activity.collected) :
    IsSound { system with
      ticker := { system.ticker with activity := .serving collected }
      check := some ⟨registration, stage⟩ } := by
  refine sound.of_sameSlots (.of_eq rfl rfl) rfl ?_ ?_ ?_ ?_
  · rintro other (scheduled | later | ⟨stage, checked⟩)
    · exact .inl scheduled
    · exact .inr (.inl (among later))
    · obtain ⟨rfl, _⟩ := Check.mk.inj (Option.some.inj checked)
      exact knows
  · intro other stage checked live
    obtain ⟨_, rfl⟩ := Check.mk.inj (Option.some.inj checked)
    rw [quiet] at live
    cases live
  · exact fun check handling => by cases handling
  · exact fun _ _ => id

theorem IsSound.poll (sound : system.IsSound) {registration : Registration} (now : Instant)
    (admitted : system.check = some ⟨registration, .admitted⟩) :
    IsSound (system.poll registration now) := by
  have outside := sound.outside admitted (by decide)
  unfold WatchedBuffers.poll
  cases found : system.buffers registration.timer with
  | none => exact sound.dropCheck outside
  | some buffer =>
      have polled : IsSound (system.withBuffer registration.timer
          { buffer with timer := (buffer.timer.pollExpired now).2 }) :=
        sound.withBuffer (.replace found rfl)
      apply polled.proceed outside admitted (sound.live registration .admitted admitted rfl)
      intro other goesOn
      obtain ⟨_, _, rfl⟩ := Option.map_eq_some_iff.mp goesOn
      rfl

theorem IsSound.call (sound : system.IsSound) {registration : Registration} {generation : Nat}
    {collected : List Registration} (ends : Instant)
    (expired : system.check = some ⟨registration, .expired generation⟩)
    (serving : system.ticker.activity = .serving collected) :
    IsSound ({ system with
      ticker := (system.ticker.beginHandling registration generation ends collected).value
      check := some ⟨registration, .calling⟩ }.note (.called registration.timer generation)) := by
  refine sound.of_sameSlots (.of_eq rfl rfl) rfl ?_ ?_ ?_ ?_
  · rintro other (scheduled | later | ⟨stage, checked⟩)
    · exact .inl scheduled
    · refine .inr (.inl ?_)
      rw [serving]
      exact later
    · obtain ⟨rfl, _⟩ := Check.mk.inj (Option.some.inj checked)
      exact .inr (.inr ⟨_, expired⟩)
  · intro other stage checked _
    obtain ⟨rfl, _⟩ := Check.mk.inj (Option.some.inj checked)
    exact sound.live registration _ expired rfl
  · exact fun check handling => handling
  · intro number outcome returned
    simpa [note] using returned

theorem IsSound.threadStep (sound : system.IsSound) (step : ThreadStep system next) :
    next.IsSound := by
  cases step with
  | beginRound now between done => exact sound.beginRound now
  | @lock registration later between collected =>
      refine sound.serve (.inr (.inl ?_)) rfl ?_
      · rw [collected]
        exact List.mem_cons_self
      · rw [collected]
        exact List.subset_cons_self registration later
  | skip locked silenced => exact sound.dropCheck (sound.outside locked (by decide))
  | @allow registration locked live =>
      apply sound.proceed (sound.outside locked (by decide)) locked live
      intro other goesOn
      obtain rfl := Option.some.inj goesOn
      rfl
  | poll now admitted => exact sound.poll now admitted
  | call ends expired serving => exact sound.call ends expired serving
  | @leave registration generation ends collected panicked handling =>
      have checked := sound.calling ⟨registration, .calling⟩ (by rw [handling, underway])
      rw [Ticker.finishHandling_value]
      refine sound.serve (.inr (.inr ⟨.calling, checked⟩)) rfl ?_
      rw [handling]
      exact List.Subset.refl collected
  | unlock leaving => exact sound.dropCheck (sound.outside leaving (by decide))

/-! ## Steps of the other threads -/

/-- Stopping a ticker touches neither its schedule nor what its thread does. -/
theorem IsSound.withTicker (sound : system.IsSound) {ticker : Ticker}
    (registrations : ∀ registration, registration ∈ ticker.registrations →
      registration ∈ system.ticker.registrations)
    (cancelled : ticker.cancelled = system.ticker.cancelled)
    (activity : ticker.activity = system.ticker.activity) :
    IsSound { system with ticker } := by
  refine sound.of_sameSlots (.of_eq rfl rfl) cancelled ?_ sound.live ?_ fun _ _ => id
  · rintro registration (scheduled | collected | checked)
    · exact .inl (registrations registration scheduled)
    · rw [activity] at collected
      exact .inr (.inl collected)
    · exact .inr (.inr checked)
  · intro check handling
    rw [activity] at handling
    exact sound.calling check handling

/-- A close call returns when the slot is empty and no other call is on its way. -/
theorem IsSound.returns (sound : system.IsSound) {number : Nat}
    (closed : system.IsClosed number) (outcome : Except BufferError Unit) :
    IsSound (system.note (.closed number outcome)) := by
  refine ⟨sound.claimed, sound.live, sound.calling, sound.emptied, ?_⟩
  intro other result returned
  rcases List.mem_append.mp returned with before | last
  · exact sound.closed other result before
  · obtain ⟨rfl, _⟩ := BufferEvent.closed.inj (List.mem_singleton.mp last)
    exact closed

/-- A close call on its way changes its own slot and stage, and may silence a registration. -/
theorem IsSound.closingStep (sound : system.IsSound) (number : Nat) {cancelled : List Nat}
    {buffers : Nat → Option (RequestBuffer K P)} {closing : Nat → Option ClosingStage}
    (elsewhere : ∀ other, other ≠ number →
      buffers other = system.buffers other ∧ closing other = system.closing other)
    (unfinished : ¬ system.IsClosed number)
    (empty : ∃ buffer, buffers number = some buffer ∧ buffer.registration = none)
    (grows : system.ticker.cancelled ⊆ cancelled)
    (live : ∀ registration stage, system.check = some ⟨registration, stage⟩ →
      stage.isLive = true → registration.id ∉ cancelled)
    (claimed : ∀ registration, registration.timer = number → system.Claims registration →
      registration.id ∈ cancelled ∨
        ∃ handle, handle.id = registration.id ∧ closing number = some (.taken handle)) :
    IsSound { system with
      ticker := { system.ticker with cancelled := cancelled }
      buffers := buffers
      closing := closing } := by
  refine ⟨?_, live, sound.calling, ?_, ?_⟩
  · intro registration known
    rcases sound.claimed registration known with silenced | claims
    · exact .inl (grows silenced)
    · by_cases same : registration.timer = number
      · refine (claimed registration same claims).imp_right ?_
        rintro ⟨handle, own, taken⟩
        obtain ⟨buffer, there, _⟩ := empty
        rw [← same] at there taken
        exact ⟨buffer, handle, there, own, .inr taken⟩
      · obtain ⟨buffer, handle, there, own, place⟩ := claims
        obtain ⟨sameBuffer, sameStage⟩ := elsewhere registration.timer same
        exact .inr ⟨buffer, handle, sameBuffer.trans there, own, place.imp_right sameStage.trans⟩
  · intro other stage onItsWay
    by_cases same : other = number
    · rw [same]
      exact empty
    · obtain ⟨sameBuffer, sameStage⟩ := elsewhere other same
      obtain ⟨buffer, there, slot⟩ := sound.emptied other stage (sameStage.symm.trans onItsWay)
      exact ⟨buffer, sameBuffer.trans there, slot⟩
  · intro other outcome returned
    have closed := sound.closed other outcome returned
    by_cases same : other = number
    · rw [same] at closed
      exact absurd closed unfinished
    · obtain ⟨sameBuffer, sameStage⟩ := elsewhere other same
      obtain ⟨⟨buffer, there, slot⟩, free⟩ := closed
      exact ⟨⟨buffer, sameBuffer.trans there, slot⟩, sameStage.trans free⟩

theorem IsSound.take (sound : system.IsSound) {number : Nat} {buffer : RequestBuffer K P}
    {handle : RegistrationHandle} (found : system.buffers number = some buffer)
    (free : system.closing number = none) (full : buffer.registration = some handle) :
    IsSound ((system.withBuffer number { buffer with registration := none }).withClosing number
      (some (.taken handle))) := by
  refine sound.closingStep number ?_ ?_ ?_ (List.Subset.refl _) sound.live ?_
  · intro other differs
    exact ⟨withBuffer_other differs _ _, withClosing_other differs _ system⟩
  · rintro ⟨⟨holder, there, empty⟩, _⟩
    rw [found] at there
    obtain rfl := Option.some.inj there
    rw [full] at empty
    cases empty
  · exact ⟨_, withBuffer_same _ _ _, rfl⟩
  · rintro registration same ⟨holder, claim, there, own, place⟩
    rw [same] at there place
    rw [found] at there
    obtain rfl := Option.some.inj there
    obtain rfl : handle = claim := by simpa [full, free] using place
    exact .inr ⟨handle, own, withClosing_same _ _ _⟩

theorem IsSound.silence (sound : system.IsSound) {number : Nat} {handle : RegistrationHandle}
    (taken : system.closing number = some (.taken handle))
    (unchecked : ¬ system.IsChecking handle.id) :
    IsSound ({ system with ticker := system.ticker.silence handle.id }.withClosing number
      (some (.silenced handle))) := by
  have emptied := sound.emptied number _ taken
  refine sound.closingStep number ?_ ?_ emptied (List.subset_cons_self _ _) ?_ ?_
  · intro other differs
    exact ⟨rfl, withClosing_other differs _ system⟩
  · rintro ⟨_, free⟩
    rw [taken] at free
    cases free
  · intro registration stage checked live silenced
    rcases List.mem_cons.mp silenced with same | before
    · exact unchecked ⟨_, checked, same⟩
    · exact sound.live registration stage checked live before
  · rintro registration rfl claims
    obtain ⟨claim, own, place⟩ := claims.taken emptied
    rw [taken] at place
    obtain rfl := ClosingStage.taken.inj (Option.some.inj place)
    rw [← own]
    exact .inl List.mem_cons_self

theorem IsSound.endClosing (sound : system.IsSound) {number : Nat} {handle : RegistrationHandle}
    (silenced : system.closing number = some (.silenced handle)) :
    IsSound (system.endClosing number handle) := by
  have emptied := sound.emptied number _ silenced
  have freed : IsSound (system.withClosing number none) := by
    refine sound.closingStep number ?_ ?_ emptied (List.Subset.refl _) sound.live ?_
    · intro other differs
      exact ⟨rfl, withClosing_other differs _ system⟩
    · rintro ⟨_, free⟩
      rw [silenced] at free
      cases free
    · rintro registration rfl claims
      obtain ⟨claim, _, place⟩ := claims.taken emptied
      rw [silenced] at place
      cases place
  have closed : (system.withClosing number none).IsClosed number :=
    ⟨emptied, withClosing_same _ _ _⟩
  simp only [WatchedBuffers.endClosing]
  cases here : (system.withClosing number none).ticker? with
  | none => exact freed.returns closed _
  | some ticker =>
      obtain rfl := eq_of_ticker?_eq_some here
      obtain ⟨sameCancelled, sameActivity⟩ := Ticker.remove_frame handle.id system.ticker
      have removed := freed.withTicker (fun _ => Ticker.mem_registrations_remove)
        sameCancelled sameActivity
      exact removed.returns closed _

/-- A new registration is claimed by the slot of its buffer. -/
theorem IsSound.register (sound : system.IsSound) {number : Nat} {buffer : RequestBuffer K P}
    {handle : RegistrationHandle} (unused : system.buffers number = none)
    (slot : buffer.registration = some handle) (nextId : Nat) (appointment : Appointment)
    (own : handle.id = appointment.registration.id)
    (timer : appointment.registration.timer = number) :
    IsSound ({ system with
      ticker := { system.ticker with
        nextId := nextId
        schedule := system.ticker.schedule.put handle.id appointment } }.withBuffer
          number buffer) := by
  have same : system.SameSlots (system.withBuffer number buffer) := .add unused buffer
  refine ⟨?_, sound.live, sound.calling, ?_, ?_⟩
  · rintro registration (scheduled | begun)
    · rcases Ticker.mem_registrations_put scheduled with rfl | old
      · refine .inr ⟨buffer, handle, ?_, own, .inl slot⟩
        rw [timer]
        exact withBuffer_same number buffer _
      · exact (sound.claimed registration (.inl old)).imp_right same.claims
    · exact (sound.claimed registration (.inr begun)).imp_right same.claims
  · exact fun other stage onItsWay => same.isEmptied (sound.emptied other stage onItsWay)
  · exact fun other outcome returned => same.isClosed (sound.closed other outcome returned)

theorem IsSound.openBuffer (sound : system.IsSound) {number : Nat} (settings : BufferSettings)
    (handler : Handler) (now : Instant) (unused : system.buffers number = none) :
    IsSound (system.openBuffer number settings handler now) := by
  simp only [WatchedBuffers.openBuffer]
  rcases RequestBuffer.watched_cases (K := K) (P := P) settings tickerNumber number number handler
    now system.ticker with ⟨fault, _, result⟩ | ⟨_, ⟨_, result⟩ | ⟨_, ⟨_, result⟩ | ⟨_, result⟩⟩⟩
  · rw [result]
    exact sound
  · rw [result]
    exact sound.withBuffer (.add unused _)
  · rw [result]
    exact sound.withTicker (fun _ => id) rfl rfl
  · rw [result]
    have slot : (RequestBuffer.empty settings (some ⟨tickerNumber, system.ticker.nextId⟩) :
        RequestBuffer K P).registration = some ⟨tickerNumber, system.ticker.nextId⟩ := rfl
    exact sound.register unused slot _ _ rfl rfl

theorem IsSound.callerStep (sound : system.IsSound) (step : CallerStep system next) :
    next.IsSound := by
  cases step with
  | openBuffer settings handler now unused here =>
      exact sound.openBuffer settings handler now unused
  | operate found slot => exact sound.withBuffer (.replace found slot)
  | @closeEmpty number buffer found free empty =>
      exact sound.returns ⟨⟨buffer, found, empty⟩, free⟩ _
  | take found free full => exact sound.take found free full
  | silence taken unchecked => exact sound.silence taken unchecked
  | endClosing silenced => exact sound.endClosing silenced
  | requestStop => exact sound.withTicker (fun _ => id) rfl rfl
  | stopFromHandler running => exact sound.withTicker (fun _ => id) rfl rfl
  | conclude stopped ended =>
      rw [Ticker.conclude_value]
      exact sound.withTicker (fun _ => id) rfl rfl
  | discard stopped ended =>
      exact ⟨sound.claimed, sound.live, sound.calling, sound.emptied, sound.closed⟩

end WatchedBuffers

end KeyedBatching
