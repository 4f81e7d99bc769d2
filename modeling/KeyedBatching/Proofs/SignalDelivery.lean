import KeyedBatching.Proofs.SignalInterleaving

/-!
# What the owner of a closed controller receives

Once the buffer of a controller is closed its handler is not called again, so
what was sent before is all that its owner can still get.  Whether the channel
ends after that depends on how the buffer was closed.  A close call that found
the ticker shut down has left the registration in the schedule, and with it the
handler, so the owner who waits for the end of the channel waits until the
ticker is dropped.
-/

namespace KeyedBatching

namespace WatchedBuffers

variable {K P : Type} {system next : WatchedBuffers K P} {number : Nat}

/-! ## Closed buffers -/

theorem isClosed_iff : system.IsClosed number ↔
    (∃ buffer, system.buffers number = some buffer) ∧ system.claimOf number = none := by
  constructor
  · intro closed
    obtain ⟨buffer, found, _⟩ := closed.1
    exact ⟨⟨buffer, found⟩, claimOf_of_closed closed⟩
  · rintro ⟨⟨buffer, found⟩, unclaimed⟩
    have free : system.closing number = none := by
      by_contra onItsWay
      obtain ⟨stage, onItsWay⟩ := Option.ne_none_iff_exists'.mp onItsWay
      cases unclaimed.symm.trans (claimOf_of_closing onItsWay)
    rw [claimOf_of_free free found, Option.map_eq_none_iff] at unclaimed
    exact ⟨⟨buffer, found, unclaimed⟩, free⟩

/-- A closed buffer stays without a claim, and no close call of it comes too late any more. -/
theorem Move.of_isClosed (move : system.Move next) (closed : system.IsClosed number) :
    next.claimOf number = none ∧ (next.IsClosedLate number ↔ system.IsClosedLate number) := by
  have unclaimed := claimOf_of_closed closed
  have same (returns : next.returns = system.returns) :
      next.IsClosedLate number ↔ system.IsClosedLate number := by
    rw [IsClosedLate, IsClosedLate, returns]
  have differs {other : Nat} {stage : ClosingStage}
      (onItsWay : system.closing other = some stage) : number ≠ other := by
    rintro rfl
    cases closed.2.symm.trans onItsWay
  cases move with
  | keep claims schedule returns => exact ⟨by rw [claims, unclaimed], same returns⟩
  | round claims running bookings returns => exact ⟨by rw [claims, unclaimed], same returns⟩
  | enter other appointment unused claims running numbered own schedule counted returns =>
      have differs : number ≠ other := by
        rintro rfl
        obtain ⟨buffer, found, _⟩ := closed.1
        cases unused.symm.trans found
      exact ⟨by rw [claims, Function.update_of_ne differs, unclaimed], same returns⟩
  | again other again claims schedule returns =>
      exact ⟨by rw [claims, unclaimed], by simp [isClosedLate_append returns]⟩
  | leave other handle silenced claims running schedule returns =>
      exact ⟨by rw [claims, Function.update_of_ne (differs silenced), unclaimed],
        by simp [isClosedLate_append returns]⟩
  | abandon other handle silenced claims stopped schedule returns =>
      exact ⟨by rw [claims, Function.update_of_ne (differs silenced), unclaimed],
        by simp [isClosedLate_append returns, differs silenced]⟩

/-- The handler of a closed buffer is not called. -/
theorem Step.callsOf_of_isClosed (step : Step system next) (sound : system.IsSound)
    (closed : system.IsClosed number) : next.callsOf number = system.callsOf number := by
  cases step with
  | caller step => exact step.callsOf number
  | thread step =>
      rcases step.callsOf number with same | ⟨registration, generation, own, expired, _⟩
      · exact same
      · rw [← own] at closed
        cases sound.not_live expired closed

/-! ## References -/

theorem watches_iff (ticker : Ticker) (timer : Nat) :
    ticker.watches timer = true ↔ ∃ registration : Registration, registration.timer = timer ∧
      (registration ∈ ticker.registrations ∨ registration ∈ ticker.activity.collected ∨
        ∃ stage, underway ticker.activity = some ⟨registration, stage⟩) := by
  unfold Ticker.watches
  simp only [List.any_eq_true, decide_eq_true_eq, List.mem_append, ← Ticker.registrations.eq_1]
  constructor
  · rintro ⟨registration, scheduled | begun, own⟩
    · exact ⟨registration, own, .inl scheduled⟩
    · refine ⟨registration, own, .inr ?_⟩
      cases activity : ticker.activity with
      | serving collected =>
          rw [activity] at begun
          exact .inl begun
      | handling running generation ends collected =>
          rw [activity] at begun
          rcases List.mem_cons.mp begun with rfl | later
          · exact .inr ⟨_, rfl⟩
          · exact .inl later
      | finished => simp [activity] at begun
      | crashed reason => simp [activity] at begun
  · rintro ⟨registration, own, scheduled | begun⟩
    · exact ⟨registration, .inl scheduled, own⟩
    · refine ⟨registration, .inr ?_, own⟩
      cases activity : ticker.activity with
      | serving collected => simpa [activity, Activity.collected, underway] using begun
      | handling running generation ends collected =>
          simpa [activity, Activity.collected, underway, or_comm, eq_comm] using begun
      | finished => simp [activity, Activity.collected, underway] at begun
      | crashed reason => simp [activity, Activity.collected, underway] at begun

/-- What a closed buffer has left in the schedule was left by a close call that came too late. -/
theorem IsBooked.late_of_scheduled (booked : system.IsBooked) (closed : system.IsClosed number)
    {registration : Registration} (scheduled : registration ∈ system.ticker.registrations)
    (own : registration.timer = number) : system.IsClosedLate number := by
  rw [Ticker.registrations_eq] at scheduled
  obtain ⟨entry, member, rfl⟩ := List.mem_map.mp scheduled
  rcases booked.claimed _ (booking_of_entry member) with claim | late
  · have unclaimed := claimOf_of_closed closed
    rw [← own] at unclaimed
    cases unclaimed.symm.trans claim
  · rwa [← own]

/-- Nothing refers to the registration of a closed buffer that the thread does not hold, unless a
close call came too late and the ticker is still there. -/
theorem IsBooked.hasSender_iff (booked : system.IsBooked) (sound : system.IsSound)
    (closed : system.IsClosed number) (free : ¬ system.IsHeld number) :
    system.HasSender number ↔ system.gone = false ∧ system.IsClosedLate number := by
  constructor
  · rintro (⟨id, claim⟩ | ⟨here, watched⟩ | held)
    · cases (claimOf_of_closed closed).symm.trans claim
    · refine ⟨here, ?_⟩
      obtain ⟨registration, own, scheduled | collected | ⟨stage, begun⟩⟩ :=
        (watches_iff _ _).mp watched
      · exact booked.late_of_scheduled closed scheduled own
      · exact absurd ⟨registration, own, .inl collected⟩ free
      · exact absurd ⟨registration, own, .inr ⟨stage, sound.calling _ begun⟩⟩ free
    · exact absurd held free
  · rintro ⟨here, late⟩
    obtain ⟨_, booking, member, own⟩ := booked.late number late
    obtain ⟨entry, scheduled, rfl⟩ := List.mem_map.mp member
    refine .inr (.inl ⟨here, (watches_iff _ _).mpr ⟨entry.2.registration, own, .inl ?_⟩⟩)
    rw [Ticker.registrations_eq]
    exact List.mem_map_of_mem scheduled

/-- Within a round the thread gets hold of nothing new. -/
theorem ThreadStep.isHeld (step : ThreadStep system next) (sound : system.IsSound)
    (within : ¬ system.IsBetween) (held : next.IsHeld number) : system.IsHeld number := by
  obtain ⟨registration, own, held⟩ := held
  refine ⟨registration, own, ?_⟩
  -- The check goes on with what it has begun with, unless the thread takes the next lock.
  have goesOn {before : Check} (checked : system.check = some before)
      (fewer : next.ticker.activity.collected ⊆ system.ticker.activity.collected)
      (same : ∀ stage, next.check = some ⟨registration, stage⟩ →
        before.registration = registration) :
      registration ∈ system.ticker.activity.collected ∨
        ∃ stage, system.check = some ⟨registration, stage⟩ := by
    rcases held with collected | ⟨stage, after⟩
    · exact .inl (fewer collected)
    · exact .inr ⟨before.stage, by rw [checked, ← same stage after]⟩
  cases step with
  | beginRound now between done => exact absurd ⟨between, done⟩ within
  | @lock first later between waiting =>
      left
      rw [waiting]
      rcases held with collected | ⟨stage, after⟩
      · exact List.mem_cons_of_mem first collected
      · obtain ⟨rfl, _⟩ := Check.mk.inj (Option.some.inj after)
        exact List.mem_cons_self
  | skip locked silenced => exact goesOn locked (List.Subset.refl _) fun _ after => by cases after
  | allow locked live =>
      exact goesOn locked (List.Subset.refl _) fun _ after =>
        (Check.mk.inj (Option.some.inj after)).1
  | poll now admitted =>
      refine goesOn admitted (by rw [poll_ticker]; exact List.Subset.refl _) fun _ after => ?_
      unfold WatchedBuffers.poll at after
      split at after
      · cases after
      · obtain ⟨_, _, same⟩ := Option.map_eq_some_iff.mp after
        exact (Check.mk.inj same).1
  | call ends expired serving =>
      refine goesOn expired ?_ fun _ after => (Check.mk.inj (Option.some.inj after)).1
      rw [serving]
      exact List.Subset.refl _
  | @leave running generation ends collected panicked handling =>
      have calling := sound.calling ⟨running, .calling⟩ (by rw [handling, underway])
      refine goesOn calling ?_ fun _ after => (Check.mk.inj (Option.some.inj after)).1
      rw [Ticker.finishHandling_value, handling]
      exact List.Subset.refl _
  | unlock leaving => exact goesOn leaving (List.Subset.refl _) fun _ after => by cases after

/-- The thread does not get hold of the registration of a closed buffer again. -/
theorem Step.not_isHeld (step : Step system next) (booked : system.IsBooked)
    (sound : system.IsSound) (closed : system.IsClosed number)
    (free : ¬ system.IsHeld number) : ¬ next.IsHeld number := by
  intro held
  cases step with
  | caller step =>
      obtain ⟨activity, check, _⟩ := step.frame
      rw [IsHeld, activity, check] at held
      exact free held
  | thread step =>
      by_cases between : system.IsBetween
      · cases step with
        | beginRound now idle done =>
            obtain ⟨registration, own, collected | ⟨stage, checked⟩⟩ := held
            · have scheduled := (system.ticker.beginRound_registrations now).2 collected
              have late := booked.late_of_scheduled closed scheduled own
              rw [Ticker.beginRound_stopped now (booked.late number late).1] at collected
              cases collected
            · cases idle.symm.trans checked
        | lock idle waiting => cases between.2.symm.trans waiting
        | skip locked silenced => cases between.1.symm.trans locked
        | allow locked live => cases between.1.symm.trans locked
        | poll now admitted => cases between.1.symm.trans admitted
        | call ends expired serving => cases between.1.symm.trans expired
        | leave panicked handling => cases between.2.symm.trans handling
        | unlock leaving => cases between.1.symm.trans leaving
      · exact free (step.isHeld sound between held)

theorem Step.gone (step : Step system next) (gone : system.gone = true) : next.gone = true := by
  cases step with
  | thread step =>
      cases step with
      | poll now admitted =>
          unfold WatchedBuffers.poll
          split <;> exact gone
      | _ => exact gone
  | caller step =>
      cases step with
      | openBuffer settings handler now unused here => cases here.symm.trans gone
      | endClosing silenced =>
          simp only [WatchedBuffers.endClosing]
          split <;> exact gone
      | discard stopped ended => rfl
      | _ => exact gone

/-- A closed buffer whose registration the thread does not hold stays so. -/
theorem Step.of_isClosed (step : Step system next) (booked : system.IsBooked)
    (sound : system.IsSound) (closed : system.IsClosed number)
    (free : ¬ system.IsHeld number) :
    next.IsClosed number ∧ ¬ next.IsHeld number ∧
      (next.IsClosedLate number ↔ system.IsClosedLate number) := by
  obtain ⟨unclaimed, late⟩ := (step.move booked sound).of_isClosed closed
  obtain ⟨buffer, found, _⟩ := closed.1
  obtain ⟨other, there, _⟩ := step.slot found
  exact ⟨isClosed_iff.mpr ⟨⟨other, there⟩, unclaimed⟩,
    step.not_isHeld booked sound closed free, late⟩

end WatchedBuffers

/-! ## Closed controllers -/

namespace ControllerSystem

variable {K P : Type} {system next later : ControllerSystem K P} {number : Nat}

theorem Step.base (step : Step number system next) (sound : system.IsSound number) :
    next.base = system.base ∨ WatchedBuffers.Step system.base next.base := by
  cases step with
  | thread idle step silent => exact .inr (.thread step)
  | call idle step called => exact .inr (.thread step)
  | send sending => exact .inl rfl
  | caller step => exact .inr (.caller step)
  | own taken slot signals => exact .inr (.caller (.operate sound.own slot))
  | wait step => cases step <;> exact .inl rfl

/-- The controller is closed, and the thread has nothing of it. -/
structure IsQuiet (number : Nat) (system : ControllerSystem K P) : Prop where
  closed : system.base.IsClosed number
  free : ¬ system.base.IsHeld number

theorem IsQuiet.hasSender_iff (quiet : system.IsQuiet number) (sound : system.IsSound number) :
    system.base.HasSender number ↔
      system.base.gone = false ∧ system.base.IsClosedLate number :=
  sound.reached.isBooked.hasSender_iff sound.reached.isSound quiet.closed quiet.free

theorem IsQuiet.sending_eq_none (quiet : system.IsQuiet number)
    (sound : system.IsSound number) : system.sending = none := by
  by_contra some
  obtain ⟨generation, sending⟩ := Option.ne_none_iff_exists'.mp some
  obtain ⟨registration, own, checked⟩ := sound.sending generation sending
  exact quiet.free ⟨registration, own, .inr ⟨_, checked⟩⟩

/-- What a run from one state of a closed controller to another has done. -/
structure Delivers (number : Nat) (system later : ControllerSystem K P) : Prop where
  quiet : later.IsQuiet number
  late : later.base.IsClosedLate number ↔ system.base.IsClosedLate number
  gone : system.base.gone = true → later.base.gone = true
  /-- Signals in the order of their sending, then the end of the channel any number of times. -/
  received : ∃ taken ends, system.controller.signals = taken ++ later.controller.signals ∧
    later.received = system.received ++ taken.map some ++ List.replicate ends none ∧
    (ends = 0 ∨ later.controller.signals = [])

theorem Delivers.step (delivers : system.Delivers number next) (sound : next.IsSound number)
    (step : Step number next later) : system.Delivers number later := by
  have booked := sound.reached.isBooked
  have steady := sound.reached.isSound
  obtain ⟨quiet, late, gone, taken, ends, signals, received, ended⟩ := delivers
  have base : later.IsQuiet number ∧
      (later.base.IsClosedLate number ↔ next.base.IsClosedLate number) ∧
      (next.base.gone = true → later.base.gone = true) := by
    rcases step.base sound with same | step
    · refine ⟨⟨?_, ?_⟩, ?_, ?_⟩ <;> rw [same]
      exacts [quiet.closed, quiet.free, id]
    · obtain ⟨closed, free, same⟩ := step.of_isClosed booked steady quiet.closed quiet.free
      exact ⟨⟨closed, free⟩, same, step.gone⟩
  refine ⟨base.1, base.2.1.trans late, fun before => base.2.2 (gone before), ?_⟩
  cases step with
  | thread idle step silent => exact ⟨taken, ends, signals, received, ended⟩
  | call idle step called =>
      have silent := WatchedBuffers.Step.callsOf_of_isClosed (.thread step) steady quiet.closed
      simp [silent] at called
  | send sending => cases (quiet.sending_eq_none sound).symm.trans sending
  | caller step => exact ⟨taken, ends, signals, received, ended⟩
  | @own after more slot rest =>
      rw [rest, List.append_eq_nil_iff] at ended
      refine ⟨taken ++ more, ends, by rw [signals, rest, List.append_assoc], ?_,
        ended.imp_right And.right⟩
      rcases ended with rfl | ⟨rfl, _⟩
      · simp [received]
      · simp [received]
  | wait step =>
      cases step with
      | @receive generation rest first =>
          obtain ⟨some, _⟩ := takeSignal_eq_some first
          have unended : ends = 0 := ended.resolve_right (by rw [some]; exact List.cons_ne_nil _ _)
          subst unended
          refine ⟨taken ++ [generation], 0, by rw [signals, some, List.append_cons], ?_, .inl rfl⟩
          simp [received]
      | finish empty _ =>
          have none := takeSignal_eq_none.mp empty
          refine ⟨taken, ends + 1, signals, ?_, .inr none⟩
          rw [received, List.replicate_succ', List.append_assoc]

theorem Reachable.delivers (reached : Reachable number system) (quiet : system.IsQuiet number)
    (run : Relation.ReflTransGen (Step number) system later) : system.Delivers number later := by
  induction run with
  | refl => exact ⟨quiet, Iff.rfl, id, [], 0, rfl, by simp, .inl rfl⟩
  | tail before step ih => exact ih.step (reached.run before).isSound step

/-- The thread does not hold the registration of a closed controller.  Then what its handler was
called with is received or in the channel, and the owner gets this in order and after that only
the end of the channel.  No wait hangs if the ticker was dropped or no close call has found it shut
down; otherwise a wait at the empty channel hangs until the ticker is dropped. -/
theorem reachable_signals_delivered (reached : Reachable number system)
    (closed : system.base.IsClosed number) (free : ¬ system.base.IsHeld number) :
    system.base.callsOf number =
        system.received.reduceOption ++ system.controller.signals ∧
      (system.base.HasSender number ↔
        system.base.gone = false ∧ system.base.IsClosedLate number) ∧
      ∀ later, Relation.ReflTransGen (Step number) system later →
        (∃ taken ends, system.controller.signals = taken ++ later.controller.signals ∧
          later.received = system.received ++ taken.map some ++ List.replicate ends none ∧
          (ends = 0 ∨ later.controller.signals = [])) ∧
        (¬ system.base.HasSender number → ∃ next, Wait number later next) ∧
        (system.base.HasSender number → later.base.gone = false →
          later.controller.signals = [] → ∀ next, ¬ Wait number later next) := by
  have sound := reached.isSound
  have quiet : system.IsQuiet number := ⟨closed, free⟩
  have sender := quiet.hasSender_iff sound
  refine ⟨?_, sender, fun later run => ?_⟩
  · have signals := sound.signals
    rwa [quiet.sending_eq_none sound, Option.toList_none, List.append_nil] at signals
  have delivers := reached.delivers quiet run
  have senderLater := delivers.quiet.hasSender_iff (reached.run run).isSound
  refine ⟨delivers.received, ?_, ?_⟩
  · intro nobody
    cases signals : later.controller.signals with
    | nil =>
        refine ⟨_, .finish (takeSignal_eq_none.mpr signals) fun somebody => nobody ?_⟩
        obtain ⟨here, late⟩ := senderLater.mp somebody
        refine sender.mpr ⟨?_, delivers.late.mp late⟩
        by_contra gone
        cases (delivers.gone (by simpa using gone)).symm.trans here
    | cons generation rest =>
        have taken : later.controller.takeSignal =
            (some generation, { later.controller with signals := rest }) := by
          rw [Controller.takeSignal, signals]
        exact ⟨_, .receive taken⟩
  · intro somebody here empty next wait
    cases wait with
    | receive taken =>
        rw [(takeSignal_eq_some taken).1] at empty
        cases empty
    | finish _ ended =>
        exact ended (senderLater.mpr ⟨here, delivers.late.mpr (sender.mp somebody).2⟩)

/-! ## Examples of both ends -/

def soleSettings : ControllerSettings :=
  { buffer := { timeout := 100, interval := 10 } }

def soleHandle : RegistrationHandle :=
  ⟨WatchedBuffers.tickerNumber, 1⟩

/-- A new controller, with the only buffer of its ticker. -/
def soleController : ControllerSystem Nat String :=
  let ticker := (Ticker.start "timeouts").value
  let controller := Controller.around soleSettings (.empty soleSettings.buffer (some soleHandle))
  let opened := (Controller.watched (K := Nat) (P := String) soleSettings
    WatchedBuffers.tickerNumber 7 7 {} 0 ticker).value.2
  { base := { ticker := opened : WatchedBuffers Nat String }.withBuffer 7 controller.buffer
    controller }

theorem soleController_reachable : Reachable 7 soleController :=
  .opened (.start "timeouts") soleSettings 0 rfl rfl rfl

/-- The controller has been signalled once when it is closed.  Its owner receives the signal and
then the end of the channel, and a further wait does not hang either. -/
theorem reachable_signals_delivered_closed :
    ∃ closed later : ControllerSystem Nat String, Reachable 7 closed ∧
      closed.base.outcomesOf 7 = [.ok ()] ∧ closed.controller.signals = [0] ∧
      Relation.ReflTransGen (Step 7) closed later ∧ later.received = [some 0, none] ∧
      closed.base.callsOf 7 = closed.received.reduceOption ++ closed.controller.signals ∧
      ∃ next, Wait 7 later next := by
  let registration : Registration := ⟨1, 7, 7, {}⟩
  let submitted := (soleController.controller.submit 0 ⟨3, .usual, "held"⟩).value.2
  let filled : ControllerSystem Nat String := { soleController with
    base := soleController.base.withBuffer 7 submitted.buffer
    controller := submitted }
  let begun := filled.follow 7
    { filled.base with ticker := filled.base.ticker.beginRound 150 }
  let locked := begun.follow 7 { begun.base with
    ticker := { begun.base.ticker with activity := .serving [] }
    check := some ⟨registration, .locked⟩ }
  let allowed := locked.follow 7 { locked.base with check := some ⟨registration, .admitted⟩ }
  let polled := allowed.follow 7 (allowed.base.poll registration 150)
  let called : ControllerSystem Nat String := { polled.follow 7 ({ polled.base with
    ticker := (polled.base.ticker.beginHandling registration 0 160 []).value
    check := some ⟨registration, .calling⟩ }.note (.called 7 0)) with sending := some 0 }
  let sent : ControllerSystem Nat String := { called with
    controller := called.controller.signal 0
    sending := none }
  let left := sent.follow 7 { sent.base with
    ticker := (sent.base.ticker.finishHandling registration 0 false []).value
    check := some ⟨registration, .leaving⟩ }
  let unlocked := left.follow 7 { left.base with check := none }
  let closed := unlocked.follow 7
    (({ unlocked.base with ticker := unlocked.base.ticker.silence 1 }.withBuffer 7
      { unlocked.controller.buffer with registration := none }).endClosing 7 soleHandle)
  have calls : Reachable 7 called := by
    have submits : Step 7 soleController filled := .own [] rfl rfl
    have begins : Step 7 filled begun := .thread rfl (.beginRound 150 rfl rfl) rfl
    have locks : Step 7 begun locked := .thread rfl (.lock rfl rfl) rfl
    have allows : Step 7 locked allowed := .thread rfl (.allow rfl (by decide)) rfl
    have polls : Step 7 allowed polled := .thread rfl (.poll 150 rfl) rfl
    have calls : Step 7 polled called := .call rfl (.call 160 rfl rfl) rfl
    exact .step (.step (.step (.step (.step (.step soleController_reachable submits) begins)
      locks) allows) polls) calls
  have unlocks : Reachable 7 unlocked := by
    have sends : Step 7 called sent := .send rfl
    have leaves : Step 7 sent left := .thread rfl (.leave false rfl) rfl
    have unlocks : Step 7 left unlocked := .thread rfl (.unlock rfl) rfl
    exact .step (.step (.step calls sends) leaves) unlocks
  have idle : ¬ unlocked.base.IsChecking 1 := by
    rintro ⟨check, checking, _⟩
    cases checking
  have reached : Reachable 7 closed := unlocks.run (claim_run rfl rfl rfl idle)
  have free : ¬ closed.base.IsHeld 7 := by
    rintro ⟨_, _, collected | ⟨_, checked⟩⟩
    · cases collected
    · cases checked
  obtain ⟨signalled, sender, results⟩ :=
    reachable_signals_delivered reached ⟨⟨_, rfl, rfl⟩, rfl⟩ free
  have nobody : ¬ closed.base.HasSender 7 := by
    rw [sender]
    rintro ⟨_, late⟩
    cases List.mem_singleton.mp late
  let received : ControllerSystem Nat String := { closed with
    controller := { closed.controller with signals := [] }
    received := [some 0] }
  let later : ControllerSystem Nat String := { received with received := [some 0, none] }
  have run : Relation.ReflTransGen (Step 7) closed later := by
    have receives : Step 7 closed received := .wait (.receive rfl)
    have finishes : Step 7 received later := .wait (.finish rfl nobody)
    exact (Relation.ReflTransGen.single receives).tail finishes
  obtain ⟨_, waits, _⟩ := results later run
  exact ⟨closed, later, reached, rfl, rfl, run, rfl, signalled, waits nobody⟩

/-- A close call that finds the ticker shut down leaves a sender behind, so the channel of a
closed controller does not always end. -/
theorem not_forall_channel_ended :
    ¬ ∀ system : ControllerSystem Nat String, Reachable 7 system → system.base.IsClosed 7 →
      ¬ system.base.IsHeld 7 → ¬ system.base.HasSender 7 := by
  let stopped := soleController.follow 7
    { soleController.base with ticker := soleController.base.ticker.requestStop }
  let closed := stopped.follow 7
    (({ stopped.base with ticker := stopped.base.ticker.silence 1 }.withBuffer 7
      { stopped.controller.buffer with registration := none }).endClosing 7 soleHandle)
  have idle : ¬ stopped.base.IsChecking 1 := by
    rintro ⟨check, checking, _⟩
    cases checking
  have stops : Reachable 7 stopped := soleController_reachable.step (.caller .requestStop)
  have reached : Reachable 7 closed := stops.run (claim_run rfl rfl rfl idle)
  intro ended
  refine ended closed reached ⟨⟨_, rfl, rfl⟩, rfl⟩ ?_ (.inr (.inl ⟨rfl, by decide⟩))
  rintro ⟨_, _, collected | ⟨_, checked⟩⟩
  · cases collected
  · cases checked

end ControllerSystem

end KeyedBatching
