import KeyedBatching.Proofs.ControllerRuns
import KeyedBatching.Proofs.RegistrationLedger
import Mathlib.Data.List.ReduceOption

/-!
# A controller and its channel, step by step

The handler of a controller's buffer runs on the thread of the ticker and sends
each generation that it is called with.  The owner of the controller takes the
generations from the other end of the channel, in the order of their sending.
The channel ends when nothing refers to the registration any more, since the
handler with its sending end goes away with the registration; until then an
owner who finds the channel empty waits.
-/

namespace KeyedBatching

namespace WatchedBuffers

variable {K P : Type}

/-- The thread has a copy of a registration of the buffer. -/
def IsHeld (system : WatchedBuffers K P) (number : Nat) : Prop :=
  ∃ registration, registration.timer = number ∧
    (registration ∈ system.ticker.activity.collected ∨
      ∃ stage, system.check = some ⟨registration, stage⟩)

/-- A registration of the buffer is referred to by a claim, by the ticker unless that is gone, or
by a check. -/
def HasSender (system : WatchedBuffers K P) (number : Nat) : Prop :=
  (∃ id, system.claimOf number = some id) ∨
    (system.gone = false ∧ system.ticker.watches number = true) ∨ system.IsHeld number

end WatchedBuffers

/-- A controller, with its buffer among the others of the ticker. -/
structure ControllerSystem (K P : Type) where
  base : WatchedBuffers K P
  controller : Controller K P
  /-- What the handler was called with and has not sent yet. -/
  sending : Option Nat := none
  /-- What the owner has got from the channel; nothing stands for its end. -/
  received : List (Option Nat) := []

namespace ControllerSystem

variable {K P : Type}

/-- The controller has the buffer that the others have made of it. -/
def follow (number : Nat) (base : WatchedBuffers K P) (system : ControllerSystem K P) :
    ControllerSystem K P :=
  { system with
    base := base
    controller := { system.controller with
      buffer := (base.buffers number).getD system.controller.buffer } }

/-- A wait of the owner comes to its end. -/
inductive Wait (number : Nat) : ControllerSystem K P → ControllerSystem K P → Prop
  | receive {system} {generation : Nat} {rest : Controller K P}
      (taken : system.controller.takeSignal = (some generation, rest)) :
      Wait number system { system with
        controller := rest
        received := system.received ++ [some generation] }
  | finish {system} (empty : system.controller.takeSignal.1 = none)
      (ended : ¬ system.base.HasSender number) :
      Wait number system { system with received := system.received ++ [none] }

inductive Step (number : Nat) : ControllerSystem K P → ControllerSystem K P → Prop
  | thread {system} {next : WatchedBuffers K P} (idle : system.sending = none)
      (step : WatchedBuffers.ThreadStep system.base next)
      (silent : next.callsOf number = system.base.callsOf number) :
      Step number system (system.follow number next)
  /-- The thread does not go on before the handler has sent. -/
  | call {system} {next : WatchedBuffers K P} {generation : Nat} (idle : system.sending = none)
      (step : WatchedBuffers.ThreadStep system.base next)
      (called : next.callsOf number = system.base.callsOf number ++ [generation]) :
      Step number system { system.follow number next with sending := some generation }
  | send {system} {generation : Nat} (sending : system.sending = some generation) :
      Step number system { system with
        controller := system.controller.signal generation
        sending := none }
  | caller {system} {next : WatchedBuffers K P}
      (step : WatchedBuffers.CallerStep system.base next) :
      Step number system (system.follow number next)
  /-- Whatever the owner calls, it leaves the slot alone and takes signals in their order. -/
  | own {system} {next : Controller K P} (taken : List Nat)
      (slot : next.buffer.registration = system.controller.buffer.registration)
      (signals : system.controller.signals = taken ++ next.signals) :
      Step number system { system with
        base := system.base.withBuffer number next.buffer
        controller := next
        received := system.received ++ taken.map some }
  | wait {system next} (step : Wait number system next) : Step number system next

/-- The states that a controller reaches from its opening on. -/
inductive Reachable (number : Nat) : ControllerSystem K P → Prop
  | opened {base : WatchedBuffers K P} {controller : Controller K P} {ticker : Ticker}
      (before : WatchedBuffers.Reachable base) (settings : ControllerSettings) (now : Instant)
      (unused : base.buffers number = none) (here : base.gone = false)
      (built : (Controller.watched settings WatchedBuffers.tickerNumber number number {} now
        base.ticker).value = (.ok controller, ticker)) :
      Reachable number
        { base := { base with ticker }.withBuffer number controller.buffer, controller }
  | step {system next : ControllerSystem K P} (reached : Reachable number system)
      (step : Step number system next) : Reachable number next

end ControllerSystem

/-! ## Calls of handlers -/

namespace WatchedBuffers

variable {K P : Type} {system next : WatchedBuffers K P} {number : Nat}

theorem callsOf_congr (number : Nat) (history : next.history = system.history) :
    next.callsOf number = system.callsOf number := by
  rw [callsOf, callsOf, history]

theorem CallerStep.callsOf (step : CallerStep system next) (number : Nat) :
    next.callsOf number = system.callsOf number := by
  cases step with
  | openBuffer settings handler now unused here =>
      exact callsOf_congr number (openBuffer_history _ settings handler now system)
  | closeEmpty found free empty => simp [WatchedBuffers.callsOf, note]
  | @endClosing closing handle silenced =>
      obtain ⟨outcome, more⟩ := endClosing_history closing handle system
      simp [WatchedBuffers.callsOf, more]
  | _ => rfl

/-- The thread calls a handler after its last look at the registration, or calls none. -/
theorem ThreadStep.callsOf (step : ThreadStep system next) (number : Nat) :
    next.callsOf number = system.callsOf number ∨
      ∃ registration generation, registration.timer = number ∧
        system.check = some ⟨registration, .expired generation⟩ ∧
        next.check = some ⟨registration, .calling⟩ ∧
        next.callsOf number = system.callsOf number ++ [generation] := by
  cases step with
  | poll now admitted => exact .inl (callsOf_congr number (poll_history _ now system))
  | @call registration generation collected ends expired serving =>
      by_cases own : registration.timer = number
      · refine .inr ⟨registration, generation, own, expired, rfl, ?_⟩
        simp [WatchedBuffers.callsOf, note, own]
      · refine .inl ?_
        simp [WatchedBuffers.callsOf, note, own]
  | _ => exact .inl rfl

/-- A registration that has passed its check belongs to a buffer. -/
theorem IsSound.found_of_live (sound : system.IsSound) {registration : Registration}
    {stage : CheckStage} (checked : system.check = some ⟨registration, stage⟩)
    (live : stage.isLive = true) :
    ∃ buffer, system.buffers registration.timer = some buffer := by
  rcases sound.claimed registration (.inr (.inr ⟨stage, checked⟩)) with silenced | claims
  · exact absurd silenced (sound.live registration stage checked live)
  · obtain ⟨buffer, _, found, _⟩ := claims
    exact ⟨buffer, found⟩

theorem Reachable.callsOf_of_unused (reached : Reachable system)
    (unused : system.buffers number = none) : system.callsOf number = [] := by
  induction reached with
  | start name => rfl
  | @step system next before step ih =>
      have unusedBefore : system.buffers number = none := by
        by_contra used
        obtain ⟨buffer, found⟩ := Option.ne_none_iff_exists'.mp used
        obtain ⟨other, there, _⟩ := step.slot found
        cases unused.symm.trans there
      cases step with
      | caller step => rw [step.callsOf, ih unusedBefore]
      | thread step =>
          rcases step.callsOf number with same | ⟨registration, generation, own, expired, _⟩
          · rw [same, ih unusedBefore]
          · obtain ⟨buffer, found⟩ := before.isSound.found_of_live expired rfl
            rw [own, unusedBefore] at found
            cases found

end WatchedBuffers

/-! ## Runs -/

namespace ControllerSystem

variable {K P : Type} {system later : ControllerSystem K P} {number : Nat}

theorem Reachable.run (reached : Reachable number system)
    (run : Relation.ReflTransGen (Step number) system later) : Reachable number later := by
  induction run with
  | refl => exact reached
  | tail _ step ih => exact ih.step step

/-- What other threads do to the buffers takes the controller along. -/
theorem follow_run {base : WatchedBuffers K P}
    (own : system.base.buffers number = some system.controller.buffer)
    (run : Relation.ReflTransGen WatchedBuffers.CallerStep system.base base) :
    Relation.ReflTransGen (Step number) system (system.follow number base) := by
  have holds : (∃ buffer, base.buffers number = some buffer) ∧
      Relation.ReflTransGen (Step number) system (system.follow number base) := by
    induction run with
    | refl =>
        have same : system.follow number system.base = system := by
          rw [follow, own, Option.getD_some]
        exact ⟨⟨_, own⟩, by rw [same]⟩
    | @tail between last _ step ih =>
        obtain ⟨⟨_, found⟩, before⟩ := ih
        obtain ⟨other, there, _⟩ := WatchedBuffers.Step.slot (.caller step) found
        have same : (system.follow number between).follow number last =
            system.follow number last := by
          rw [follow, there, follow, follow, there, Option.getD_some, Option.getD_some]
        have last : Step number (system.follow number between) (system.follow number last) := by
          rw [← same]
          exact .caller step
        exact ⟨⟨other, there⟩, before.tail last⟩
  exact holds.2

/-- A close call that no check holds up closes the controller. -/
theorem claim_run {handle : RegistrationHandle}
    (own : system.base.buffers number = some system.controller.buffer)
    (free : system.base.closing number = none)
    (full : system.controller.buffer.registration = some handle)
    (unchecked : ¬ system.base.IsChecking handle.id) :
    Relation.ReflTransGen (Step number) system
      (system.follow number
        (({ system.base with ticker := system.base.ticker.silence handle.id }.withBuffer number
          { system.controller.buffer with registration := none }).endClosing number handle)) :=
  follow_run own (WatchedBuffers.claim_run own free full unchecked)

end ControllerSystem

/-! ## What the channel holds -/

namespace ControllerSystem

variable {K P : Type} {system next later : ControllerSystem K P} {number : Nat}

theorem takeSignal_eq_some {controller rest : Controller K P} {generation : Nat}
    (taken : controller.takeSignal = (some generation, rest)) :
    controller.signals = generation :: rest.signals ∧ rest.buffer = controller.buffer := by
  unfold Controller.takeSignal at taken
  split at taken
  · cases taken
  next first others signals =>
    obtain ⟨same, rfl⟩ := Prod.mk.inj taken
    obtain rfl := Option.some.inj same
    exact ⟨signals, rfl⟩

theorem takeSignal_eq_none {controller : Controller K P} :
    controller.takeSignal.1 = none ↔ controller.signals = [] := by
  unfold Controller.takeSignal
  split
  next empty => simp [empty]
  next signals => simp [signals]

/-- The generations that the handler was called with are received, in the channel, or about to be
sent, in this order. -/
structure IsSound (number : Nat) (system : ControllerSystem K P) : Prop where
  reached : WatchedBuffers.Reachable system.base
  own : system.base.buffers number = some system.controller.buffer
  signals : system.base.callsOf number =
    system.received.reduceOption ++ system.controller.signals ++ system.sending.toList
  /-- While the handler sends, the thread holds the registration. -/
  sending : ∀ generation, system.sending = some generation →
    ∃ registration, registration.timer = number ∧
      system.base.check = some ⟨registration, .calling⟩

theorem follow_own {base : WatchedBuffers K P} (step : WatchedBuffers.Step system.base base)
    (own : system.base.buffers number = some system.controller.buffer) :
    base.buffers number = some (system.follow number base).controller.buffer := by
  obtain ⟨buffer, there, _⟩ := step.slot own
  rw [follow, there, Option.getD_some]

theorem Step.isSound (step : Step number system next) (sound : system.IsSound number) :
    next.IsSound number := by
  cases step with
  | @thread base idle step silent =>
      refine ⟨sound.reached.step (.thread step), follow_own (.thread step) sound.own, ?_, ?_⟩
      · exact silent.trans sound.signals
      · intro generation sending
        cases idle.symm.trans sending
  | @call base generation idle step called =>
      refine ⟨sound.reached.step (.thread step), follow_own (.thread step) sound.own, ?_, ?_⟩
      · have signals := sound.signals
        rw [idle, Option.toList_none, List.append_nil] at signals
        exact called.trans (by rw [signals]; rfl)
      · intro _ _
        rcases step.callsOf number with same | ⟨registration, _, own, _, checked, _⟩
        · simp [same] at called
        · exact ⟨registration, own, checked⟩
  | @send generation sending =>
      refine ⟨sound.reached, sound.own, ?_, fun _ none => by cases none⟩
      have signals := sound.signals
      rw [sending] at signals
      simpa [Controller.signal] using signals
  | @caller base step =>
      refine ⟨sound.reached.step (.caller step), follow_own (.caller step) sound.own, ?_, ?_⟩
      · exact (step.callsOf number).trans sound.signals
      · intro generation sending
        obtain ⟨registration, own, checked⟩ := sound.sending generation sending
        exact ⟨registration, own, step.frame.2.1.trans checked⟩
  | @own next taken slot signals =>
      refine ⟨sound.reached.step (.caller (.operate sound.own slot)),
        WatchedBuffers.withBuffer_same number next.buffer system.base, ?_, sound.sending⟩
      have all : (taken.map some).reduceOption = taken := by
        simp [List.reduceOption, List.filterMap_map]
      have before := sound.signals
      rw [signals] at before
      exact before.trans (by simp [List.reduceOption_append, all])
  | wait step =>
      cases step with
      | receive taken =>
          obtain ⟨signals, buffer⟩ := takeSignal_eq_some taken
          refine ⟨sound.reached, sound.own.trans (by rw [buffer]), ?_, sound.sending⟩
          have before := sound.signals
          rw [signals] at before
          simpa [List.reduceOption_append] using before
      | finish empty ended =>
          refine ⟨sound.reached, sound.own, ?_, sound.sending⟩
          simpa [List.reduceOption_append] using sound.signals

theorem Reachable.isSound (reached : Reachable number system) : system.IsSound number := by
  induction reached with
  | @opened base controller ticker before settings now unused here built =>
      have opened : { base with ticker }.withBuffer number controller.buffer =
          base.openController number settings {} now := by
        rw [WatchedBuffers.openController, built]
      have reached : WatchedBuffers.Reachable (base.openController number settings {} now) := by
        rcases WatchedBuffers.openController_cases number settings {} now base with same | same
        · rwa [same]
        · rw [same]
          exact before.step (.caller (.openBuffer settings.buffer {} now unused here))
      have new : controller.signals = [] := by
        have made : controller.IsNew := .watched settings _ _ _ _ _ _ (by rw [built])
        obtain ⟨_, _, _, rfl⟩ := made.eq_around
        rfl
      refine ⟨by rwa [opened], WatchedBuffers.withBuffer_same _ _ _, ?_, ?_⟩
      · have none := before.callsOf_of_unused unused
        exact none.trans (by simp [new])
      · intro generation sending
        cases sending
  | step _ step sound => exact step.isSound sound

end ControllerSystem

end KeyedBatching
