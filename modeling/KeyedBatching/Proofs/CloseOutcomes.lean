import KeyedBatching.Proofs.RegistrationBookings

/-!
# What close calls return

Only one close call of a buffer finds a claim in the slot, and with the claim it
takes the right to report a failure.  The entry of the claim is in the schedule
until this call removes it, so the call can fail in one way only: the ticker was
shut down before.  Every other close call finds the slot empty and has nothing
to do.
-/

namespace KeyedBatching

/-- No outcome but the first tells of a failure, and that failure is a shutdown. -/
structure SurfacesOnce (outcomes : List (Except BufferError Unit)) : Prop where
  each : ∀ outcome ∈ outcomes, outcome = .ok () ∨ outcome = .error (.close .shutdown)
  others : ∀ outcome ∈ outcomes.tail, outcome = .ok ()

namespace SurfacesOnce

theorem nil : SurfacesOnce [] :=
  ⟨List.forall_mem_nil _, List.forall_mem_nil _⟩

theorem singleton {outcome : Except BufferError Unit}
    (known : outcome = .ok () ∨ outcome = .error (.close .shutdown)) : SurfacesOnce [outcome] :=
  ⟨List.forall_mem_singleton.mpr known, List.forall_mem_nil _⟩

theorem append_ok {outcomes : List (Except BufferError Unit)} (once : SurfacesOnce outcomes) :
    SurfacesOnce (outcomes ++ [.ok ()]) := by
  cases outcomes with
  | nil => exact .singleton (.inl rfl)
  | cons first rest =>
      refine ⟨?_, ?_⟩
      · exact List.forall_mem_append.mpr
          ⟨once.each, List.forall_mem_singleton.mpr (.inl rfl)⟩
      · exact List.forall_mem_append.mpr ⟨once.others, List.forall_mem_singleton.mpr rfl⟩

end SurfacesOnce

namespace WatchedBuffers

variable {K P : Type} {system next later : WatchedBuffers K P}

/-- What the close calls of a buffer have returned, in the order of their returns. -/
def outcomesOf (number : Nat) (system : WatchedBuffers K P) : List (Except BufferError Unit) :=
  (system.returns.filter fun result => result.1 = number).map Prod.snd

theorem mem_outcomesOf {number : Nat} {outcome : Except BufferError Unit} :
    outcome ∈ system.outcomesOf number ↔ (number, outcome) ∈ system.returns := by
  simp [outcomesOf]

theorem outcomesOf_congr (number : Nat) (returns : next.returns = system.returns) :
    next.outcomesOf number = system.outcomesOf number := by
  rw [outcomesOf, outcomesOf, returns]

theorem outcomesOf_append {number : Nat} {outcome : Except BufferError Unit}
    (returns : next.returns = system.returns ++ [(number, outcome)]) :
    next.outcomesOf number = system.outcomesOf number ++ [outcome] := by
  simp [outcomesOf, returns]

theorem outcomesOf_other {number other : Nat} {outcome : Except BufferError Unit}
    (returns : next.returns = system.returns ++ [(other, outcome)]) (differs : other ≠ number) :
    next.outcomesOf number = system.outcomesOf number := by
  simp [outcomesOf, returns, differs]

/-! ## Slots -/

/-- A buffer stays, and its slot is at most emptied. -/
theorem Step.slot (step : Step system next) {number : Nat} {buffer : RequestBuffer K P}
    (found : system.buffers number = some buffer) :
    ∃ other, next.buffers number = some other ∧
      (other.registration = buffer.registration ∨ other.registration = none) := by
  have stays : ∃ other, system.buffers number = some other ∧
      (other.registration = buffer.registration ∨ other.registration = none) :=
    ⟨buffer, found, .inl rfl⟩
  have withBuffer {member : Nat} {new : RequestBuffer K P}
      (same : system.SameSlots (system.withBuffer member new)) :
      ∃ other, (system.withBuffer member new).buffers number = some other ∧
        (other.registration = buffer.registration ∨ other.registration = none) := by
    obtain ⟨other, there, slot⟩ := same.buffers number buffer found
    exact ⟨other, there, .inl slot⟩
  cases step with
  | thread step =>
      cases step with
      | poll now admitted =>
          unfold WatchedBuffers.poll
          split
          · exact stays
          next polled there =>
            have kept : { polled with
              timer := (polled.timer.pollExpired now).2 }.registration = polled.registration := rfl
            exact withBuffer (.replace there kept)
      | _ => exact stays
  | caller step =>
      cases step with
      | openBuffer settings handler now unused here =>
          simp only [WatchedBuffers.openBuffer]
          split
          · exact stays
          next opened _ => exact withBuffer (.add unused opened)
      | operate there slot => exact withBuffer (.replace there slot)
      | @take taken own handle there free full =>
          by_cases same : number = taken
          · subst same
            exact ⟨_, withBuffer_same number _ system, .inr rfl⟩
          · exact ⟨buffer, (withBuffer_other same _ system).trans found, .inl rfl⟩
      | endClosing silenced =>
          simp only [WatchedBuffers.endClosing]
          split <;> exact stays
      | _ => exact stays

/-- Nothing fills a slot that is empty. -/
theorem Step.isEmptied (step : Step system next) {number : Nat}
    (emptied : system.IsEmptied number) : next.IsEmptied number := by
  obtain ⟨buffer, found, empty⟩ := emptied
  obtain ⟨other, there, same | gone⟩ := step.slot found
  · exact ⟨other, there, same.trans empty⟩
  · exact ⟨other, there, gone⟩

theorem isEmptied_of_run (run : Relation.ReflTransGen Step system later) {number : Nat}
    (emptied : system.IsEmptied number) : later.IsEmptied number := by
  induction run with
  | refl => exact emptied
  | tail _ step ih => exact step.isEmptied ih

/-! ## Returns -/

/-- As long as the claim of a buffer is not used up, no close call has returned. -/
theorem IsSound.outcomesOf_eq_nil (sound : system.IsSound) {number : Nat}
    (unfinished : ¬ system.IsClosed number) : system.outcomesOf number = [] := by
  rw [List.eq_nil_iff_forall_not_mem]
  intro outcome returned
  exact unfinished (sound.closed number outcome (mem_returns.mp (mem_outcomesOf.mp returned)))

theorem not_isClosed_of_closing {number : Nat} {stage : ClosingStage}
    (onItsWay : system.closing number = some stage) : ¬ system.IsClosed number := by
  rintro ⟨_, free⟩
  cases free.symm.trans onItsWay

/-- How a step may add to the outcomes of a buffer.  Either the call with the claim returns, and
tells whether the ticker was shut down; or a call returns that has found the slot empty. -/
theorem Move.outcomesOf (move : system.Move next) (number : Nat) :
    next.outcomesOf number = system.outcomesOf number ∨
      ∃ outcome, next.outcomesOf number = system.outcomesOf number ++ [outcome] ∧
        ((∃ handle, system.closing number = some (.silenced handle)) ∧
            outcome = (if system.ticker.stopRequested then .error (.close .shutdown)
              else .ok ()) ∨
          system.IsClosed number ∧ outcome = .ok ()) := by
  cases move with
  | keep claims schedule returns => exact .inl (outcomesOf_congr number returns)
  | round claims running bookings returns => exact .inl (outcomesOf_congr number returns)
  | enter _ _ _ _ _ _ _ _ _ returns => exact .inl (outcomesOf_congr number returns)
  | again other closed claims schedule returns =>
      by_cases same : other = number
      · subst same
        exact .inr ⟨_, outcomesOf_append returns, .inr ⟨closed, rfl⟩⟩
      · exact .inl (outcomesOf_other returns same)
  | leave other handle silenced claims running schedule returns =>
      by_cases same : other = number
      · subst same
        exact .inr ⟨_, outcomesOf_append returns, .inl ⟨⟨handle, silenced⟩, by simp [running]⟩⟩
      · exact .inl (outcomesOf_other returns same)
  | abandon other handle silenced claims stopped schedule returns =>
      by_cases same : other = number
      · subst same
        exact .inr ⟨_, outcomesOf_append returns, .inl ⟨⟨handle, silenced⟩, by simp [stopped]⟩⟩
      · exact .inl (outcomesOf_other returns same)

theorem Move.surfacesOnce (move : system.Move next) (sound : system.IsSound) {number : Nat}
    (once : SurfacesOnce (system.outcomesOf number)) :
    SurfacesOnce (next.outcomesOf number) := by
  rcases move.outcomesOf number with same | ⟨outcome, more, ⟨⟨handle, silenced⟩, result⟩ | ⟨_, rfl⟩⟩
  · rwa [same]
  · rw [more, sound.outcomesOf_eq_nil (not_isClosed_of_closing silenced)]
    refine .singleton ?_
    rw [result]
    split
    · exact .inr rfl
    · exact .inl rfl
  · rw [more]
    exact once.append_ok

theorem Reachable.surfacesOnce (reached : Reachable system) (number : Nat) :
    SurfacesOnce (system.outcomesOf number) := by
  induction reached with
  | start name => exact .nil
  | step before step once =>
      exact (step.move before.isBooked before.isSound).surfacesOnce before.isSound once

/-! ## Calls get to their ends -/

theorem endClosing_returns (number : Nat) (handle : RegistrationHandle)
    (system : WatchedBuffers K P) :
    ∃ outcome, (system.endClosing number handle).outcomesOf number =
      system.outcomesOf number ++ [outcome] := by
  obtain ⟨outcome, more⟩ := endClosing_history number handle system
  exact ⟨outcome, outcomesOf_append (by simp [returns, more])⟩

/-- Unless the thread is at a check of the claim, the close call whose turn it is gets to its end,
whatever the threads have done before. -/
theorem close_returns {number : Nat} {buffer : RequestBuffer K P}
    (found : system.buffers number = some buffer)
    (unchecked : ∀ id, system.claimOf number = some id → ¬ system.IsChecking id) :
    ∃ next outcome, Relation.ReflTransGen CallerStep system next ∧
      next.outcomesOf number = system.outcomesOf number ++ [outcome] := by
  have ends {system : WatchedBuffers K P} {handle : RegistrationHandle}
      (silenced : system.closing number = some (.silenced handle)) :
      ∃ next outcome, CallerStep system next ∧
        next.outcomesOf number = system.outcomesOf number ++ [outcome] := by
    obtain ⟨outcome, more⟩ := endClosing_returns number handle system
    exact ⟨_, outcome, .endClosing silenced, more⟩
  cases onItsWay : system.closing number with
  | none =>
      cases slot : buffer.registration with
      | none =>
          refine ⟨_, .ok (), .single (.closeEmpty found onItsWay slot), ?_⟩
          exact outcomesOf_append (returns_note _ _ _)
      | some handle =>
          have claim : system.claimOf number = some handle.id := by
            rw [claimOf_of_free onItsWay found, slot]
            rfl
          obtain ⟨outcome, more⟩ := endClosing_returns number handle
            ({ system with ticker := system.ticker.silence handle.id }.withBuffer number
              { buffer with registration := none })
          exact ⟨_, outcome, claim_run found onItsWay slot (unchecked handle.id claim), more⟩
  | some stage =>
      cases stage with
      | taken handle =>
          have silences := CallerStep.silence onItsWay
            (unchecked handle.id (claimOf_of_closing onItsWay))
          obtain ⟨next, outcome, step, more⟩ := ends (withClosing_same number _ _)
          exact ⟨next, outcome, .tail (.single silences) step, more⟩
      | silenced handle =>
          obtain ⟨next, outcome, step, more⟩ := ends onItsWay
          exact ⟨next, outcome, .single step, more⟩

/-- A close call tells of a failure only if it has taken the claim from the slot and found the
ticker shut down; every other close call of the buffer succeeds.  The slot is empty from the first
return on, and each close call gets to its end unless a check of the claim holds it up.  A call
that nobody disturbs leaves behind what closing the slot in one operation leaves behind. -/
theorem reachable_close_outcomes (reached : Reachable system) (number : Nat) :
    (∀ outcome ∈ system.outcomesOf number,
      outcome = .ok () ∨ outcome = .error (.close .shutdown)) ∧
    (∀ outcome ∈ (system.outcomesOf number).tail, outcome = .ok ()) ∧
    (∀ next outcome, Step system next →
      next.outcomesOf number = system.outcomesOf number ++ [outcome] →
      ((∃ handle, system.closing number = some (.silenced handle)) ∧
          system.outcomesOf number = [] ∧
          outcome = if system.ticker.stopRequested then .error (.close .shutdown) else .ok ()) ∨
        system.IsClosed number ∧ outcome = .ok ()) ∧
    (∀ later, system.outcomesOf number ≠ [] ∨ system.closing number ≠ none →
      Relation.ReflTransGen Step system later →
      ∃ buffer, later.buffers number = some buffer ∧ buffer.isRegistered = false) ∧
    (∀ buffer, system.buffers number = some buffer →
      (∀ id, system.claimOf number = some id → ¬ system.IsChecking id) →
      ∃ next outcome, Relation.ReflTransGen CallerStep system next ∧
        next.outcomesOf number = system.outcomesOf number ++ [outcome]) ∧
    ∀ buffer, system.buffers number = some buffer → system.closing number = none →
      (∀ handle, buffer.registration = some handle → ¬ system.IsChecking handle.id) →
      let closing := (Closing.ofSlot buffer.registration system.ticker?).value
      ∃ ticker, (∀ after, closing.ticker = some after → ticker = after) ∧
        Relation.ReflTransGen CallerStep system
          (({ system with ticker }.withBuffer number
            { buffer with registration := closing.slot }).note
              (.closed number closing.outcome)) := by
  have sound := reached.isSound
  obtain ⟨each, others⟩ := reached.surfacesOnce number
  refine ⟨each, others, ?_, ?_, fun buffer found => close_returns found,
    fun buffer found free => close_run found free⟩
  · intro next outcome step returned
    rcases (step.move reached.isBooked sound).outcomesOf number with same | ⟨result, more, how⟩
    · simp [same] at returned
    · obtain rfl : result = outcome :=
        List.singleton_inj.mp (List.append_cancel_left (more.symm.trans returned))
      refine how.imp_left fun ⟨⟨handle, silenced⟩, told⟩ => ⟨⟨handle, silenced⟩, ?_, told⟩
      exact sound.outcomesOf_eq_nil (not_isClosed_of_closing silenced)
  · intro later begun run
    have emptied : system.IsEmptied number := by
      rcases begun with returned | onItsWay
      · by_contra full
        exact returned (sound.outcomesOf_eq_nil fun closed => full closed.1)
      · obtain ⟨stage, onItsWay⟩ := Option.ne_none_iff_exists'.mp onItsWay
        exact sound.emptied number stage onItsWay
    obtain ⟨buffer, found, empty⟩ := isEmptied_of_run run emptied
    exact ⟨buffer, found, by simp [RequestBuffer.isRegistered, empty]⟩

/-- Two buffers are open.  A close call of the first has taken the claim when another thread stops
the ticker.  The call fails; the owner drops the buffer next, and that call finds nothing to do. -/
theorem reachable_close_outcomes_twice :
    ∃ silenced failed again : WatchedBuffers Nat String,
      Reachable silenced ∧ silenced.closing 7 = some (.silenced ⟨tickerNumber, 1⟩) ∧
      silenced.bookings.map Booking.id = [1, 2] ∧
      Step silenced failed ∧ Step failed again ∧
      failed.outcomesOf 7 = [.error (.close .shutdown)] ∧
      again.outcomesOf 7 = [.error (.close .shutdown), .ok ()] ∧
      (∀ outcome ∈ (again.outcomesOf 7).tail, outcome = .ok ()) ∧
      (∃ buffer, again.buffers 7 = some buffer ∧ buffer.isRegistered = false) ∧
      ∃ next outcome, Relation.ReflTransGen CallerStep again next ∧
        next.outcomesOf 8 = again.outcomesOf 8 ++ [outcome] := by
  let settings : BufferSettings := { timeout := 100, interval := 10 }
  let handle : RegistrationHandle := ⟨tickerNumber, 1⟩
  let started : WatchedBuffers Nat String := { ticker := (Ticker.start "timeouts").value }
  let first := started.openBuffer 7 settings {} 0
  let second := first.openBuffer 8 settings {} 0
  let taken := (second.withBuffer 7 (.empty settings none)).withClosing 7 (some (.taken handle))
  let stopped := { taken with ticker := taken.ticker.requestStop }
  let silenced := { stopped with ticker := stopped.ticker.silence 1 }.withClosing 7
    (some (.silenced handle))
  let failed := silenced.endClosing 7 handle
  let again := failed.note (.closed 7 (.ok ()))
  have idle (system : WatchedBuffers Nat String) (between : system.check = none) (id : Nat) :
      ¬ system.IsChecking id := by
    rintro ⟨check, checking, _⟩
    cases between.symm.trans checking
  have reached : Reachable silenced := by
    have opens : Step started first := .caller (.openBuffer settings {} 0 rfl rfl)
    have opensOther : Step first second := .caller (.openBuffer settings {} 0 rfl rfl)
    have full : second.buffers 7 = some (.empty settings (some handle)) := rfl
    have takes : Step second taken := .caller (.take full rfl rfl)
    have stops : Step taken stopped := .caller .requestStop
    have silences : Step stopped silenced := .caller (.silence rfl (idle stopped rfl 1))
    exact .step (.step (.step (.step (.step (.start _) opens) opensOther) takes) stops) silences
  have fails : Step silenced failed := .caller (.endClosing rfl)
  have emptied : failed.buffers 7 = some (.empty settings none) := rfl
  have drops : Step failed again := .caller (.closeEmpty emptied rfl rfl)
  have ended : Reachable again := .step (.step reached fails) drops
  have both : again.outcomesOf 7 = [.error (.close .shutdown), .ok ()] := rfl
  obtain ⟨_, others, _, unregistered, _⟩ := reachable_close_outcomes ended 7
  obtain ⟨_, _, _, _, returns, _⟩ := reachable_close_outcomes ended 8
  have unregistered := unregistered again (.inl (by rw [both]; exact List.cons_ne_nil _ _)) .refl
  have other := returns (.empty settings (some ⟨tickerNumber, 2⟩)) rfl
    fun id _ => idle again rfl id
  exact ⟨silenced, failed, again, reached, rfl, rfl, fails, drops, rfl, both, others, unregistered,
    other⟩

end WatchedBuffers

end KeyedBatching
