import KeyedBatching.Proofs.ClosingInvariant

/-!
# Closed buffers are silent

Once a close call of a buffer has returned, the handler of the buffer is not
running and is never called again, whatever the call returned and whatever the
thread of the ticker had collected before.  Close calls may be made on any
thread, in a handler too; one that is made in the buffer's own handler waits for
that handler and so does not return.
-/

namespace KeyedBatching

namespace WatchedBuffers

variable {K P : Type} {system next later : WatchedBuffers K P}

/-! ## Reachable states -/

theorem isSound_start (name : String) :
    IsSound ({ ticker := (Ticker.start name).value } : WatchedBuffers K P) := by
  constructor
  · rintro registration (scheduled | collected | ⟨stage, checked⟩)
    · cases scheduled
    · cases collected
    · cases checked
  · exact fun registration stage checked => by cases checked
  · exact fun check calling => by cases calling
  · exact fun number stage onItsWay => by cases onItsWay
  · exact fun number outcome returned => by cases returned

theorem Step.isSound (step : Step system next) (sound : system.IsSound) : next.IsSound := by
  cases step with
  | thread step => exact sound.threadStep step
  | caller step => exact sound.callerStep step

theorem Reachable.isSound (reached : Reachable system) : system.IsSound := by
  induction reached with
  | start name => exact isSound_start name
  | step _ step sound => exact step.isSound sound

/-- No registration of a closed buffer gets past the first look of a check. -/
theorem IsSound.not_live (sound : system.IsSound) {registration : Registration}
    {stage : CheckStage} (checked : system.check = some ⟨registration, stage⟩)
    (closed : system.IsClosed registration.timer) : stage.isLive = false := by
  have known : system.Knows registration := .inr (.inr ⟨stage, checked⟩)
  rcases sound.claimed registration known with silenced | claims
  · by_contra live
    exact sound.live registration stage checked (by simpa using live) silenced
  · exact absurd claims closed.not_claims

theorem IsSound.not_running (sound : system.IsSound) {number : Nat}
    (closed : system.IsClosed number) : ¬ system.IsRunning number := by
  rintro ⟨registration, generation, ends, collected, handling, rfl⟩
  have checked := sound.calling ⟨registration, .calling⟩ (by rw [handling, underway])
  cases sound.not_live checked closed

theorem poll_history (registration : Registration) (now : Instant)
    (system : WatchedBuffers K P) : (system.poll registration now).history = system.history := by
  unfold WatchedBuffers.poll
  split <;> rfl

theorem openBuffer_history (number : Nat) (settings : BufferSettings) (handler : Handler)
    (now : Instant) (system : WatchedBuffers K P) :
    (system.openBuffer number settings handler now).history = system.history := by
  simp only [WatchedBuffers.openBuffer]
  split <;> rfl

theorem endClosing_history (number : Nat) (handle : RegistrationHandle)
    (system : WatchedBuffers K P) :
    ∃ outcome, (system.endClosing number handle).history =
      system.history ++ [.closed number outcome] := by
  simp only [WatchedBuffers.endClosing]
  split <;> exact ⟨_, rfl⟩

/-- A step is remembered only if a close call returns, or if the thread calls the handler of a
timer that has reported a window. -/
theorem Step.history (step : Step system next) :
    next.history = system.history ∨
      (∃ number outcome, next.history = system.history ++ [.closed number outcome]) ∨
      ∃ registration generation, system.check = some ⟨registration, .expired generation⟩ ∧
        next.history = system.history ++ [.called registration.timer generation] := by
  cases step with
  | thread step =>
      cases step with
      | poll now admitted => exact .inl (poll_history _ _ _)
      | call ends expired serving => exact .inr (.inr ⟨_, _, expired, rfl⟩)
      | _ => exact .inl rfl
  | caller step =>
      cases step with
      | openBuffer settings handler now => exact .inl (openBuffer_history _ _ _ _ _)
      | closeEmpty => exact .inr (.inl ⟨_, _, rfl⟩)
      | endClosing => exact .inr (.inl ⟨_, endClosing_history _ _ _⟩)
      | _ => exact .inl rfl

/-- A step away from a closed buffer forgets no close call and calls no handler of the buffer. -/
theorem IsSound.stays_silent (sound : system.IsSound) {number : Nat}
    {outcome : Except BufferError Unit} (returned : .closed number outcome ∈ system.history)
    (step : Step system next) :
    .closed number outcome ∈ next.history ∧ next.callsOf number = system.callsOf number := by
  have closed := sound.closed number outcome returned
  rcases step.history with same | ⟨other, result, more⟩ | ⟨registration, generation, expired, more⟩
  · exact ⟨by rwa [same], by rw [callsOf, callsOf, same]⟩
  · refine ⟨by rw [more]; exact List.mem_append_left _ returned, ?_⟩
    simp [callsOf, more]
  · refine ⟨by rw [more]; exact List.mem_append_left _ returned, ?_⟩
    have differs : registration.timer ≠ number := by
      rintro rfl
      cases sound.not_live expired closed
    simp [callsOf, more, differs]

/-- Once a close call of a buffer has returned, the handler of the buffer is not running and is
never called again, whatever the call returned and whatever the thread has collected. -/
theorem reachable_closed_silent (reached : Reachable system) {number : Nat}
    {outcome : Except BufferError Unit} (returned : .closed number outcome ∈ system.history)
    (run : Relation.ReflTransGen Step system later) :
    ¬ later.IsRunning number ∧ later.callsOf number = system.callsOf number := by
  have holds : later.IsSound ∧ .closed number outcome ∈ later.history ∧
      later.callsOf number = system.callsOf number := by
    induction run with
    | refl => exact ⟨reached.isSound, returned, rfl⟩
    | tail _ step ih =>
        obtain ⟨sound, before, same⟩ := ih
        obtain ⟨after, silent⟩ := sound.stays_silent before step
        exact ⟨step.isSound sound, after, silent.trans same⟩
  obtain ⟨sound, after, same⟩ := holds
  exact ⟨sound.not_running (sound.closed number outcome after), same⟩

/-- The handler was called for a first window.  The thread has collected the registration again,
and the second window has expired, when a closer takes the claim, another thread stops the
ticker, and the close call fails.  The thread passes the registration over. -/
theorem reachable_closed_silent_collected :
    ∃ closed passed : WatchedBuffers Nat String,
      Reachable closed ∧ .closed 7 (.error (.close .shutdown)) ∈ closed.history ∧
      Relation.ReflTransGen Step closed passed ∧
      closed.ticker.activity = .serving [⟨1, 7, 7, {}⟩] ∧ passed.ticker.activity = .serving [] ∧
      (∃ buffer, closed.buffers 7 = some buffer ∧ (buffer.timer.pollExpired 300).1 = some 1) ∧
      closed.callsOf 7 = [0] ∧ ¬ passed.IsRunning 7 ∧ passed.callsOf 7 = closed.callsOf 7 := by
  let settings : BufferSettings := { timeout := 100, interval := 10 }
  let registration : Registration := ⟨1, 7, 7, {}⟩
  let handle : RegistrationHandle := ⟨tickerNumber, 1⟩
  let request : Request Nat String := ⟨3, .usual, "held"⟩
  let empty : RequestBuffer Nat String := .empty settings (some handle)
  -- The first window, up to the return of the handler.
  let started : WatchedBuffers Nat String := { ticker := (Ticker.start "timeouts").value }
  let opened := started.openBuffer 7 settings {} 0
  let filled := opened.withBuffer 7 (empty.enqueueActive 0 request).value
  let collected := { filled with ticker := filled.ticker.beginRound 150 }
  let locked := { collected with
    ticker := { collected.ticker with activity := .serving [] }
    check := some ⟨registration, .locked⟩ }
  let allowed := { locked with check := some ⟨registration, .admitted⟩ }
  let polled := allowed.poll registration 150
  let called := { polled with
    ticker := (polled.ticker.beginHandling registration 0 160 []).value
    check := some ⟨registration, .calling⟩ }.note (.called 7 0)
  let left := { called with
    ticker := (called.ticker.finishHandling registration 0 false []).value
    check := some ⟨registration, .leaving⟩ }
  let unlocked := { left with check := none }
  have begun : Reachable collected := by
    have opens : Step started opened := .caller (.openBuffer settings {} 0 rfl rfl)
    have fills : Step opened filled := .caller (.operate rfl rfl)
    have collects : Step filled collected := .thread (.beginRound 150 rfl rfl)
    exact .step (.step (.step (.start _) opens) fills) collects
  have handled : Reachable unlocked := by
    have locks : Step collected locked := .thread (.lock rfl rfl)
    have allows : Step locked allowed := .thread (.allow rfl (by decide))
    have polls : Step allowed polled := .thread (.poll 150 rfl)
    have calls : Step polled called := .thread (.call 160 rfl rfl)
    have leaves : Step called left := .thread (.leave false rfl)
    have unlocks : Step left unlocked := .thread (.unlock rfl)
    exact .step (.step (.step (.step (.step (.step begun locks) allows) polls) calls) leaves)
      unlocks
  -- The second window, up to the return of the close call.
  let emptied := { empty with timer := { empty.timer with current := 1, reported := 1 } }
  let second := (emptied.enqueueActive 170 request).value
  let refilled := unlocked.withBuffer 7 second
  let again := { refilled with ticker := refilled.ticker.beginRound 300 }
  let taken := (again.withBuffer 7 { second with registration := none }).withClosing 7
    (some (.taken handle))
  let stopped := { taken with ticker := taken.ticker.requestStop }
  let silenced := { stopped with ticker := stopped.ticker.silence 1 }.withClosing 7
    (some (.silenced handle))
  let closed := silenced.endClosing 7 handle
  have unchecked : ¬ stopped.IsChecking 1 := by
    rintro ⟨check, checking, _⟩
    cases checking
  have reached : Reachable closed := by
    have refills : Step unlocked refilled := .caller (.operate rfl rfl)
    have collects : Step refilled again := .thread (.beginRound 300 rfl rfl)
    have takes : Step again taken := .caller (.take rfl rfl rfl)
    have stops : Step taken stopped := .caller .requestStop
    have silences : Step stopped silenced := .caller (.silence rfl unchecked)
    have ends : Step silenced closed := .caller (.endClosing rfl)
    exact .step (.step (.step (.step (.step (.step handled refills) collects) takes) stops)
      silences) ends
  have returned : .closed 7 (.error (.close .shutdown)) ∈ closed.history :=
    List.mem_append_right _ (List.mem_singleton_self _)
  let relocked := { closed with
    ticker := { closed.ticker with activity := .serving [] }
    check := some ⟨registration, .locked⟩ }
  let passed := { relocked with check := none }
  have run : Relation.ReflTransGen Step closed passed := by
    have locks : Step closed relocked := .thread (.lock rfl rfl)
    have passes : Step relocked passed := .thread (.skip rfl (by decide))
    exact .tail (.single locks) passes
  obtain ⟨quiet, same⟩ := reachable_closed_silent reached returned run
  exact ⟨closed, passed, reached, returned, run, rfl, rfl, ⟨_, rfl, rfl⟩, rfl, quiet, same⟩

end WatchedBuffers

end KeyedBatching
