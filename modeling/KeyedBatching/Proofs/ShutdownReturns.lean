import KeyedBatching.Proofs.ShutdownInvariant

/-!
# What goes on after a shutdown has returned

Once a call of another thread has returned, the ticker's thread begins no further
round.  If no handler has dropped the thread's handle, the call has waited for
the thread, and all is over.  But a handler that shuts its own ticker down drops
the handle.  Then other threads find nothing to wait for, and their calls return
while that handler still runs, and before the handlers of the rest of its round
are called.
-/

namespace KeyedBatching

namespace StoppableTicker

variable {ι K P : Type} [DecidableEq ι] {system next later : StoppableTicker ι K P}

theorem Reachable.run (reached : Reachable system)
    (run : Relation.ReflTransGen Step system later) : Reachable later := by
  induction run with
  | refl => exact reached
  | tail _ step ih => exact ih.step step

theorem run_of_stop {party : Party ι}
    (run : Relation.ReflTransGen (StopStep party) system later) :
    Relation.ReflTransGen Step system later :=
  run.lift id fun _ _ step => .stop party step

theorem Step.history_subset (step : Step system next) : system.history ⊆ next.history := by
  cases step with
  | stop party step =>
      cases step with
      | detach => exact List.subset_append_left _ _
      | leave => exact List.subset_append_left _ _
      | _ => exact List.Subset.refl _
  | _ => exact List.Subset.refl _

/-- Asked to stop, the thread calls no more handlers than those of its round. -/
theorem Step.usesUp (step : Step system next) (stopped : system.ticker.stopRequested = true) :
    system.base.UsesUp next.base := by
  cases step with
  | lockSchedule between free => exact .silent rfl (List.Sublist.refl _)
  | beginRound now between held =>
      refine .silent rfl ?_
      have ends := Ticker.beginRound_stopped now stopped
      simp [WatchedBuffers.pending, withTicker, between.1, ends, Activity.collected]
  | work within quiet step => exact step.usesUp within
  | stop party step =>
      have keeps := step.keeps
      refine .silent ?_ ?_
      · cases step <;> rfl
      · rw [WatchedBuffers.pending_congr keeps.activity keeps.check]
  | bystander step asked taken free =>
      obtain ⟨activity, check, starts⟩ := step.frame
      refine .silent starts ?_
      rw [WatchedBuffers.pending_congr activity check]

/-- A thread that has ended calls nothing any more. -/
theorem Step.stays_ended (step : Step system next) (sound : system.IsSound)
    (ended : system.ticker.hasEnded = true) : next.ticker.hasEnded = true := by
  cases step with
  | lockSchedule between free => exact ended
  | beginRound now between held => simp [Ticker.hasEnded, between.2] at ended
  | work within quiet step =>
      obtain ⟨runs, _⟩ := step.alive within sound.ended
      cases runs.symm.trans ended
  | stop party step => rw [Ticker.hasEnded_congr step.keeps.activity, ended]
  | bystander step asked taken free => rw [Ticker.hasEnded_congr step.frame.1, ended]

omit [DecidableEq ι] in
theorem IsSound.pending_of_ended (sound : system.IsSound)
    (ended : system.ticker.hasEnded = true) : system.base.pending = [] := by
  have none : system.ticker.activity.collected = [] := by
    cases activity : system.ticker.activity <;> simp [Ticker.hasEnded, activity] at ended <;> rfl
  rw [WatchedBuffers.pending, sound.ended ended, none]
  rfl

omit [DecidableEq ι] in
theorem not_isRunning_of_ended
    (ended : system.ticker.hasEnded = true) (number : Nat) :
    ¬ system.base.IsRunning number := by
  rintro ⟨registration, generation, ends, collected, handling, own⟩
  simp [Ticker.hasEnded, handling] at ended

/-- Once a call of another thread has returned, no handler is called but those of the round that
the thread is in.  Unless a handler had dropped the handle before, the thread has ended, no
handler runs, and none is called any more. -/
theorem reachable_stopped_round (reached : Reachable system) {name : ι}
    (returned : .returned (.caller name) ∈ system.history)
    (run : Relation.ReflTransGen Step system later) :
    system.base.UsesUp later.base ∧
    (.detached ∉ system.history → system.ticker.hasEnded = true ∧
      (∀ number, ¬ later.base.IsRunning number) ∧ later.base.starts = system.base.starts) := by
  have sound := reached.isSound
  obtain ⟨_, gone⟩ := sound.returned _ returned
  have holds : later.IsSound ∧ .returned (.caller name) ∈ later.history ∧
      (system.ticker.hasEnded = true → later.ticker.hasEnded = true) ∧
      system.base.UsesUp later.base := by
    -- The call stays returned, so every step of the run comes after the request to stop.
    induction run with
    | refl => exact ⟨sound, returned, id, .silent rfl (List.Sublist.refl _)⟩
    | tail _ step ih =>
        obtain ⟨sound, returned, ended, usesUp⟩ := ih
        obtain ⟨stopped, _⟩ := sound.returned _ returned
        exact ⟨step.isSound sound, step.history_subset returned,
          fun dead => step.stays_ended sound (ended dead), usesUp.trans (step.usesUp stopped)⟩
  obtain ⟨_, _, ended, usesUp⟩ := holds
  refine ⟨usesUp, ?_⟩
  intro undetached
  have dead : system.ticker.hasEnded = true :=
    (sound.taken gone).resolve_right undetached
  refine ⟨dead, not_isRunning_of_ended (ended dead), ?_⟩
  obtain ⟨started, starts, within⟩ := usesUp
  rw [sound.pending_of_ended dead, List.sublist_nil] at within
  rw [starts, (List.append_eq_nil_iff.mp within).1, List.map_nil, List.append_nil]

/-- A thread waits for an idle ticker to end.  After that the ticker refuses a buffer. -/
theorem reachable_stopped_round_idle :
    ∃ system later : StoppableTicker String Nat String, Reachable system ∧
      .returned (.caller "owner") ∈ system.history ∧ .detached ∉ system.history ∧
      Relation.ReflTransGen Step system later ∧ system.ticker.hasEnded = true ∧
      (∀ number, ¬ later.base.IsRunning number) ∧ later.base.starts = system.base.starts := by
  let owner : Party String := .caller "owner"
  let started : StoppableTicker String Nat String :=
    { base := { ticker := (Ticker.start "timeouts").value } }
  let claimed := { started.withTicker started.ticker.requestStop with
    handleHolder := some owner }.withCall owner (some .claimed)
  let joining := claimed.withCall owner (some .joining)
  let locked := { joining with scheduleHolder := some .thread }
  let ended := { locked.withTicker (locked.ticker.beginRound 10) with scheduleHolder := none }
  let leaving := (ended.withTicker ended.ticker.conclude.value).withCall owner (some .leaving)
  let returned :=
    ({ leaving with handleHolder := none }.withCall owner none).note (.returned owner)
  let settings : BufferSettings := { timeout := 100, interval := 10 }
  let refused := { returned with base := returned.base.openBuffer 7 settings {} 20 }
  have claims : Relation.ReflTransGen Step started claimed :=
    run_of_stop (claim_run rfl (fun inside => absurd inside (by decide)) rfl rfl)
  have joins : Step claimed joining := .stop owner (.join rfl rfl (by decide))
  have locks : Step joining locked := .lockSchedule ⟨rfl, rfl⟩ rfl
  have ends : Step locked ended := .beginRound 10 ⟨rfl, rfl⟩ rfl
  have concludes : Step ended leaving := .stop owner (.conclude rfl rfl)
  have leaves : Step leaving returned := .stop owner (.leave rfl)
  have refuses : Step returned refused :=
    .bystander (.openBuffer settings {} 20 rfl rfl) rfl rfl (.inr rfl)
  have waiting : Reachable joining := .step ((Reachable.start _).run claims) joins
  have reached : Reachable returned :=
    .step (.step (.step (.step waiting locks) ends) concludes) leaves
  have owned : .returned (.caller "owner") ∈ returned.history := List.mem_singleton_self _
  have undetached : .detached ∉ returned.history := by decide
  obtain ⟨_, quiet⟩ := reachable_stopped_round reached owned (.single refuses)
  exact ⟨returned, refused, reached, owned, undetached, .single refuses, quiet undetached⟩

/-! ## A handler that shuts its ticker down -/

/-- When a handler has shut the ticker down, the next call of another thread returns, and the
handler still runs. -/
theorem detach_run (system : StoppableTicker ι K P) (name : ι)
    (quiet : system.calls .thread = none) (idle : system.calls (.caller name) = none)
    (handling : system.base.IsHandling)
    (scheduleFree : system.scheduleHolder = none) (handleFree : system.handleHolder = none) :
    ∃ history, .returned (.caller name) ∈ history ∧ Relation.ReflTransGen Step system
      { system.withTicker system.ticker.stopFromHandler.value with history } := by
  obtain ⟨middle, detaches⟩ := stopFromHandler_run quiet handling scheduleFree handleFree
  let stopped := system.withTicker system.ticker.stopFromHandler.value
  let detached : StoppableTicker ι K P := { stopped with history := middle }
  have gone : detached.ticker.joinable = false := by
    simp [detached, stopped, withTicker, Ticker.stopFromHandler]
  have returns : Relation.ReflTransGen (StopStep (.caller name)) detached
      ((detached.withTicker detached.ticker.requestStop.conclude.value).note
        (.returned (.caller name))) :=
    shutdown_run idle scheduleFree handleFree (by simp [gone])
  have same : detached.ticker.requestStop.conclude.value = detached.ticker := by
    simp [detached, stopped, withTicker, Ticker.stopFromHandler, Ticker.conclude_value,
      Ticker.requestStop]
  rw [same] at returns
  refine ⟨middle ++ [.returned (.caller name)], by simp, ?_⟩
  exact (run_of_stop detaches).trans (run_of_stop returns)

/-- Asked to stop or not, the thread goes on to the next handler of its round. -/
theorem next_handler_run (system : StoppableTicker ι K P) {registration coming : Registration}
    {generation reported : Nat} {ends now : Instant} {rest : List Registration}
    {buffer : RequestBuffer K P}
    (quiet : system.calls .thread = none)
    (handling : system.ticker.activity = .handling registration generation ends (coming :: rest))
    (live : coming.id ∉ system.ticker.cancelled)
    (found : system.base.buffers coming.timer = some buffer)
    (expired : (buffer.timer.pollExpired now).1 = some reported) :
    ∃ next, Relation.ReflTransGen Step system next ∧ next.base.IsRunning coming.timer ∧
      next.base.starts = system.base.starts ++ [coming.timer] := by
  let left := { system.base with
    ticker := { system.ticker with activity := .serving (coming :: rest) }
    check := some ⟨registration, .leaving⟩ }
  let unlocked := { left with check := none }
  let locked := { unlocked with
    ticker := { unlocked.ticker with activity := .serving rest }
    check := some ⟨coming, .locked⟩ }
  let allowed := { locked with check := some ⟨coming, .admitted⟩ }
  let polled := allowed.poll coming now
  have reports : polled.check = some ⟨coming, .expired reported⟩ := by
    simp [polled, allowed, locked, unlocked, left, WatchedBuffers.poll, found, expired]
  have serving : polled.ticker.activity = .serving rest :=
    congrArg Ticker.activity (WatchedBuffers.poll_ticker coming now allowed)
  have running : system.base.IsHandling :=
    ⟨_, registration, generation, ends, coming :: rest, handling, rfl⟩
  have inRound {base next : WatchedBuffers K P} (within : ¬ base.IsBetween)
      (step : base.ThreadStep next) : Step { system with base } { system with base := next } :=
    .work within quiet step
  have leaves : Step system { system with base := left } := by
    have step := WatchedBuffers.ThreadStep.leave false handling
    rw [Ticker.finishHandling_value] at step
    exact inRound (fun between => between.not_isHandling running) step
  have unlocks := inRound (by rintro ⟨⟨⟩, _⟩) (.unlock rfl : left.ThreadStep unlocked)
  have locks := inRound (by rintro ⟨_, ⟨⟩⟩) (.lock rfl rfl : unlocked.ThreadStep locked)
  have allows := inRound (by rintro ⟨⟨⟩, _⟩) (.allow rfl live : locked.ThreadStep allowed)
  have polls := inRound (by rintro ⟨⟨⟩, _⟩) (.poll now rfl : allowed.ThreadStep polled)
  have calls := inRound (by rintro ⟨none, _⟩; cases reports.symm.trans none)
    (.call now reports serving)
  have run := (((((Relation.ReflTransGen.single leaves).tail unlocks).tail locks).tail
    allows).tail polls).tail calls
  refine ⟨_, run, ⟨coming, reported, now, rest, rfl, rfl⟩, ?_⟩
  have before : polled.starts = system.base.starts := by
    rw [WatchedBuffers.starts, WatchedBuffers.poll_history, WatchedBuffers.starts]
  rw [← before]
  simp [WatchedBuffers.starts, WatchedBuffers.note]

/-! ## A round with two handlers -/

/-- A buffer whose only request came at the beginning. -/
def filled (id : Nat) : RequestBuffer Nat String :=
  ((RequestBuffer.empty { timeout := 100, interval := 10 } (some ⟨0, id⟩)).enqueueActive 0
    ⟨3, .usual, "held"⟩).value

/-- The windows of two buffers have expired in the same round, and the thread is in the handler
of the first one, which is going to shut the ticker down. -/
theorem exists_inFirstHandler :
    ∃ base : WatchedBuffers Nat String,
      Reachable ({ base } : StoppableTicker String Nat String) ∧
      base.ticker.activity =
        .handling ⟨1, 7, 7, { stopsTicker := true }⟩ 0 160 [⟨2, 8, 8, {}⟩] ∧
      base.ticker.joinable = true ∧ base.ticker.cancelled = [] ∧
      base.buffers 8 = some (filled 2) ∧ base.starts = [7] := by
  let settings : BufferSettings := { timeout := 100, interval := 10 }
  let first : Registration := ⟨1, 7, 7, { stopsTicker := true }⟩
  let second : Registration := ⟨2, 8, 8, {}⟩
  let started : WatchedBuffers Nat String := { ticker := (Ticker.start "timeouts").value }
  let openedFirst := started.openBuffer 7 settings { stopsTicker := true } 0
  let opened := openedFirst.openBuffer 8 settings {} 0
  let filledFirst := opened.withBuffer 7 (filled 1)
  let full := filledFirst.withBuffer 8 (filled 2)
  let collected := { full with ticker := full.ticker.beginRound 150 }
  let locked := { collected with
    ticker := { collected.ticker with activity := .serving [second] }
    check := some ⟨first, .locked⟩ }
  let allowed := { locked with check := some ⟨first, .admitted⟩ }
  let polled := allowed.poll first 150
  let called := { polled with
    ticker := (polled.ticker.beginHandling first 0 160 [second]).value
    check := some ⟨first, .calling⟩ }.note (.called 7 0)
  let alone (base : WatchedBuffers Nat String) : StoppableTicker String Nat String := { base }
  have ready : Reachable (alone full) := by
    have opensFirst : Step (alone started) (alone openedFirst) :=
      .bystander (.openBuffer settings { stopsTicker := true } 0 rfl rfl) rfl rfl (.inr rfl)
    have opens : Step (alone openedFirst) (alone opened) :=
      .bystander (.openBuffer settings {} 0 rfl rfl) rfl rfl (.inr rfl)
    have fillsFirst : Step (alone opened) (alone filledFirst) :=
      .bystander (.operate rfl rfl) rfl rfl (.inr rfl)
    have fills : Step (alone filledFirst) (alone full) :=
      .bystander (.operate rfl rfl) rfl rfl (.inr rfl)
    exact .step (.step (.step (.step (.start _) opensFirst) opens) fillsFirst) fills
  have begun : Reachable (alone collected) := by
    have locks : Step (alone full) { alone full with scheduleHolder := some .thread } :=
      .lockSchedule ⟨rfl, rfl⟩ rfl
    have collects : Step { alone full with scheduleHolder := some .thread } (alone collected) :=
      .beginRound 150 ⟨rfl, rfl⟩ rfl
    exact .step (.step ready locks) collects
  have reached : Reachable (alone called) := by
    have locks : Step (alone collected) (alone locked) :=
      .work (by rintro ⟨_, ⟨⟩⟩) rfl (.lock rfl rfl)
    have allows : Step (alone locked) (alone allowed) :=
      .work (by rintro ⟨⟨⟩, _⟩) rfl (.allow rfl (by decide))
    have polls : Step (alone allowed) (alone polled) :=
      .work (by rintro ⟨⟨⟩, _⟩) rfl (.poll 150 rfl)
    have calls : Step (alone polled) (alone called) :=
      .work (by rintro ⟨⟨⟩, _⟩) rfl (.call 160 rfl rfl)
    exact .step (.step (.step (.step begun locks) allows) polls) calls
  exact ⟨called, reached, rfl, rfl, rfl, rfl, rfl⟩

/-- The first handler of a round shuts the ticker down.  A call of another thread returns while
that handler runs, and then the second handler is called. -/
theorem reachable_stopped_handler_called :
    ∃ system later : StoppableTicker String Nat String, Reachable system ∧
      .returned (.caller "owner") ∈ system.history ∧ system.base.IsRunning 7 ∧
      system.base.starts = [7] ∧ Relation.ReflTransGen Step system later ∧
      later.base.IsRunning 8 ∧ later.base.starts = [7, 8] := by
  obtain ⟨base, reached, handling, _, uncancelled, found, starts⟩ := exists_inFirstHandler
  have running : base.IsRunning 7 := ⟨_, _, _, _, handling, rfl⟩
  obtain ⟨history, returned, stops⟩ :=
    detach_run { base } "owner" rfl rfl ⟨7, running⟩ rfl rfl
  let stopped : StoppableTicker String Nat String :=
    { base := { base with ticker := base.ticker.stopFromHandler.value }, history }
  have live : 2 ∉ stopped.ticker.cancelled := by
    simp [stopped, Ticker.stopFromHandler, uncancelled]
  have expired : ((filled 2).timer.pollExpired 170).1 = some 0 := by decide
  obtain ⟨later, goesOn, runningSecond, both⟩ :=
    next_handler_run stopped rfl handling live found expired
  refine ⟨stopped, later, reached.run stops, returned, ?_, starts, goesOn, runningSecond, ?_⟩
  · exact ⟨_, _, _, _, handling, rfl⟩
  · rw [both]
    exact congrArg (· ++ [8]) starts

end StoppableTicker

end KeyedBatching
