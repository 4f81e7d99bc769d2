import KeyedBatching.Proofs.ShutdownInterleaving

/-!
# What holds of a ticker between any two steps of its shutdown

Each call for the end of the ticker holds the lock that its stage says, and the
thread of the ticker makes such a call only in a handler.  The handle is gone
only once the thread has ended, or when a handler has dropped it.  A call that
has returned has left a request to stop behind and no handle.
-/

namespace KeyedBatching

namespace StoppableTicker

variable {ι K P : Type} {system next later : StoppableTicker ι K P} {party : Party ι}

/-! ## The invariant -/

/-- What holds while a party's call is in a stage. -/
def CallHolds (system : StoppableTicker ι K P) (party : Party ι) : StopStage → Prop
  | .entering => True
  | .asking => system.scheduleHolder = some party
  | .claiming => system.ticker.stopRequested = true
  | .claimed => system.ticker.stopRequested = true ∧ system.handleHolder = some party
  | .joining => system.ticker.stopRequested = true ∧ system.handleHolder = some party
  | .leaving => system.ticker.stopRequested = true ∧ system.handleHolder = some party ∧
      system.ticker.joinable = false

/-- The calls agree with the locks. -/
structure IsOrderly (system : StoppableTicker ι K P) : Prop where
  call : ∀ party stage, system.calls party = some stage → system.CallHolds party stage
  handling : system.calls .thread ≠ none → system.base.IsHandling
  schedule : ∀ name, system.scheduleHolder = some (.caller name) →
    system.calls (.caller name) = some .asking

/-- The handle and the returns of calls agree with the thread. -/
structure IsSettled (system : StoppableTicker ι K P) : Prop where
  ended : system.ticker.hasEnded = true → system.base.check = none
  taken : system.ticker.joinable = false →
    system.ticker.hasEnded = true ∨ .detached ∈ system.history
  returned : ∀ party, .returned party ∈ system.history →
    system.ticker.stopRequested = true ∧ system.ticker.joinable = false

structure IsSound (system : StoppableTicker ι K P) : Prop
    extends system.IsOrderly, system.IsSettled

/-! ## What a step leaves alone -/

/-- What of a ticker a step keeps that does not end its thread. -/
structure Keeps (system next : StoppableTicker ι K P) : Prop where
  activity : next.ticker.activity = system.ticker.activity
  check : next.base.check = system.base.check
  asked : system.ticker.stopRequested = true → next.ticker.stopRequested = true
  taken : system.ticker.joinable = false → next.ticker.joinable = false

theorem Keeps.isHandling (keeps : system.Keeps next) (handling : system.base.IsHandling) :
    next.base.IsHandling := by
  obtain ⟨number, registration, generation, ends, collected, same, own⟩ := handling
  exact ⟨number, registration, generation, ends, collected, keeps.activity.trans same, own⟩

theorem CallHolds.spared {stage : StopStage} (holds : system.CallHolds party stage)
    (asked : system.ticker.stopRequested = true → next.ticker.stopRequested = true)
    (taken : system.ticker.joinable = false → next.ticker.joinable = false)
    (schedule : system.scheduleHolder = some party → next.scheduleHolder = some party)
    (handle : system.handleHolder = some party → next.handleHolder = some party) :
    next.CallHolds party stage := by
  cases stage with
  | entering => trivial
  | asking => exact schedule holds
  | claiming => exact asked holds
  | claimed => exact ⟨asked holds.1, handle holds.2⟩
  | joining => exact ⟨asked holds.1, handle holds.2⟩
  | leaving => exact ⟨asked holds.1, handle holds.2.1, taken holds.2.2⟩

/-- A step away from the calls and their locks. -/
theorem IsOrderly.withBase (orderly : system.IsOrderly) {base : WatchedBuffers K P}
    (asked : system.ticker.stopRequested = true → base.ticker.stopRequested = true)
    (taken : system.ticker.joinable = false → base.ticker.joinable = false)
    (handling : system.calls .thread ≠ none → base.IsHandling) :
    IsOrderly { system with base } := by
  refine ⟨?_, handling, orderly.schedule⟩
  intro party stage reached
  exact (orderly.call party stage reached).spared asked taken id id

theorem IsSettled.congr (settled : system.IsSettled) (keeps : system.Keeps next)
    (joinable : next.ticker.joinable = system.ticker.joinable)
    (history : next.history = system.history) : next.IsSettled := by
  have same : next.ticker.hasEnded = system.ticker.hasEnded :=
    Ticker.hasEnded_congr keeps.activity
  refine ⟨?_, ?_, ?_⟩
  · rw [same, keeps.check]
    exact settled.ended
  · rw [joinable, same, history]
    exact settled.taken
  · intro party returned
    rw [history] at returned
    obtain ⟨asked, taken⟩ := settled.returned party returned
    exact ⟨keeps.asked asked, keeps.taken taken⟩

/-! ## Calls for the end -/

/-- Only a call that is asking the thread to stop holds the lock of the schedule. -/
theorem IsOrderly.lockless (orderly : system.IsOrderly)
    (elsewhere : system.calls party ≠ some .asking) (name : ι) (same : party = .caller name) :
    system.scheduleHolder ≠ some party := by
  subst same
  intro held
  exact elsewhere (orderly.schedule name held)

theorem IsOrderly.inside (orderly : system.IsOrderly) {stage : StopStage}
    (reached : system.calls party = some stage) (same : party = .thread) :
    system.base.IsHandling := by
  subst same
  exact orderly.handling (by simp [reached])

/-- The lock of the handle is given to a call that needs it. -/
theorem IsOrderly.lockHandle (orderly : system.IsOrderly) (free : system.handleHolder = none)
    (party : Party ι) : IsOrderly { system with handleHolder := some party } := by
  refine ⟨?_, orderly.handling, orderly.schedule⟩
  intro other stage reached
  refine (orderly.call other stage reached).spared id id id ?_
  intro held
  rw [free] at held
  cases held

/-- The lock of the handle is given back when its call is over. -/
theorem IsOrderly.unlockHandle (orderly : system.IsOrderly)
    (held : system.handleHolder = some party) (idle : system.calls party = none) :
    IsOrderly { system with handleHolder := none } := by
  refine ⟨?_, orderly.handling, orderly.schedule⟩
  intro other stage reached
  refine (orderly.call other stage reached).spared id id id ?_
  intro also
  obtain rfl : party = other := Option.some.inj (held.symm.trans also)
  rw [idle] at reached
  cases reached

variable [DecidableEq ι]

/-- A call that is on its way in a handler keeps the handler running. -/
theorem IsOrderly.handling_withCall (orderly : system.IsOrderly) {stage : Option StopStage}
    (inside : party = .thread → stage ≠ none → system.base.IsHandling) :
    (system.withCall party stage).calls .thread ≠ none → system.base.IsHandling := by
  by_cases same : (.thread : Party ι) = party
  · rw [same, withCall_self]
    exact inside same.symm
  · rw [withCall_other same]
    exact orderly.handling

/-- A call goes on with the locks that its next stage needs. -/
theorem IsOrderly.withCall (orderly : system.IsOrderly) {stage : Option StopStage}
    (own : ∀ reached, stage = some reached → system.CallHolds party reached)
    (inside : party = .thread → stage ≠ none → system.base.IsHandling)
    (lockless : ∀ name, party = .caller name → system.scheduleHolder ≠ some party) :
    (system.withCall party stage).IsOrderly := by
  refine ⟨?_, orderly.handling_withCall inside, ?_⟩
  · intro other reached there
    by_cases same : other = party
    · subst same
      rw [withCall_self] at there
      exact own reached there
    · rw [withCall_other same] at there
      exact orderly.call other reached there
  · intro name held
    by_cases same : .caller name = party
    · exact absurd (same ▸ held) (lockless name same.symm)
    · rw [withCall_other same]
      exact orderly.schedule name held

/-- A call that is not asking the thread to stop goes on without the lock of the schedule. -/
theorem IsOrderly.proceed (orderly : system.IsOrderly) {stage next : StopStage}
    (reached : system.calls party = some stage) (differs : stage ≠ .asking)
    (own : system.CallHolds party next) : (system.withCall party (some next)).IsOrderly := by
  apply orderly.withCall
  · rintro _ ⟨⟩
    exact own
  · exact fun same _ => orderly.inside reached same
  · exact orderly.lockless (by simpa [reached] using differs)

theorem IsOrderly.lockSchedule (orderly : system.IsOrderly)
    (entering : system.calls party = some .entering) (free : system.scheduleHolder = none) :
    ({ system with scheduleHolder := some party }.withCall party (some .asking)).IsOrderly := by
  refine ⟨?_, orderly.handling_withCall fun same _ => orderly.inside entering same, ?_⟩
  · intro other reached there
    by_cases same : other = party
    · subst same
      rw [withCall_self] at there
      cases there
      rfl
    · rw [withCall_other same] at there
      refine (orderly.call other reached there).spared id id ?_ id
      intro held
      rw [free] at held
      cases held
  · intro name held
    obtain rfl : party = .caller name := Option.some.inj held
    exact withCall_self ..

theorem IsOrderly.ask (orderly : system.IsOrderly)
    (asking : system.calls party = some .asking) :
    ({ system.withTicker system.ticker.requestStop with
      scheduleHolder := none }.withCall party (some .claiming)).IsOrderly := by
  have held : system.scheduleHolder = some party := orderly.call party .asking asking
  refine ⟨?_, orderly.handling_withCall fun same _ => orderly.inside asking same, ?_⟩
  · intro other reached there
    by_cases same : other = party
    · subst same
      rw [withCall_self] at there
      cases there
      rfl
    · rw [withCall_other same] at there
      refine (orderly.call other reached there).spared (fun _ => rfl) id ?_ id
      intro also
      exact absurd (Option.some.inj (also.symm.trans held)) same
  · rintro name ⟨⟩

omit [DecidableEq ι] in
theorem IsOrderly.note (orderly : system.IsOrderly) (event : StopEvent ι) :
    (system.note event).IsOrderly :=
  ⟨orderly.call, orderly.handling, orderly.schedule⟩

/-- The end of a wait for the thread, or a handle that is gone, takes a call to its last stage. -/
theorem IsOrderly.conclude (orderly : system.IsOrderly) {stage : StopStage}
    (reached : system.calls party = some stage) (differs : stage ≠ .asking)
    (asked : system.ticker.stopRequested = true) (held : system.handleHolder = some party) :
    ((system.withTicker { system.ticker with joinable := false }).withCall party
      (some .leaving)).IsOrderly := by
  have concluded : (system.withTicker { system.ticker with joinable := false }).IsOrderly :=
    orderly.withBase id (fun _ => rfl) orderly.handling
  exact concluded.proceed reached differs ⟨asked, held, rfl⟩

theorem IsOrderly.stopStep (orderly : system.IsOrderly) (step : StopStep party system next) :
    next.IsOrderly := by
  cases step with
  | enter idle inside =>
      apply orderly.withCall
      · rintro _ ⟨⟩
        trivial
      · exact fun same _ => inside same
      · exact orderly.lockless (by simp [idle])
  | lockSchedule entering free => exact orderly.lockSchedule entering free
  | ask asking => exact orderly.ask asking
  | lockHandle claiming free =>
      have asked := orderly.call party .claiming claiming
      exact (orderly.lockHandle free party).proceed claiming (by decide) ⟨asked, rfl⟩
  | join claimed present outside =>
      exact orderly.proceed claimed (by decide) (orderly.call party .claimed claimed)
  | detach claimed present inside =>
      obtain ⟨asked, held⟩ := orderly.call party .claimed claimed
      have dropped : system.ticker.stopFromHandler.value =
          { system.ticker with joinable := false } := by
        simp [Ticker.stopFromHandler, asked]
      rw [dropped]
      exact (orderly.conclude claimed (by decide) asked held).note .detached
  | pass claimed taken =>
      obtain ⟨asked, held⟩ := orderly.call party .claimed claimed
      rw [Ticker.conclude_value]
      exact orderly.conclude claimed (by decide) asked held
  | conclude joining ended =>
      obtain ⟨asked, held⟩ := orderly.call party .joining joining
      rw [Ticker.conclude_value]
      exact orderly.conclude joining (by decide) asked held
  | leave leaving =>
      obtain ⟨_, held, _⟩ := orderly.call party .leaving leaving
      have idle : (system.withCall party none).IsOrderly := by
        apply orderly.withCall
        · rintro _ ⟨⟩
        · exact fun _ goesOn => absurd rfl goesOn
        · exact orderly.lockless (by simp [leaving])
      exact (idle.unlockHandle held (withCall_self ..)).note _

/-! ## The handle and the thread -/

omit [DecidableEq ι] in
/-- Without its handle, the thread has ended, or a handler has dropped the handle. -/
theorem IsSettled.take (settled : system.IsSettled) (keeps : system.Keeps next)
    (asked : next.ticker.stopRequested = true) (taken : next.ticker.joinable = false)
    (reason : system.ticker.hasEnded = true ∨ .detached ∈ next.history) : next.IsSettled := by
  have same : next.ticker.hasEnded = system.ticker.hasEnded :=
    Ticker.hasEnded_congr keeps.activity
  refine ⟨?_, ?_, fun _ _ => ⟨asked, taken⟩⟩
  · rw [same, keeps.check]
    exact settled.ended
  · rw [same]
    exact fun _ => reason

theorem StopStep.keeps (step : StopStep party system next) : system.Keeps next := by
  cases step with
  | detach => exact ⟨rfl, rfl, fun _ => rfl, fun _ => rfl⟩
  | ask => exact ⟨rfl, rfl, fun _ => rfl, id⟩
  | pass claimed taken =>
      rw [Ticker.conclude_value]
      exact ⟨rfl, rfl, id, fun _ => rfl⟩
  | conclude joining ended =>
      rw [Ticker.conclude_value]
      exact ⟨rfl, rfl, id, fun _ => rfl⟩
  | _ => exact ⟨rfl, rfl, id, id⟩

theorem IsSound.stopStep (sound : system.IsSound) (step : StopStep party system next) :
    next.IsSound := by
  refine ⟨sound.toIsOrderly.stopStep step, ?_⟩
  have settled := sound.toIsSettled
  have keeps := step.keeps
  cases step with
  | enter | lockSchedule | lockHandle | join | ask => exact settled.congr keeps rfl rfl
  | detach claimed present inside =>
      apply settled.take keeps rfl rfl
      exact .inr (List.mem_append_right _ (List.mem_singleton_self _))
  | pass claimed taken =>
      obtain ⟨asked, _⟩ := sound.call party .claimed claimed
      exact settled.take keeps (keeps.asked asked) (keeps.taken taken) (settled.taken taken)
  | conclude joining ended =>
      obtain ⟨asked, _⟩ := sound.call party .joining joining
      rw [Ticker.conclude_value] at keeps ⊢
      exact settled.take keeps asked rfl (.inl ended)
  | leave leaving =>
      obtain ⟨asked, _, taken⟩ := sound.call party .leaving leaving
      apply settled.take keeps asked taken
      exact (settled.taken taken).imp_right (List.mem_append_left _)

/-! ## The other steps -/

omit [DecidableEq ι] in
theorem IsOrderly.quiet (orderly : system.IsOrderly) (between : system.base.IsBetween) :
    system.calls .thread = none := by
  by_contra calling
  exact between.not_isHandling (orderly.handling calling)

omit [DecidableEq ι] in
theorem IsOrderly.startRound (orderly : system.IsOrderly) (free : system.scheduleHolder = none) :
    IsOrderly { system with scheduleHolder := some .thread } := by
  refine ⟨?_, orderly.handling, ?_⟩
  · intro party stage reached
    refine (orderly.call party stage reached).spared id id ?_ id
    intro held
    rw [free] at held
    cases held
  · rintro name ⟨⟩

omit [DecidableEq ι] in
theorem IsOrderly.beginRound (orderly : system.IsOrderly) (now : Instant)
    (between : system.base.IsBetween) (held : system.scheduleHolder = some .thread) :
    IsOrderly { system.withTicker (system.ticker.beginRound now) with
      scheduleHolder := none } := by
  have quiet := orderly.quiet between
  obtain ⟨asked, taken⟩ := system.ticker.beginRound_frame now
  refine ⟨?_, fun calling => absurd quiet calling, ?_⟩
  · intro party stage reached
    refine (orderly.call party stage reached).spared asked.trans taken.trans ?_ id
    intro also
    obtain rfl : .thread = party := Option.some.inj (held.symm.trans also)
    cases quiet.symm.trans reached
  · rintro name ⟨⟩

omit [DecidableEq ι] in
/-- What a thread does that has not ended before. -/
theorem IsSettled.withThread (settled : system.IsSettled) (runs : system.ticker.hasEnded = false)
    (asked : next.ticker.stopRequested = system.ticker.stopRequested)
    (taken : next.ticker.joinable = system.ticker.joinable)
    (ended : next.ticker.hasEnded = true → next.base.check = none)
    (history : next.history = system.history) : next.IsSettled := by
  refine ⟨ended, ?_, ?_⟩
  · rw [taken, history]
    intro gone
    rcases settled.taken gone with dead | detached
    · rw [runs] at dead
      cases dead
    · exact .inr detached
  · rw [asked, taken, history]
    exact settled.returned

theorem Step.isSound (step : Step system next) (sound : system.IsSound) : next.IsSound := by
  cases step with
  | lockSchedule between free =>
      exact ⟨sound.startRound free, sound.toIsSettled.congr ⟨rfl, rfl, id, id⟩ rfl rfl⟩
  | beginRound now between held =>
      obtain ⟨asked, taken⟩ := system.ticker.beginRound_frame now
      have runs : system.ticker.hasEnded = false := by simp [Ticker.hasEnded, between.2]
      exact ⟨sound.toIsOrderly.beginRound now between held,
        sound.withThread runs asked taken (fun _ => between.1) rfl⟩
  | work within quiet step =>
      obtain ⟨runs, goesOn, asked, taken⟩ := step.alive within sound.ended
      refine ⟨sound.withBase asked.trans taken.trans fun calling => absurd quiet calling, ?_⟩
      refine sound.withThread runs asked taken ?_ rfl
      intro dead
      cases goesOn.symm.trans dead
  | stop party step => exact sound.stopStep step
  | bystander step asked taken free =>
      obtain ⟨activity, check, _⟩ := step.frame
      have keeps : Keeps system { system with base := _ } :=
        ⟨activity, check, asked.trans, taken.trans⟩
      exact ⟨sound.withBase asked.trans taken.trans fun calling =>
        keeps.isHandling (sound.handling calling), sound.toIsSettled.congr keeps taken rfl⟩

omit [DecidableEq ι] in
theorem isSound_start (name : String) :
    IsSound ({ base := { ticker := (Ticker.start name).value } } : StoppableTicker ι K P) := by
  refine ⟨⟨?_, fun calling => absurd rfl calling, ?_⟩, fun _ => rfl, ?_, ?_⟩
  · rintro party stage ⟨⟩
  · rintro name ⟨⟩
  · rintro ⟨⟩
  · intro party returned
    cases returned

theorem Reachable.isSound (reached : Reachable system) : system.IsSound := by
  induction reached with
  | start name => exact isSound_start name
  | step _ step ih => exact step.isSound ih

/-- A step is at most one of the buffers and their ticker. -/
theorem Step.base (step : Step system next) (sound : system.IsSound) :
    next.base = system.base ∨ system.base.Step next.base := by
  cases step with
  | lockSchedule => exact .inl rfl
  | beginRound now between held => exact .inr (.thread (.beginRound now between.1 between.2))
  | work within quiet step => exact .inr (.thread step)
  | bystander step => exact .inr (.caller step)
  | stop party step =>
      cases step with
      | ask asking => exact .inr (.caller .requestStop)
      | detach claimed present inside =>
          obtain ⟨number, running⟩ := sound.inside claimed inside
          exact .inr (.caller (.stopFromHandler running))
      | pass claimed taken =>
          obtain ⟨asked, _⟩ := sound.call party .claimed claimed
          refine .inr (.caller (.conclude asked ?_))
          intro present
          cases taken.symm.trans present
      | conclude joining ended =>
          obtain ⟨asked, _⟩ := sound.call party .joining joining
          exact .inr (.caller (.conclude asked fun _ => ended))
      | _ => exact .inl rfl

theorem Reachable.base (reached : Reachable system) : WatchedBuffers.Reachable system.base := by
  induction reached with
  | start name => exact .start name
  | step before step ih =>
      rcases step.base before.isSound with same | step
      · rw [same]
        exact ih
      · exact ih.step step

end StoppableTicker

end KeyedBatching
