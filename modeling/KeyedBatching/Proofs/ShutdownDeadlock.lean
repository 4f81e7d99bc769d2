import KeyedBatching.Proofs.ShutdownReturns

/-!
# Shutting a ticker down from both sides

A thread that waits for the end of the ticker's thread keeps the lock of the
handle meanwhile, and no other lock.  A handler that shuts its own ticker down
needs that lock before it can find out that there is nothing for it to wait for.
If it comes second, the two wait for each other for ever, and the handler's
registration stays locked as well.  Nothing else can stand between a caller and
the end of the thread.
-/

namespace KeyedBatching

namespace StoppableTicker

variable {ι K P : Type} {system next later : StoppableTicker ι K P} {name : ι}

/-- A caller waits for the end of the ticker's thread, which waits for a lock that the caller
holds. -/
def IsDeadlocked (system : StoppableTicker ι K P) (name : ι) : Prop :=
  system.calls (.caller name) = some .joining ∧
    ∃ lock, system.Awaits .thread lock ∧ system.Holds (.caller name) lock

/-- The only such lock is that of the handle, and the thread needs it for a call of its own. -/
theorem IsSound.isDeadlocked_iff (sound : system.IsSound) :
    system.IsDeadlocked name ↔
      system.calls (.caller name) = some .joining ∧ system.calls .thread = some .claiming := by
  constructor
  · rintro ⟨joining, lock, awaits, holds⟩
    refine ⟨joining, ?_⟩
    cases lock with
    | schedule =>
        have asking := sound.schedule name holds
        cases joining.symm.trans asking
    | handle => exact awaits
    | registration id => cases holds.1
  · rintro ⟨joining, claiming⟩
    obtain ⟨_, held⟩ := sound.call (.caller name) .joining joining
    exact ⟨joining, .handle, claiming, held⟩

/-- While a handler's call is on its way, the thread keeps the lock of the registration. -/
theorem Reachable.holds_registration [DecidableEq ι] (reached : Reachable system)
    (calling : system.calls .thread ≠ none) :
    ∃ id, system.Holds .thread (.registration id) := by
  obtain ⟨number, registration, generation, ends, collected, handling, _⟩ :=
    reached.isSound.handling calling
  have checked := reached.base.isSound.calling ⟨registration, .calling⟩
    (by rw [handling, WatchedBuffers.underway])
  exact ⟨registration.id, rfl, _, checked, rfl⟩

/-- While a handler's call is on its way, the thread has not ended. -/
theorem IsOrderly.not_ended (orderly : system.IsOrderly)
    (calling : system.calls .thread ≠ none) : system.ticker.hasEnded = false := by
  obtain ⟨number, registration, generation, ends, collected, handling, _⟩ :=
    orderly.handling calling
  simp [Ticker.hasEnded, handling]

/-! ## No way out -/

variable [DecidableEq ι] {party other : Party ι}

theorem StopStep.calls_other (step : StopStep party system next) (differs : other ≠ party) :
    next.calls other = system.calls other := by
  cases step <;> exact withCall_other differs ..

theorem StopStep.ended_of_joining (step : StopStep party system next)
    (joining : system.calls party = some .joining) : system.ticker.hasEnded = true := by
  cases step with
  | conclude _ ended => exact ended
  | enter stage | lockSchedule stage | ask stage | lockHandle stage | join stage | detach stage
  | pass stage | leave stage => cases joining.symm.trans stage

theorem StopStep.free_of_claiming (step : StopStep party system next)
    (claiming : system.calls party = some .claiming) : system.handleHolder = none := by
  cases step with
  | lockHandle _ free => exact free
  | enter stage | lockSchedule stage | ask stage | join stage | detach stage | pass stage
  | conclude stage | leave stage => cases claiming.symm.trans stage

theorem Step.stays_deadlocked (step : Step system next) (sound : system.IsSound)
    (dead : system.IsDeadlocked name) :
    next.IsDeadlocked name ∧ next.ticker.activity = system.ticker.activity := by
  obtain ⟨joining, claiming⟩ := sound.isDeadlocked_iff.mp dead
  have calling : system.calls .thread ≠ none := by simp [claiming]
  obtain ⟨_, held⟩ := sound.call (.caller name) .joining joining
  rw [(step.isSound sound).isDeadlocked_iff]
  -- The thread is in a handler and so begins no round, and neither party has a step of its own.
  cases step with
  | lockSchedule => exact ⟨⟨joining, claiming⟩, rfl⟩
  | beginRound now between held => exact absurd (sound.quiet between) calling
  | work within quiet step => exact absurd quiet calling
  | bystander step => exact ⟨⟨joining, claiming⟩, step.frame.1⟩
  | stop party step =>
      have waits : .caller name ≠ party := by
        rintro rfl
        cases (sound.not_ended calling).symm.trans (step.ended_of_joining joining)
      have blocked : .thread ≠ party := by
        rintro rfl
        cases held.symm.trans (step.free_of_claiming claiming)
      rw [step.calls_other waits, step.calls_other blocked]
      exact ⟨⟨joining, claiming⟩, step.keeps.activity⟩

/-- While any handler runs, another thread and that handler can come to wait for each other. -/
theorem deadlock_run (system : StoppableTicker ι K P) (name : ι)
    (quiet : system.calls .thread = none) (idle : system.calls (.caller name) = none)
    (handling : system.base.IsHandling) (present : system.ticker.joinable = true)
    (scheduleFree : system.scheduleHolder = none) (handleFree : system.handleHolder = none) :
    ∃ later, Relation.ReflTransGen Step system later ∧ later.IsDeadlocked name := by
  let stopped := system.withTicker system.ticker.requestStop
  let claimed := { stopped with
    handleHolder := some (.caller name) }.withCall (.caller name) (some .claimed)
  let joining := claimed.withCall (.caller name) (some .joining)
  have claims : Relation.ReflTransGen (StopStep (.caller name)) system claimed :=
    claim_run idle (by rintro ⟨⟩) scheduleFree handleFree
  have joins : StopStep (.caller name) claimed joining :=
    .join (withCall_self ..) present (by simp)
  have quiet' : joining.calls .thread = none := by
    simpa [joining, claimed, withCall, stopped, withTicker] using quiet
  have asks := ask_run quiet' (fun _ => handling) scheduleFree
  refine ⟨_, (run_of_stop (claims.tail joins)).trans (run_of_stop asks), ?_⟩
  refine ⟨?_, .handle, withCall_self .., rfl⟩
  rw [withCall_other (by simp)]
  exact withCall_self ..

/-! ## Reachable states -/

/-- A caller and the thread wait for each other exactly if the caller has come to wait for the
thread and a handler has come to the lock of the handle.  Then they wait for ever: the handler
does not return, and its registration stays locked. -/
theorem reachable_deadlock_permanent (reached : Reachable system) (name : ι) :
    (system.IsDeadlocked name ↔
      system.calls (.caller name) = some .joining ∧ system.calls .thread = some .claiming) ∧
    (system.IsDeadlocked name → ∀ later, Relation.ReflTransGen Step system later →
      later.IsDeadlocked name ∧ later.ticker.activity = system.ticker.activity ∧
        ∃ id, later.Holds .thread (.registration id)) := by
  refine ⟨reached.isSound.isDeadlocked_iff, ?_⟩
  intro dead later run
  have holds : later.IsDeadlocked name ∧ later.ticker.activity = system.ticker.activity := by
    induction run with
    | refl => exact ⟨dead, rfl⟩
    | tail before step ih =>
        have sound := (reached.run before).isSound
        obtain ⟨stays, same⟩ := step.stays_deadlocked sound ih.1
        exact ⟨stays, same.trans ih.2⟩
  have reaches := reached.run run
  obtain ⟨_, claiming⟩ := reaches.isSound.isDeadlocked_iff.mp holds.1
  exact ⟨holds.1, holds.2, reaches.holds_registration (by simp [claiming])⟩

/-- The owner of a ticker waits for its end when the handler that is running shuts it down, and
nothing that anybody does later lets either of them go on. -/
theorem reachable_deadlock_permanent_owner :
    ∃ system : StoppableTicker String Nat String, Reachable system ∧
      system.calls (.caller "owner") = some .joining ∧ system.calls .thread = some .claiming ∧
      ∀ later, Relation.ReflTransGen Step system later → later.IsDeadlocked "owner" ∧
        ∃ id, later.Holds .thread (.registration id) := by
  obtain ⟨base, reached, handling, present, _⟩ := exists_inFirstHandler
  obtain ⟨system, run, dead⟩ :=
    deadlock_run { base } "owner" rfl rfl ⟨7, _, _, _, _, handling, rfl⟩ present rfl rfl
  obtain ⟨iff, permanent⟩ := reachable_deadlock_permanent (reached.run run) "owner"
  obtain ⟨joining, claiming⟩ := iff.mp dead
  refine ⟨system, reached.run run, joining, claiming, ?_⟩
  intro later goesOn
  obtain ⟨stays, _, locked⟩ := permanent dead later goesOn
  exact ⟨stays, locked⟩

/-- Calls for the end of a ticker do not exclude that a caller and the thread wait for each
other. -/
theorem reachable_deadlock :
    ¬ ∀ system : StoppableTicker String Nat String, Reachable system →
      ¬ ∃ name, system.IsDeadlocked name := by
  intro claimed
  obtain ⟨base, reached, handling, present, _⟩ := exists_inFirstHandler
  obtain ⟨later, run, dead⟩ :=
    deadlock_run { base } "owner" rfl rfl ⟨7, _, _, _, _, handling, rfl⟩ present rfl rfl
  exact claimed later (reached.run run) ⟨"owner", dead⟩

end StoppableTicker

end KeyedBatching
