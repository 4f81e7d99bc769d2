import KeyedBatching.Proofs.InterleavingInvariant
import KeyedBatching.Proofs.TimerAccesses
import KeyedBatching.Word

/-!
# What a shared timer reports

A poller may hold a window whose generation has long passed, and may raise the
mark of reported generations when the owner is elsewhere.  Yet the window that
it found expired was that of the generation in progress when it looked, since an
open window always carries that generation.  And each report lifts the mark
above itself, so that the reports grow, whatever the order in which the pollers
come to the mark.
-/

namespace KeyedBatching

namespace SharedTimer

variable {ι : Type}

/-! ## Reports -/

/-- When the poller last looked, the window had been opened and its generation was in
progress. -/
def HasLooked (poller : ι) (now : Instant) (window : Window)
    (history : List (TimerEvent ι)) : Prop :=
  ∃ earlier later, history = earlier ++ .looked poller now :: later ∧
    (∀ event ∈ later, event.poller? ≠ some poller) ∧
    .opened window ∈ earlier ∧ advancesOf earlier = window.generation

/-- The poller has found the window of a generation expired. -/
def IsJustified (poller : ι) (now : Instant) (generation : Nat)
    (history : List (TimerEvent ι)) : Prop :=
  ∃ window, window.generation = generation ∧ window.deadline ≤ now ∧
    HasLooked poller now window history

/-- The reports grow and stay below a mark, and each was justified when it was made. -/
structure IsRecorded (mark : Nat) (history : List (TimerEvent ι)) : Prop where
  below : ∀ generation ∈ reportsOf history, generation < mark
  increasing : (reportsOf history).Pairwise (· < ·)
  justified : ∀ before poller now generation,
    before ++ [.reported poller now generation] <+: history →
      IsJustified poller now generation before

variable {mark generation : Nat} {history : List (TimerEvent ι)} {poller : ι}
  {now : Instant} {window : Window}

theorem HasLooked.note (looked : HasLooked poller now window history) {event : TimerEvent ι}
    (other : event.poller? ≠ some poller) :
    HasLooked poller now window (history ++ [event]) := by
  obtain ⟨earlier, later, rfl, silent, opened, counted⟩ := looked
  refine ⟨earlier, later ++ [event], by simp, ?_, opened, counted⟩
  intro event' member
  rcases List.mem_append.mp member with before | last
  · exact silent event' before
  · rw [List.mem_singleton.mp last]
    exact other

theorem IsRecorded.note (recorded : IsRecorded mark history) {event : TimerEvent ι}
    (silent : event.report? = none) : IsRecorded mark (history ++ [event]) := by
  obtain ⟨below, increasing, justified⟩ := recorded
  have same : reportsOf (history ++ [event]) = reportsOf history := by
    rw [reportsOf_concat, silent, Option.toList_none, List.append_nil]
  rw [← same] at below increasing
  refine ⟨below, increasing, ?_⟩
  intro before reporter instant reported made
  rcases List.prefix_concat_iff.mp made with whole | earlier
  · have last := List.append_inj_right' whole rfl
    rw [← List.singleton_inj.mp last] at silent
    cases silent
  · exact justified before reporter instant reported earlier

theorem IsRecorded.mono (recorded : IsRecorded mark history) {higher : Nat}
    (le : mark ≤ higher) : IsRecorded higher history := by
  refine { recorded with below := ?_ }
  intro generation member
  exact Nat.lt_of_lt_of_le (recorded.below generation member) le

/-- A report that is not below the mark goes beyond all reports before it. -/
theorem IsRecorded.report (recorded : IsRecorded mark history) (first : mark ≤ generation)
    (due : IsJustified poller now generation history) :
    IsRecorded (max mark (generation + 1))
      (history ++ [.reported poller now generation]) := by
  obtain ⟨below, increasing, justified⟩ := recorded
  have grown : reportsOf (history ++ [.reported poller now generation]) =
      reportsOf history ++ [generation] := reportsOf_concat ..
  constructor
  · intro reported member
    rw [grown, List.mem_append, List.mem_singleton] at member
    rcases member with before | rfl
    · exact Nat.lt_of_lt_of_le (below reported before) (Nat.le_max_left ..)
    · exact Nat.le_max_right ..
  · rw [grown, List.pairwise_append]
    refine ⟨increasing, List.pairwise_singleton .., ?_⟩
    intro reported member last same
    rw [List.mem_singleton.mp same]
    exact Nat.lt_of_lt_of_le (below reported member) first
  · intro before reporter instant reported made
    rcases List.prefix_concat_iff.mp made with whole | earlier
    · obtain ⟨rfl, last⟩ := List.append_inj' whole rfl
      cases List.singleton_inj.mp last
      exact due
    · exact justified before reporter instant reported earlier

/-! ## The invariant -/

/-- The generation counts the advances, an open window carries it, and whatever a poller holds was
opened before. -/
structure IsSound (system : SharedTimer ι) : Prop where
  counted : system.timer.current = advancesOf system.history
  opened : ∀ window, .opened window ∈ system.history →
    window.generation ≤ system.timer.current
  armed : ∀ window, system.timer.armed = some window →
    window.generation = system.timer.current ∧ .opened window ∈ system.history
  numbered : ∀ now generation, system.owner = .numbered now generation →
    generation = system.timer.current
  cleared : system.owner = .cleared → system.timer.armed = none
  held : ∀ poller window, (system.pollers poller).window? = some window →
    .opened window ∈ system.history
  expired : ∀ poller window now, system.pollers poller = .expired window now →
    window.deadline ≤ now ∧ HasLooked poller now window system.history
  mark : system.timer.reported ≤ system.timer.current + 1
  recorded : IsRecorded system.timer.reported system.history

variable {system next : SharedTimer ι}

/-- An event of a poller that is done with its window leaves the others as they are. -/
theorem IsSound.note (sound : system.IsSound) {event : TimerEvent ι}
    (still : event.isAdvance = false)
    (reached : ∀ window, event = .opened window → window.generation ≤ system.timer.current)
    (idle : ∀ poller, event.poller? = some poller →
      ∀ window now, system.pollers poller ≠ .expired window now)
    (recorded : IsRecorded system.timer.reported (system.history ++ [event])) :
    (system.note event).IsSound := by
  refine { sound with
    counted := ?_, opened := ?_, armed := ?_, held := ?_, expired := ?_, recorded }
  · rw [SharedTimer.note, advancesOf_concat, still]
    exact sound.counted
  · intro window member
    rcases List.mem_append.mp member with before | last
    · exact sound.opened window before
    · exact reached window (List.mem_singleton.mp last).symm
  · intro window armed
    obtain ⟨current, opened⟩ := sound.armed window armed
    exact ⟨current, List.mem_append_left _ opened⟩
  · intro poller window holds
    exact List.mem_append_left _ (sound.held poller window holds)
  · intro poller window now stage
    obtain ⟨due, looked⟩ := sound.expired poller window now stage
    refine ⟨due, looked.note ?_⟩
    intro same
    exact idle poller same window now stage

/-! ## The owner -/

theorem IsSound.publish (sound : system.IsSound) {now : Instant} {generation : Nat}
    (numbered : system.owner = .numbered now generation) :
    (system.publish
      (BatchTimer.openWindow system.timer.timeout generation now).value).IsSound := by
  let window := (BatchTimer.openWindow system.timer.timeout generation now).value
  have current : generation = system.timer.current := sound.numbered now generation numbered
  have noted : (system.note (.opened window)).IsSound := by
    apply sound.note rfl ?_ ?_ (sound.recorded.note rfl)
    · rintro _ ⟨⟩
      exact Nat.le_of_eq current
    · rintro poller ⟨⟩
  refine { noted with armed := ?_, numbered := ?_, cleared := ?_ }
  · rintro _ ⟨⟩
    exact ⟨current, List.mem_append_right _ (List.mem_singleton_self _)⟩
  · intro now generation stage
    cases stage
  · intro stage
    cases stage

theorem IsSound.advance (sound : system.IsSound) (cleared : system.owner = .cleared) :
    ({ system with
      timer := system.timer.increment
      owner := .resting }.note .advanced).IsSound := by
  constructor
  · rw [SharedTimer.note, advancesOf_concat, ← sound.counted]
    rfl
  · intro window member
    rcases List.mem_append.mp member with before | last
    · exact Nat.le_succ_of_le (sound.opened window before)
    · cases List.mem_singleton.mp last
  · intro window armed
    cases (sound.cleared cleared).symm.trans armed
  · intro now generation stage
    cases stage
  · intro stage
    cases stage
  · intro poller window holds
    exact List.mem_append_left _ (sound.held poller window holds)
  · intro poller window now stage
    obtain ⟨due, looked⟩ := sound.expired poller window now stage
    refine ⟨due, looked.note ?_⟩
    intro same
    cases same
  · exact Nat.le_succ_of_le sound.mark
  · exact sound.recorded.note rfl

theorem IsSound.ownerStep (sound : system.IsSound) (step : OwnerStep system next) :
    next.IsSound := by
  cases step with
  | keep _ _ => exact sound
  | findUnarmed now _ _ =>
      refine { sound with numbered := ?_, cleared := ?_ } <;> simp
  | number _ =>
      refine { sound with numbered := ?_, cleared := ?_ } <;> simp
  | openWindow numbered => exact sound.publish numbered
  | clear _ =>
      refine { sound with armed := ?_, numbered := ?_, cleared := ?_ } <;>
        simp [BatchTimer.store]
  | advance cleared => exact sound.advance cleared

/-! ## The pollers -/

variable [DecidableEq ι]

theorem IsSound.withPoller (sound : system.IsSound) (poller : ι) {phase : TickerPhase}
    (held : ∀ window, phase.window? = some window → .opened window ∈ system.history)
    (expired : ∀ window now, phase = .expired window now →
      window.deadline ≤ now ∧ HasLooked poller now window system.history) :
    (system.withPoller poller phase).IsSound := by
  refine { sound with held := ?_, expired := ?_ }
  · intro other window holds
    by_cases same : other = poller
    · subst same
      rw [withPoller_self] at holds
      exact held window holds
    · rw [withPoller_other same] at holds
      exact sound.held other window holds
  · intro other window now stage
    by_cases same : other = poller
    · subst same
      rw [withPoller_self] at stage
      exact expired window now stage
    · rw [withPoller_other same] at stage
      exact sound.expired other window now stage

/-- A poller that has let go of its window. -/
theorem IsSound.release (sound : system.IsSound) (poller : ι) (phase : TickerPhase)
    (free : phase.window? = none) : (system.withPoller poller phase).IsSound := by
  apply sound.withPoller poller
  · intro window holds
    rw [free] at holds
    cases holds
  · rintro window now rfl
    cases free

omit [DecidableEq ι] in
theorem IsSound.raise (sound : system.IsSound) {window : Window}
    (opened : .opened window ∈ system.history) : (system.mark window).IsSound := by
  refine { sound with mark := ?_, recorded := ?_ }
  · exact Nat.max_le.mpr ⟨sound.mark, Nat.succ_le_succ (sound.opened window opened)⟩
  · exact sound.recorded.mono (Nat.le_max_left ..)

omit [DecidableEq ι] in
theorem IsSound.look (sound : system.IsSound) {poller : ι} {window : Window} {now : Instant}
    (loaded : system.pollers poller = .loaded window now) :
    (system.note (.looked poller now)).IsSound := by
  apply sound.note rfl ?_ ?_ (sound.recorded.note rfl)
  · rintro window ⟨⟩
  · rintro _ ⟨⟩ held instant stage
    rw [loaded] at stage
    cases stage

theorem IsSound.accept (sound : system.IsSound) {poller : ι} {window : Window} {now : Instant}
    (loaded : system.pollers poller = .loaded window now)
    (expired : BatchTimer.hasExpired window system.timer.current now = true) :
    ((system.withPoller poller (.expired window now)).note (.looked poller now)).IsSound := by
  have opened := sound.held poller window (by rw [loaded]; rfl)
  obtain ⟨current, due⟩ : window.generation = system.timer.current ∧ window.deadline ≤ now := by
    simpa [BatchTimer.hasExpired] using expired
  apply (sound.look loaded).withPoller poller
  · rintro _ ⟨⟩
    exact List.mem_append_left _ opened
  · rintro _ _ ⟨⟩
    refine ⟨due, system.history, [], rfl, ?_, opened, ?_⟩
    · intro event member
      cases member
    · rw [current, sound.counted]

theorem IsSound.report (sound : system.IsSound) {poller : ι} {window : Window} {now : Instant}
    (expired : system.pollers poller = .expired window now)
    (first : ¬ BatchTimer.markOf window ≤ system.timer.reported) :
    (((system.mark window).withPoller poller (.delivering window.generation)).note
      (.reported poller now window.generation)).IsSound := by
  have opened := sound.held poller window (by rw [expired]; rfl)
  obtain ⟨due, looked⟩ := sound.expired poller window now expired
  have delivers := (sound.raise opened).release poller (.delivering window.generation) rfl
  apply delivers.note rfl
  · rintro window ⟨⟩
  · rintro _ ⟨⟩ held instant stage
    cases (withPoller_self ..).symm.trans stage
  -- The mark found is not beyond this window, so all reports before it are of lower windows.
  · exact sound.recorded.report (Nat.lt_succ_iff.mp (Nat.not_le.mp first))
      ⟨window, rfl, due, looked⟩

theorem IsSound.pollStep (sound : system.IsSound) {poller : ι}
    (step : PollStep poller system next) : next.IsSound := by
  cases step with
  | findNothing _ _ => exact sound
  | load now _ armed =>
      apply sound.withPoller poller
      · rintro _ ⟨⟩
        exact (sound.armed _ armed).2
      · rintro window now ⟨⟩
  | accept loaded expired => exact sound.accept loaded expired
  | dismiss loaded _ => exact (sound.look loaded).release poller .resting rfl
  | report expired first => exact sound.report expired first
  | skip expired _ =>
      exact (sound.raise (sound.held poller _ (by rw [expired]; rfl))).release poller .resting rfl
  | answer _ => exact sound.release poller .resting rfl

omit [DecidableEq ι] in
theorem isSound_start (timeout : Duration) :
    ({ timer := { timeout } } : SharedTimer ι).IsSound := by
  have nothing : IsRecorded 0 ([] : List (TimerEvent ι)) := by
    refine ⟨by simp [reportsOf], by simp [reportsOf], ?_⟩
    intro before poller now generation made
    simp at made
  constructor <;> simp [advancesOf, TickerPhase.window?, nothing]

theorem Step.isSound (step : Step system next) (sound : system.IsSound) : next.IsSound := by
  cases step with
  | owner step => exact sound.ownerStep step
  | poll poller step => exact sound.pollStep step

theorem Reachable.isSound {timeout : Duration} (reached : Reachable timeout system) :
    system.IsSound := by
  induction reached with
  | start => exact isSound_start timeout
  | step _ step ih => exact step.isSound ih

/-! ## Every order of accesses -/

omit [DecidableEq ι] in
/-- No counter grows beyond a machine word, nor does the mark of a window that a poller can
hold. -/
theorem IsSound.fits (sound : system.IsSound)
    (few : advancesOf system.history + 1 < wordLimit) :
    system.timer.current < wordLimit ∧ system.timer.reported < wordLimit ∧
      ∀ window, .opened window ∈ system.history → BatchTimer.markOf window < wordLimit := by
  have counted := sound.counted
  have mark := sound.mark
  refine ⟨by omega, by omega, ?_⟩
  intro window opened
  have reached := sound.opened window opened
  rw [BatchTimer.markOf]
  omega

/-- However the accesses of the owner and the pollers are ordered, an open window carries the
generation in progress, each report was justified by the last look of its poller, and no
generation is reported again or after a later one. -/
theorem reachable_reports_increase {timeout : Duration} (reached : Reachable timeout system)
    (few : advancesOf system.history + 1 < wordLimit) :
    (∀ window, system.timer.armed = some window →
      window.generation = system.timer.current) ∧
    system.timer.current = advancesOf system.history ∧
    (∀ before poller now generation after,
      system.history = before ++ .reported poller now generation :: after →
        IsJustified poller now generation before) ∧
    (reportsOf system.history).Pairwise (· < ·) ∧
    system.timer.current < wordLimit ∧ system.timer.reported < wordLimit ∧
    ∀ window, .opened window ∈ system.history → BatchTimer.markOf window < wordLimit := by
  have sound := reached.isSound
  refine ⟨?_, sound.counted, ?_, sound.recorded.increasing, sound.fits few⟩
  · intro window armed
    exact (sound.armed window armed).1
  · intro before poller now generation after history
    apply sound.recorded.justified
    rw [history]
    exact ⟨after, by simp⟩

/-- Both pollers find the first window expired.  One of them reports it only after the owner has
gone on to the second window, and the other comes to the mark in vain. -/
theorem reachable_reports_increase_late :
    ∃ system : SharedTimer Bool, Reachable 100 system ∧
      advancesOf system.history + 1 < wordLimit ∧ system.timer.armed = some ⟨1, 300⟩ ∧
      system.history = [.opened ⟨0, 100⟩, .looked false 100, .looked true 150, .advanced,
        .opened ⟨1, 300⟩, .reported true 150 0, .looked false 320, .reported false 320 1] ∧
      IsJustified true 150 0 (system.history.take 5) ∧
      (reportsOf system.history).Pairwise (· < ·) := by
  let first : Window := ⟨0, 100⟩
  let second : Window := ⟨1, 300⟩
  let started : SharedTimer Bool := { timer := { timeout := 100 } }
  let asked := { started with owner := .unarmed 0 }
  let opened := { asked with owner := .numbered 0 0 }.publish first
  let held := opened.withPoller false (.loaded first 100)
  let looked := (held.withPoller false (.expired first 100)).note (.looked false 100)
  let heldTwice := looked.withPoller true (.loaded first 150)
  let lookedTwice := (heldTwice.withPoller true (.expired first 150)).note (.looked true 150)
  let cleared : SharedTimer Bool :=
    { lookedTwice with timer := lookedTwice.timer.store none, owner := .cleared }
  let advanced := { cleared with
    timer := cleared.timer.increment, owner := .resting }.note .advanced
  let askedAgain := { advanced with owner := .unarmed 200 }
  let reopened := { askedAgain with owner := .numbered 200 1 }.publish second
  let reported := ((reopened.mark first).withPoller true (.delivering 0)).note
    (.reported true 150 0)
  let skipped := (reported.mark first).withPoller false .resting
  let heldLast := skipped.withPoller false (.loaded second 320)
  let lookedLast := (heldLast.withPoller false (.expired second 320)).note (.looked false 320)
  let last := ((lookedLast.mark second).withPoller false (.delivering 1)).note
    (.reported false 320 1)
  have found : Reachable 100 lookedTwice := by
    have asks : Step started asked := .owner (.findUnarmed 0 rfl rfl)
    have numbers : Step asked { asked with owner := .numbered 0 0 } := .owner (.number rfl)
    have opens : Step { asked with owner := .numbered 0 0 } opened := .owner (.openWindow rfl)
    have loads : Step opened held := .poll false (.load 100 rfl rfl)
    have accepts : Step held looked := .poll false (.accept rfl rfl)
    have loadsTwice : Step looked heldTwice := .poll true (.load 150 rfl rfl)
    have acceptsTwice : Step heldTwice lookedTwice := .poll true (.accept rfl rfl)
    exact .step (.step (.step (.step (.step (.step (.step .start asks) numbers) opens) loads)
      accepts) loadsTwice) acceptsTwice
  have passed : Reachable 100 reopened := by
    have clears : Step lookedTwice cleared := .owner (.clear rfl)
    have advances : Step cleared advanced := .owner (.advance rfl)
    have asks : Step advanced askedAgain := .owner (.findUnarmed 200 rfl rfl)
    have numbers : Step askedAgain { askedAgain with owner := .numbered 200 1 } :=
      .owner (.number rfl)
    have opens : Step { askedAgain with owner := .numbered 200 1 } reopened :=
      .owner (.openWindow rfl)
    exact .step (.step (.step (.step (.step found clears) advances) asks) numbers) opens
  have reached : Reachable 100 last := by
    have reports : Step reopened reported := .poll true (.report rfl (by decide))
    have skips : Step reported skipped := .poll false (.skip rfl (by decide))
    have loads : Step skipped heldLast := .poll false (.load 320 rfl rfl)
    have accepts : Step heldLast lookedLast := .poll false (.accept rfl rfl)
    have reportsLast : Step lookedLast last := .poll false (.report rfl (by decide))
    exact .step (.step (.step (.step (.step passed reports) skips) loads) accepts) reportsLast
  have few : advancesOf last.history + 1 < wordLimit := by decide
  obtain ⟨_, _, justified, increasing, _⟩ := reachable_reports_increase reached few
  exact ⟨last, reached, few, rfl, rfl, justified _ true 150 0 _ rfl, increasing⟩

end SharedTimer

end KeyedBatching
