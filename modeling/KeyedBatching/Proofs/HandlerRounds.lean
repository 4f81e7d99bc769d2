import KeyedBatching.Proofs.ClosedBuffers

/-!
# The handlers of a round

In a round the thread of a ticker comes upon what it has collected at the
beginning, one registration after the other, and calls the handlers of those
whose windows have expired.  Nothing that other threads do adds to a round, and
the thread neither ends within it nor forgets that it was asked to stop.
-/

namespace KeyedBatching

namespace Ticker

theorem hasEnded_congr {ticker other : Ticker} (same : other.activity = ticker.activity) :
    other.hasEnded = ticker.hasEnded := by
  rw [hasEnded, hasEnded, same]

theorem beginRound_frame (now : Instant) (ticker : Ticker) :
    (ticker.beginRound now).stopRequested = ticker.stopRequested ∧
      (ticker.beginRound now).joinable = ticker.joinable := by
  unfold beginRound
  split
  · exact ⟨rfl, rfl⟩
  · split <;> exact ⟨rfl, rfl⟩

/-- Asked to stop, the thread ends instead of beginning a round. -/
theorem beginRound_stopped (now : Instant) {ticker : Ticker}
    (stopped : ticker.stopRequested = true) :
    (ticker.beginRound now).activity = .finished := by
  simp [beginRound, stopped]

end Ticker

/-- The registration of a check, as long as its handler was not called. -/
def Check.waiting : Check → List Registration
  | ⟨registration, .locked⟩ | ⟨registration, .admitted⟩ | ⟨registration, .expired _⟩ =>
      [registration]
  | ⟨_, .calling⟩ | ⟨_, .leaving⟩ => []

namespace WatchedBuffers

variable {K P : Type} {system next : WatchedBuffers K P}

/-- The thread is between two rounds. -/
def IsBetween (system : WatchedBuffers K P) : Prop :=
  system.check = none ∧ system.ticker.activity = .serving []

/-- The thread is in some handler. -/
def IsHandling (system : WatchedBuffers K P) : Prop :=
  ∃ number, system.IsRunning number

theorem IsBetween.not_isHandling (between : system.IsBetween) : ¬ system.IsHandling := by
  rintro ⟨number, registration, generation, ends, collected, handling, own⟩
  rw [between.2] at handling
  cases handling

/-- The registrations that the thread can still find expired in the round that it is in. -/
def pending (system : WatchedBuffers K P) : List Registration :=
  system.check.elim [] Check.waiting ++ system.ticker.activity.collected

/-- The numbers of the buffers whose handlers were called, in order. -/
def starts (system : WatchedBuffers K P) : List Nat :=
  system.history.filterMap fun
    | .called number _ => some number
    | .closed .. => none

/-! ## What other threads leave alone -/

theorem openBuffer_frame (number : Nat) (settings : BufferSettings) (handler : Handler)
    (now : Instant) (system : WatchedBuffers K P) :
    (system.openBuffer number settings handler now).ticker.activity = system.ticker.activity ∧
      (system.openBuffer number settings handler now).check = system.check := by
  simp only [WatchedBuffers.openBuffer]
  rcases RequestBuffer.watched_cases (K := K) (P := P) settings tickerNumber number number
    handler now system.ticker with
    ⟨_, _, result⟩ | ⟨_, ⟨_, result⟩ | ⟨_, ⟨_, result⟩ | ⟨_, result⟩⟩⟩ <;>
    rw [result] <;> exact ⟨rfl, rfl⟩

theorem endClosing_frame (number : Nat) (handle : RegistrationHandle)
    (system : WatchedBuffers K P) :
    (system.endClosing number handle).ticker.activity = system.ticker.activity ∧
      (system.endClosing number handle).check = system.check := by
  simp only [WatchedBuffers.endClosing]
  split
  · exact ⟨rfl, rfl⟩
  next ticker here =>
    obtain rfl := eq_of_ticker?_eq_some here
    exact ⟨(Ticker.remove_frame handle.id system.ticker).2, rfl⟩

/-- Other threads neither interfere with what the ticker's thread does nor call handlers. -/
theorem CallerStep.frame (step : CallerStep system next) :
    next.ticker.activity = system.ticker.activity ∧ next.check = system.check ∧
      next.starts = system.starts := by
  cases step with
  | @openBuffer number settings handler now unused here =>
      obtain ⟨activity, check⟩ := openBuffer_frame number settings handler now system
      exact ⟨activity, check, by rw [starts, openBuffer_history, starts]⟩
  | closeEmpty found free empty => exact ⟨rfl, rfl, by simp [starts, note]⟩
  | @endClosing number handle silenced =>
      obtain ⟨activity, check⟩ := endClosing_frame number handle system
      obtain ⟨outcome, more⟩ := endClosing_history number handle system
      exact ⟨activity, check, by simp [starts, more]⟩
  | conclude stopped ended =>
      rw [Ticker.conclude_value]
      exact ⟨rfl, rfl, rfl⟩
  | _ => exact ⟨rfl, rfl, rfl⟩

/-! ## Progress of a round -/

theorem pending_congr (activity : next.ticker.activity = system.ticker.activity)
    (check : next.check = system.check) : next.pending = system.pending := by
  rw [pending, pending, activity, check]

/-- Between two states the thread has called handlers only of what was pending, each at most
once. -/
def UsesUp (system next : WatchedBuffers K P) : Prop :=
  ∃ started : List Registration,
    next.starts = system.starts ++ started.map Registration.timer ∧
      (started ++ next.pending).Sublist system.pending

theorem UsesUp.silent (starts : next.starts = system.starts)
    (fewer : next.pending.Sublist system.pending) : system.UsesUp next :=
  ⟨[], starts.trans (List.append_nil _).symm, fewer⟩

theorem UsesUp.trans {later : WatchedBuffers K P} (first : system.UsesUp next)
    (second : next.UsesUp later) : system.UsesUp later := by
  obtain ⟨earlier, starts, within⟩ := first
  obtain ⟨started, more, fewer⟩ := second
  refine ⟨earlier ++ started, ?_, ?_⟩
  · rw [more, starts, List.map_append, List.append_assoc]
  · rw [List.append_assoc]
    exact (fewer.append_left earlier).trans within

theorem ThreadStep.usesUp (step : ThreadStep system next) (within : ¬ system.IsBetween) :
    system.UsesUp next := by
  -- What the lock takes from the collected list stays pending until its handler is called.
  cases step with
  | beginRound now between done => exact absurd ⟨between, done⟩ within
  | lock between collected =>
      refine .silent rfl ?_
      simp [WatchedBuffers.pending, between, collected, Activity.collected, Check.waiting]
  | skip locked silenced =>
      refine .silent rfl ?_
      simp [WatchedBuffers.pending, locked, Check.waiting]
  | allow locked live =>
      refine .silent rfl ?_
      simp [WatchedBuffers.pending, locked, Check.waiting]
  | @poll registration now admitted =>
      refine .silent (by rw [starts, poll_history, starts]) ?_
      unfold WatchedBuffers.poll
      split
      · simp [WatchedBuffers.pending, admitted, Check.waiting]
      next buffer found =>
        cases expired : (buffer.timer.pollExpired now).1 <;>
          simp [WatchedBuffers.pending, admitted, withBuffer, expired, Check.waiting]
  | @call registration generation collected ends expired serving =>
      refine ⟨[registration], by simp [starts, note], ?_⟩
      simp [WatchedBuffers.pending, note, expired, serving, Ticker.beginHandling,
        Activity.collected, Check.waiting]
  | leave panicked handling =>
      refine .silent rfl ?_
      simp [WatchedBuffers.pending, handling, Ticker.finishHandling_value, Activity.collected,
        Check.waiting]
  | unlock leaving =>
      refine .silent rfl ?_
      simp [WatchedBuffers.pending, leaving, Check.waiting]

theorem poll_ticker (registration : Registration) (now : Instant) (system : WatchedBuffers K P) :
    (system.poll registration now).ticker = system.ticker := by
  unfold WatchedBuffers.poll
  split <;> rfl

/-- Within a round the thread neither has ended nor ends, and leaves the request to stop and its
handle alone. -/
theorem ThreadStep.alive (step : ThreadStep system next) (within : ¬ system.IsBetween)
    (ended : system.ticker.hasEnded = true → system.check = none) :
    system.ticker.hasEnded = false ∧ next.ticker.hasEnded = false ∧
      next.ticker.stopRequested = system.ticker.stopRequested ∧
      next.ticker.joinable = system.ticker.joinable := by
  -- Wherever a check is under way, the thread runs.
  have runs {check : Check} (checked : system.check = some check) :
      system.ticker.hasEnded = false := by
    by_contra dead
    rw [ended (by simpa using dead)] at checked
    cases checked
  cases step with
  | beginRound now between done => exact absurd ⟨between, done⟩ within
  | lock between collected => exact ⟨by simp [Ticker.hasEnded, collected], rfl, rfl, rfl⟩
  | skip locked silenced => exact ⟨runs locked, runs locked, rfl, rfl⟩
  | allow locked live => exact ⟨runs locked, runs locked, rfl, rfl⟩
  | poll now admitted =>
      rw [poll_ticker]
      exact ⟨runs admitted, runs admitted, rfl, rfl⟩
  | call ends expired serving => exact ⟨runs expired, rfl, rfl, rfl⟩
  | leave panicked handling =>
      rw [Ticker.finishHandling_value]
      exact ⟨by simp [Ticker.hasEnded, handling], rfl, rfl, rfl⟩
  | unlock leaving => exact ⟨runs leaving, runs leaving, rfl, rfl⟩

end WatchedBuffers

end KeyedBatching
