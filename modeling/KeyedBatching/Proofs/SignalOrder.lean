import KeyedBatching.Proofs.TimeoutSignals

/-!
# Signals come once and in order

Before the ticker sends a signal it raises the mark of reported generations above it, and it
sends none that the mark is above already.  So each generation is sent at most once, later
ones are greater, and none is ahead of the generation in progress, whatever the owner does
in the meantime.  The owner takes signals from the front of the channel, so what is left in
there are the last ones sent.
-/

namespace KeyedBatching

/-- The generation whose signal is on its way to the channel. -/
def TickerPhase.delivery? : TickerPhase → Option Nat
  | .delivering generation => some generation
  | _ => none

namespace WatchedController

variable {K P : Type} {system next later : WatchedController K P} {timeout : Duration}

/-! ## What the sides leave each other -/

/-- The ticker finds its own data as it left them, and has lost only signals from the front of
the channel. -/
structure Spares (system next : WatchedController K P) : Prop where
  ticker : next.ticker = system.ticker
  reported : next.timer.reported = system.timer.reported
  signals : next.controller.signals <:+ system.controller.signals

theorem Spares.trans (first : Spares system next) (second : Spares next later) :
    Spares system later where
  ticker := second.ticker.trans first.ticker
  reported := second.reported.trans first.reported
  signals := second.signals.trans first.signals

theorem pop_spares (cause : FlushCause K P) (system : WatchedController K P) :
    Spares system (system.pop cause) := by
  unfold pop
  split
  · exact ⟨rfl, rfl, List.suffix_rfl⟩
  · exact ⟨rfl, rfl, List.suffix_rfl⟩

theorem act_spares (cause : FlushCause K P) (generation : Nat) (system : WatchedController K P) :
    Spares system (system.act cause generation) := by
  cases current : system.timer.isCurrent generation with
  | true =>
      rw [act_current cause current]
      have noted : Spares system (system.note (.consumed generation)) :=
        ⟨rfl, rfl, List.suffix_rfl⟩
      exact noted.trans (pop_spares cause _)
  | false =>
      rw [act_stale cause current]
      exact ⟨rfl, rfl, List.suffix_rfl⟩

theorem openWindow_spares (now : Instant) (system : WatchedController K P) :
    Spares system (system.openWindow now) := by
  have opened : Spares system
      { system with controller := system.controller.openWindow now } :=
    ⟨rfl, (BatchTimer.armIfIdle_frame now system.timer).2, List.suffix_rfl⟩
  rcases openWindow_cases now system with ⟨_, result⟩ | ⟨_, result⟩
  · rw [result]
    exact ⟨rfl, opened.reported, List.suffix_rfl⟩
  · rw [result]
    exact opened.trans (pop_spares .call _)

theorem OwnerStep.spares [DecidableEq K] (step : OwnerStep system next) :
    Spares system next := by
  cases step with
  | openWindow joining => exact openWindow_spares _ _
  | flush resting => exact pop_spares _ _
  | receive resting taken =>
      obtain ⟨later, signals, rfl⟩ := Controller.takeSignal_eq_some taken
      exact ⟨rfl, rfl, signals ▸ List.suffix_cons _ _⟩
  | onTimeout resting held =>
      rename_i generation
      have taken : Spares system
          { system with received := system.received.erase generation } :=
        ⟨rfl, rfl, List.suffix_rfl⟩
      exact taken.trans (act_spares _ _ _)
  | drain draining taken =>
      rename_i batches generation controller
      obtain ⟨later, signals, rfl⟩ := Controller.takeSignal_eq_some taken
      have shorter : Spares system
          { system with controller := system.controller.withSignals later } :=
        ⟨rfl, rfl, signals ▸ List.suffix_cons _ _⟩
      exact shorter.trans (act_spares _ _ _)
  | _ => exact ⟨rfl, rfl, List.suffix_rfl⟩

/-- A step of the ticker out of a delivery sends the signal, and no other step sends one. -/
theorem TickerStep.signals (step : TickerStep system next) :
    next.controller.signals = system.controller.signals ++ system.ticker.delivery?.toList := by
  cases step with
  | load now resting armed => simp [resting, TickerPhase.delivery?]
  | accept loaded expired => simp [loaded, TickerPhase.delivery?]
  | dismiss loaded open_ => simp [loaded, TickerPhase.delivery?]
  | report expired first => simp [expired, TickerPhase.delivery?, Controller.mapTimer, note]
  | skip expired again => simp [expired, TickerPhase.delivery?, Controller.mapTimer]
  | deliver delivering => simp [delivering, TickerPhase.delivery?, Controller.signal]

/-! ## The order of signals -/

/-- The signals sent so far, with the one on its way, have increasing generations below the mark,
and the channel holds the last of them. -/
structure IsOrdered (sent : List Nat) (system : WatchedController K P) : Prop where
  increasing : (sent ++ system.ticker.delivery?.toList).Pairwise (· < ·)
  marked : ∀ generation ∈ sent ++ system.ticker.delivery?.toList,
    generation < system.timer.reported
  queued : system.controller.signals <:+ sent

variable {sent : List Nat}

theorem IsOrdered.spared (ordered : system.IsOrdered sent) (spares : Spares system next) :
    next.IsOrdered sent := by
  obtain ⟨increasing, marked, queued⟩ := ordered
  rw [← spares.ticker] at increasing marked
  rw [← spares.reported] at marked
  exact ⟨increasing, marked, spares.signals.trans queued⟩

/-- With nothing more on its way the sent signals are only noted as such. -/
theorem IsOrdered.settle (ordered : system.IsOrdered sent) (step : TickerStep system next)
    (quiet : next.ticker.delivery? = none)
    (raised : system.timer.reported ≤ next.timer.reported) :
    next.IsOrdered (sent ++ system.ticker.delivery?.toList) := by
  constructor
  · rw [quiet, Option.toList_none, List.append_nil]
    exact ordered.increasing
  · intro generation member
    rw [quiet, Option.toList_none, List.append_nil] at member
    exact Nat.lt_of_lt_of_le (ordered.marked generation member) raised
  · rw [step.signals]
    obtain ⟨front, rfl⟩ := ordered.queued
    exact ⟨front, (List.append_assoc _ _ _).symm⟩

theorem IsOrdered.tickerStep (ordered : system.IsOrdered sent) (step : TickerStep system next) :
    next.IsOrdered (sent ++ system.ticker.delivery?.toList) := by
  cases step with
  | report expired first =>
      rename_i window now
      have before : system.ticker.delivery? = none := by
        rw [expired]
        rfl
      obtain ⟨increasing, marked, queued⟩ := ordered
      rw [before, Option.toList_none, List.append_nil] at increasing marked ⊢
      have raised : max system.timer.reported (BatchTimer.markOf window) =
          window.generation + 1 := Nat.max_eq_right (Nat.le_of_not_le first)
      have behind : ∀ generation ∈ sent, generation < window.generation := by
        intro generation member
        have below := marked generation member
        rw [BatchTimer.markOf] at first
        omega
      refine ⟨?_, ?_, queued⟩
      · change (sent ++ [window.generation]).Pairwise (· < ·)
        rw [List.pairwise_append]
        refine ⟨increasing, List.pairwise_singleton _ _, ?_⟩
        intro generation member other last
        rw [List.mem_singleton.mp last]
        exact behind generation member
      · intro generation member
        change generation < max system.timer.reported (BatchTimer.markOf window)
        rw [raised]
        rcases List.mem_append.mp member with earlier | last
        · exact Nat.lt_succ_of_lt (behind generation earlier)
        · rw [List.mem_singleton.mp last]
          exact Nat.lt_succ_self _
  | load now resting armed =>
      exact ordered.settle (.load now resting armed) rfl (Nat.le_refl _)
  | accept loaded expired => exact ordered.settle (.accept loaded expired) rfl (Nat.le_refl _)
  | dismiss loaded open_ => exact ordered.settle (.dismiss loaded open_) rfl (Nat.le_refl _)
  | skip expired again => exact ordered.settle (.skip expired again) rfl (Nat.le_max_left _ _)
  | deliver delivering => exact ordered.settle (.deliver delivering) rfl (Nat.le_refl _)

/-! ## Runs and what they send -/

/-- What a controller and its ticker reach, and the generations that were sent on the way.  The
owner may also act on a generation of which no signal told. -/
inductive Sends [DecidableEq K] (controller : Controller K P) :
    List Nat → WatchedController K P → Prop
  | start : Sends controller [] { controller }
  | owner {sent : List Nat} {system next : WatchedController K P}
      (reached : Sends controller sent system) (step : OwnerStep system next) :
      Sends controller sent next
  | onTimeout {sent : List Nat} {system : WatchedController K P}
      (reached : Sends controller sent system) (resting : system.owner = .resting)
      (generation : Nat) : Sends controller sent (system.act .call generation)
  | ticker {sent : List Nat} {system next : WatchedController K P}
      (reached : Sends controller sent system) (step : TickerStep system next) :
      Sends controller (sent ++ system.ticker.delivery?.toList) next

/-- A signal that was never sent is acted on like any other; what may leave on it, a flush brings
out as well. -/
theorem IsSound.act_call (sound : system.IsSound timeout) (resting : system.owner = .resting)
    (generation : Nat) : (system.act .call generation).IsSound timeout := by
  have admitted : system.Admits timeout (.consumed generation) := trivial
  have noted : (system.note (.consumed generation)).IsSound timeout := by
    refine { sound.toIsTraced.note admitted with phase := ?_, awaited := sound.awaited }
    exact sound.phase.congr rfl rfl rfl rfl rfl (joinedIn_of_silent rfl _) fun _ before =>
      List.mem_append_left _ before
  cases current : system.timer.isCurrent generation with
  | true =>
      rw [act_current .call current]
      exact noted.flush resting
  | false =>
      rw [act_stale .call current]
      have same : { system.note (.consumed generation) with
          owner := FlushCause.resume none (.call : FlushCause K P) } =
          system.note (.consumed generation) := by
        rw [FlushCause.resume, ← resting]
        rfl
      rw [same]
      exact noted

namespace Sends

variable [DecidableEq K] {controller : Controller K P}

theorem isSound (new : controller.IsNew) (reached : Sends controller sent system) :
    system.IsSound controller.buffer.settings.timeout := by
  induction reached with
  | start => exact isSound_start new
  | owner _ step ih => exact ih.ownerStep step
  | onTimeout _ resting generation ih => exact ih.act_call resting generation
  | ticker _ step ih => exact ih.tickerStep step

theorem isOrdered (reached : Sends controller sent system) (new : controller.IsNew) :
    system.IsOrdered sent := by
  induction reached with
  | start =>
      obtain ⟨settings, registration, _, rfl⟩ := new.eq_around
      exact ⟨.nil, by simp [TickerPhase.delivery?], List.suffix_rfl⟩
  | owner _ step ih => exact ih.spared step.spares
  | onTimeout _ resting generation ih => exact ih.spared (act_spares _ _ _)
  | ticker _ step ih => exact ih.tickerStep step

/-- Nothing was sent, or is on its way, that is ahead of the generation in progress. -/
theorem le_current (new : controller.IsNew) (reached : Sends controller sent system)
    {generation : Nat} (member : generation ∈ sent ++ system.ticker.delivery?.toList) :
    generation ≤ system.timer.current := by
  have below := (reached.isOrdered new).marked generation member
  have mark := (reached.isSound new).mark
  omega

end Sends

end WatchedController

/-! ## Undisturbed rounds -/

/-- Nothing follows the greatest of increasing numbers. -/
theorem eq_nil_of_increasing {number : Nat} {later : List Nat}
    (increasing : (number :: later).Pairwise (· < ·))
    (bounded : ∀ other ∈ later, other ≤ number) : later = [] := by
  apply List.eq_nil_iff_forall_not_mem.mpr
  intro other member
  have ahead := (List.pairwise_cons.mp increasing).1 other member
  have behind := bounded other member
  omega

namespace Controller

variable {K P : Type} {controller : Controller K P}

/-- Among increasing signals up to the generation in progress only the last can be current. -/
theorem actOn_increasing {signals : List Nat} (increasing : signals.Pairwise (· < ·))
    (bounded : ∀ generation ∈ signals, generation ≤ controller.buffer.timer.current) :
    let current := controller.buffer.timer.current
    let outcome := (controller.onTimeout current).value
    (current ∉ signals ∧ (controller.actOn signals).value = ([], controller)) ∨
      current ∈ signals ∧ (controller.actOn signals).value = (outcome.1.toList, outcome.2) := by
  intro current outcome
  induction signals with
  | nil => exact .inl ⟨List.not_mem_nil, rfl⟩
  | cons generation later ih =>
      have rest := (List.pairwise_cons.mp increasing).2
      by_cases same : generation = current
      · right
        have nothing : later = [] := by
          apply eq_nil_of_increasing increasing
          intro other member
          exact same ▸ bounded other (List.mem_cons_of_mem _ member)
        refine ⟨same ▸ List.mem_cons_self, ?_⟩
        rw [nothing, same, actOn_cons]
        exact Prod.ext (List.append_nil _) rfl
      · have stale : controller.buffer.timer.isCurrent generation = false :=
          decide_eq_false (Ne.symm same)
        have skipped : (controller.actOn (generation :: later)).value =
            (controller.actOn later).value := by
          rw [actOn_cons, onTimeout_stale stale]
          rfl
        rw [skipped]
        rcases ih rest fun other member => bounded other (List.mem_cons_of_mem _ member) with
          ⟨absent, result⟩ | ⟨member, result⟩
        · exact .inl ⟨List.not_mem_cons_of_ne_of_not_mem (Ne.symm same) absent, result⟩
        · exact .inr ⟨List.mem_cons_of_mem _ member, result⟩

end Controller

namespace WatchedController

variable {K P : Type} {system : WatchedController K P} {timeout : Duration} {sent : List Nat}

/-- As long as a current signal is pending, its requests are queued. -/
theorem IsSettled.queue_ne_nil (settled : system.IsSettled) (traced : system.IsTraced timeout)
    (pending : system.IsPending system.timer.current) : system.queue ≠ [] := by
  intro empty
  obtain ⟨now, noted⟩ := traced.pending _ pending
  apply traced.joinedIn_ne_nil noted
  rw [← List.map_eq_nil_iff, settled.queued]
  exact empty

theorem IsOrdered.signals (ordered : system.IsOrdered sent) :
    system.controller.signals.Pairwise (· < ·) ∧
      ∀ generation ∈ system.controller.signals, generation < system.timer.reported := by
  obtain ⟨increasing, marked, queued⟩ := ordered
  constructor
  · exact (List.pairwise_append.mp increasing).1.sublist queued.sublist
  · intro generation member
    exact marked generation (List.mem_append_left _ (queued.subset member))

/-- Undisturbed, a round over all signals gives one batch if the generation in progress was
signalled, and none otherwise. -/
theorem IsOrdered.processTimeouts (ordered : system.IsOrdered sent)
    (sound : system.IsSound timeout) (resting : system.owner = .resting) :
    let outcome := system.controller.processTimeouts.value
    outcome.2.signals = [] ∧
      (system.timer.current ∉ system.controller.signals ∧ outcome.1 = [] ∨
        system.timer.current ∈ system.controller.signals ∧ outcome.1.length = 1) := by
  intro outcome
  let taken := system.controller.withSignals []
  obtain ⟨increasing, marked⟩ := ordered.signals
  have bounded : ∀ generation ∈ system.controller.signals,
      generation ≤ taken.buffer.timer.current := by
    intro generation member
    have below := marked generation member
    have mark := sound.mark
    change generation ≤ system.timer.current
    omega
  rcases Controller.actOn_increasing increasing bounded with
    ⟨absent, (result : outcome = _)⟩ | ⟨member, (result : outcome = _)⟩
  · rw [result]
    exact ⟨rfl, .inl ⟨absent, rfl⟩⟩
  · have settled : system.IsSettled := sound.holdsIn resting
    have waiting := settled.queue_ne_nil sound.toIsTraced (.inr (.inl member))
    have acts := Controller.onTimeout_withSignals [] system.controller system.timer.current
    have same : taken.buffer.timer.current = system.timer.current := rfl
    rw [result, same, acts, settled.onTimeout waiting]
    exact ⟨rfl, .inr ⟨member, rfl⟩⟩

end WatchedController

end KeyedBatching
