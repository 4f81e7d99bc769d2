import KeyedBatching.Proofs.SignalOrder
import Mathlib.Data.List.Nodup
import Mathlib.Data.List.Perm.Subperm

/-!
# Rounds over all signals

A round takes one signal after the other until the channel is empty, while the ticker goes on
polling and may send more.  As long as the signals are stale nothing leaves.  The first
current one is the last of all: it brings out what is queued, and until the round is over
no window opens that the ticker could report.  So a round ends, since only so many
generations can be signalled, and it returns a batch exactly if its greatest signal was
current when it was taken.  For that batch, and for nothing else, it needs room.
-/

namespace KeyedBatching

/-- What has happened in a round: the signals that it consumed, each with whether its generation
was in progress then, the signals that the ticker has sent, and the steps of the owner. -/
structure RoundLog where
  consumed : List (Nat × Bool) := []
  sent : List Nat := []
  steps : Nat := 0
deriving DecidableEq

namespace RoundLog

/-- One more step of the owner, who has perhaps consumed a signal. -/
def step (consumed? : Option (Nat × Bool)) (log : RoundLog) : RoundLog :=
  { log with consumed := log.consumed ++ consumed?.toList, steps := log.steps + 1 }

/-- The ticker has perhaps sent a signal. -/
def send (sent? : Option Nat) (log : RoundLog) : RoundLog :=
  { log with sent := log.sent ++ sent?.toList }

end RoundLog

namespace WatchedController

variable {K P : Type} {system next start : WatchedController K P} {timeout : Duration}

/-- The signal that the owner consumes next in its round, and whether it is current. -/
def consumes? (system : WatchedController K P) : Option (Nat × Bool) :=
  match system.owner, system.controller.signals with
  | .draining _, generation :: _ => some (generation, system.timer.isCurrent generation)
  | _, _ => none

/-- A round over all signals up to some point, after which the owner has still to rest. -/
inductive Round [DecidableEq K] (start : WatchedController K P) :
    RoundLog → WatchedController K P → Prop
  | begin : Round start {} { start with owner := .draining [] }
  | owner {log : RoundLog} {system next : WatchedController K P}
      (running : Round start log system) (step : OwnerStep system next)
      (goesOn : next.owner ≠ .resting) :
      Round start (log.step system.consumes?) next
  | ticker {log : RoundLog} {system next : WatchedController K P}
      (running : Round start log system) (step : TickerStep system next) :
      Round start (log.send system.ticker.delivery?) next

/-! ## Steps in a round -/

theorem act_drained_ne_resting (generation : Nat) (batches : List (Batch (Request K P)))
    (system : WatchedController K P) :
    (system.act (.drained generation batches) generation).owner ≠ .resting := by
  cases current : system.timer.isCurrent generation with
  | true =>
      rw [act_current _ current, pop]
      split
      · simp [FlushCause.resume]
      · simp
  | false =>
      rw [act_stale _ current]
      simp [FlushCause.resume]

theorem OwnerStep.of_draining [DecidableEq K] (step : OwnerStep system next)
    {batches : List (Batch (Request K P))} (draining : system.owner = .draining batches) :
    (system.controller.signals = [] ∧ next = { system with owner := .resting }) ∨
      ∃ generation later, system.controller.signals = generation :: later ∧
        next = { system with controller := system.controller.withSignals later }.act
          (.drained generation batches) generation := by
  cases step with
  | drain same taken =>
      obtain ⟨later, signals, rfl⟩ := Controller.takeSignal_eq_some taken
      obtain rfl := OwnerPhase.draining.inj (draining.symm.trans same)
      exact .inr ⟨_, later, signals, rfl⟩
  | endDrain same taken =>
      refine .inl ⟨?_, rfl⟩
      cases signals : system.controller.signals with
      | nil => rfl
      | cons generation later => simp [Controller.takeSignal, signals] at taken
  | _ => simp_all

theorem OwnerStep.of_popped [DecidableEq K] (step : OwnerStep system next)
    {batch : Batch (Request K P)} {cause : FlushCause K P}
    (popped : system.owner = .popped batch cause) :
    next = { system with
      controller := system.controller.mapTimer (BatchTimer.store none)
      owner := .closed batch cause } := by
  cases step <;> simp_all

theorem OwnerStep.of_closed [DecidableEq K] (step : OwnerStep system next)
    {batch : Batch (Request K P)} {cause : FlushCause K P}
    (closed : system.owner = .closed batch cause) :
    next = { system with
      controller := system.controller.mapTimer BatchTimer.increment
      owner := cause.resume (some batch) }.note (.returned cause.signal? batch) := by
  cases step <;> simp_all

/-- The ticker neither moves the owner nor starts a generation nor returns a batch. -/
theorem TickerStep.frame (step : TickerStep system next) :
    next.owner = system.owner ∧ next.timer.current = system.timer.current ∧
      batchesOf next.history = batchesOf system.history := by
  cases step with
  | report expired first => exact ⟨rfl, rfl, by simp [note, batchesOf]⟩
  | _ => exact ⟨rfl, rfl, rfl⟩

/-! ## No further signal -/

/-- The ticker has reported the generation, and knows of no window after it. -/
structure IsQuiet (generation : Nat) (system : WatchedController K P) : Prop where
  signals : system.controller.signals = []
  delivery : system.ticker.delivery? = none
  marked : generation < system.timer.reported
  armed : ∀ window, system.timer.armed = some window → window.generation ≤ generation
  held : ∀ window, system.ticker.window? = some window → window.generation ≤ generation

theorem IsQuiet.tickerStep {generation : Nat} (quiet : system.IsQuiet generation)
    (step : TickerStep system next) : next.IsQuiet generation := by
  obtain ⟨signals, delivery, marked, armed, held⟩ := quiet
  have silent : next.controller.signals = [] := by
    rw [step.signals, signals, delivery]
    rfl
  cases step with
  | load now resting opened =>
      refine ⟨silent, rfl, marked, armed, ?_⟩
      intro window loaded
      obtain rfl := Option.some.inj loaded
      exact armed _ opened
  | accept loaded expired =>
      refine ⟨silent, rfl, marked, armed, ?_⟩
      rw [loaded] at held
      exact held
  | dismiss loaded open_ =>
      refine ⟨silent, rfl, marked, armed, ?_⟩
      intro window holds
      cases holds
  | report expired first =>
      rename_i window now
      rw [expired] at held
      have bound := held window rfl
      rw [BatchTimer.markOf] at first
      omega
  | skip expired again =>
      refine ⟨silent, rfl, Nat.lt_of_lt_of_le marked (Nat.le_max_left _ _), armed, ?_⟩
      intro window holds
      cases holds
  | deliver delivering =>
      rw [delivering] at delivery
      cases delivery

/-- When a current signal is taken, it was the last one. -/
theorem IsOrdered.isQuiet {sent : List Nat} (ordered : system.IsOrdered sent)
    (traced : system.IsTraced timeout) {later : List Nat}
    (signals : system.controller.signals = system.timer.current :: later) :
    later = [] ∧ { system with
      controller := system.controller.withSignals later }.IsQuiet system.timer.current := by
  have mark := traced.mark
  obtain ⟨increasing, below⟩ := ordered.signals
  rw [signals] at increasing below
  have nothing : later = [] := by
    apply eq_nil_of_increasing increasing
    intro other member
    have behind := below other (List.mem_cons_of_mem _ member)
    omega
  have first : system.timer.current ∈ sent := by
    apply ordered.queued.subset
    rw [signals]
    exact List.mem_cons_self
  have marked := ordered.marked _ (List.mem_append_left _ first)
  have idle : system.ticker.delivery? = none := by
    cases delivery : system.ticker.delivery? with
    | none => rfl
    | some generation =>
        have last : generation ∈ system.ticker.delivery?.toList := by simp [delivery]
        have ahead := (List.pairwise_append.mp ordered.increasing).2.2 _ first _ last
        have behind := ordered.marked generation (List.mem_append_right _ last)
        omega
  refine ⟨nothing, nothing, idle, marked, ?_, fun window holds => (traced.held window holds).1⟩
  intro window armed
  exact Nat.le_of_eq (traced.window window armed).1

/-! ## The two halves of a round -/

/-- No current signal was consumed, and nothing has left. -/
structure IsSearching (start : WatchedController K P) (log : RoundLog)
    (system : WatchedController K P) : Prop where
  owner : system.owner = .draining []
  current : system.timer.current = start.timer.current
  stale : ∀ entry ∈ log.consumed, entry.2 = false
  steps : log.steps = log.consumed.length
  returns : batchesOf system.history = batchesOf start.history

/-- How many steps the owner has made since a current signal brought out a batch. -/
inductive HandsOver (start system : WatchedController K P) : Nat → Prop
  | popped (batch : Batch (Request K P)) (generation : Nat)
      (owner : system.owner = .popped batch (.drained generation []))
      (returns : batchesOf system.history = batchesOf start.history) : HandsOver start system 0
  | closed (batch : Batch (Request K P)) (generation : Nat)
      (owner : system.owner = .closed batch (.drained generation []))
      (returns : batchesOf system.history = batchesOf start.history) : HandsOver start system 1
  | returned (batch : Batch (Request K P)) (owner : system.owner = .draining [batch])
      (returns : batchesOf system.history = batchesOf start.history ++ [batch]) :
      HandsOver start system 2

/-- The signal of the generation that was in progress at the beginning has been consumed. -/
structure HasFound (start : WatchedController K P) (log : RoundLog)
    (system : WatchedController K P) : Prop where
  consumed : ∃ earlier, log.consumed = earlier ++ [(start.timer.current, true)]
  quiet : system.IsQuiet start.timer.current
  progress : ∃ count, HandsOver start system count ∧ log.steps = log.consumed.length + count

theorem IsSearching.tickerStep {log : RoundLog} (searching : IsSearching start log system)
    (step : TickerStep system next) (sent? : Option Nat) :
    IsSearching start (log.send sent?) next := by
  obtain ⟨owner, current, returns⟩ := step.frame
  exact ⟨owner.trans searching.owner, current.trans searching.current, searching.stale,
    searching.steps, returns.trans searching.returns⟩

theorem HasFound.tickerStep {log : RoundLog} (found : HasFound start log system)
    (step : TickerStep system next) (sent? : Option Nat) :
    HasFound start (log.send sent?) next := by
  obtain ⟨owner, _, history⟩ := step.frame
  obtain ⟨consumed, quiet, count, hands, steps⟩ := found
  refine ⟨consumed, quiet.tickerStep step, count, ?_, steps⟩
  cases hands with
  | popped batch generation stands returns =>
      exact .popped batch generation (owner.trans stands) (history.trans returns)
  | closed batch generation stands returns =>
      exact .closed batch generation (owner.trans stands) (history.trans returns)
  | returned batch stands returns =>
      exact .returned batch (owner.trans stands) (history.trans returns)

/-- A current signal brings out all that is queued. -/
theorem IsSettled.act_current (settled : system.IsSettled) (waiting : system.queue ≠ [])
    (cause : FlushCause K P) :
    system.act cause system.timer.current = { system.note (.consumed system.timer.current) with
      controller := system.controller.dropBatch
      owner := .popped ⟨system.queue, system.timer.current⟩ cause } := by
  have noted : (system.note (.consumed system.timer.current)).controller.nextBatch? = _ :=
    settled.nextBatch? waiting
  rw [WatchedController.act_current cause (decide_eq_true rfl), pop, noted]
  rfl

variable [DecidableEq K] {log : RoundLog} {sent : List Nat}

/-- A stale signal is passed over; a current one brings out what is queued. -/
theorem IsSearching.ownerStep (searching : IsSearching start log system)
    (sound : system.IsSound timeout) (ordered : system.IsOrdered sent)
    (step : OwnerStep system next) (goesOn : next.owner ≠ .resting) :
    system.controller.signals =
        system.consumes?.toList.map Prod.fst ++ next.controller.signals ∧
      (IsSearching start (log.step system.consumes?) next ∨
        HasFound start (log.step system.consumes?) next) := by
  obtain ⟨owner, current, stale, steps, returns⟩ := searching
  rcases step.of_draining owner with ⟨_, rfl⟩ | ⟨generation, later, signals, acts⟩
  · exact absurd rfl goesOn
  have consumes : system.consumes? = some (generation, system.timer.isCurrent generation) := by
    simp [consumes?, owner, signals]
  let taken : WatchedController K P :=
    { system with controller := system.controller.withSignals later }
  have unreturned : batchesOf next.history = batchesOf start.history := by
    rw [acts, act_silent]
    exact returns
  rw [consumes]
  cases fresh : system.timer.isCurrent generation with
  | false =>
      have result : next = { taken.note (.consumed generation) with owner := .draining [] } :=
        acts.trans (act_stale (.drained generation []) fresh)
      rw [result] at unreturned ⊢
      refine ⟨signals, .inl ⟨rfl, current, ?_, ?_, unreturned⟩⟩
      · intro entry member
        rcases List.mem_append.mp member with before | last
        · exact stale entry before
        · obtain rfl := List.mem_singleton.mp last
          rfl
      · simp [RoundLog.step, steps]
  | true =>
      obtain rfl : system.timer.current = generation := of_decide_eq_true fresh
      have settled : system.IsSettled := sound.holdsIn owner
      have first : system.timer.current ∈ system.controller.signals := by
        rw [signals]
        exact List.mem_cons_self
      have waiting := settled.queue_ne_nil sound.toIsTraced (.inr (.inl first))
      obtain ⟨_, quiet⟩ := ordered.isQuiet sound.toIsTraced signals
      have ready : taken.IsSettled := { settled with }
      have result : next = _ := acts.trans (ready.act_current waiting _)
      rw [result] at unreturned ⊢
      refine ⟨signals, .inr ⟨⟨log.consumed, ?_⟩, ?_, 0, .popped _ _ rfl unreturned, ?_⟩⟩
      · rw [← current]
        rfl
      · rw [← current]
        exact { quiet with }
      · simp [RoundLog.step, steps]

theorem HasFound.ownerStep (found : HasFound start log system)
    (step : OwnerStep system next) (goesOn : next.owner ≠ .resting) :
    system.controller.signals =
        system.consumes?.toList.map Prod.fst ++ next.controller.signals ∧
      HasFound start (log.step system.consumes?) next := by
  obtain ⟨consumed, quiet, count, hands, steps⟩ := found
  cases hands with
  | popped batch generation owner returns =>
      obtain rfl := step.of_popped owner
      have consumes : system.consumes? = none := by simp [consumes?, owner]
      have same : (log.step none).consumed = log.consumed := List.append_nil _
      rw [consumes]
      refine ⟨rfl, same ▸ consumed, ?_, 1, .closed batch generation rfl returns, ?_⟩
      · refine { quiet with armed := ?_ }
        intro window opened
        cases opened
      · rw [same]
        exact congrArg Nat.succ steps
  | closed batch generation owner returns =>
      obtain rfl := step.of_closed owner
      have consumes : system.consumes? = none := by simp [consumes?, owner]
      have same : (log.step none).consumed = log.consumed := List.append_nil _
      rw [consumes]
      refine ⟨rfl, same ▸ consumed, { quiet with }, 2, .returned batch rfl ?_, ?_⟩
      · simpa [note, batchesOf] using returns
      · rw [same]
        exact congrArg Nat.succ steps
  | returned batch owner returns =>
      rcases step.of_draining owner with ⟨_, rfl⟩ | ⟨generation, later, signals, _⟩
      · exact absurd rfl goesOn
      · rw [quiet.signals] at signals
        cases signals

/-! ## Whole rounds -/

/-- The signals come out of the channel in the order in which they went in, and the round is in
one of its halves. -/
structure IsRound (start : WatchedController K P) (log : RoundLog)
    (system : WatchedController K P) : Prop where
  fifo : start.controller.signals ++ log.sent =
    log.consumed.map Prod.fst ++ system.controller.signals
  half : IsSearching start log system ∨ HasFound start log system

namespace Round

variable {controller : Controller K P}

theorem sends (running : Round start log system) (reached : Sends controller sent start)
    (resting : start.owner = .resting) : Sends controller (sent ++ log.sent) system := by
  induction running with
  | begin =>
      rw [List.append_nil]
      exact reached.owner (.beginDrain resting)
  | owner _ step _ ih => exact ih.owner step
  | ticker _ step ih =>
      rw [RoundLog.send, ← List.append_assoc]
      exact ih.ticker step

theorem isRound (running : Round start log system) (new : controller.IsNew)
    (reached : Sends controller sent start) (resting : start.owner = .resting) :
    IsRound start log system := by
  induction running with
  | begin => exact ⟨List.append_nil _, .inl ⟨rfl, rfl, by simp, rfl, rfl⟩⟩
  | owner running step goesOn ih =>
      rename_i log system next
      obtain ⟨fifo, half⟩ := ih
      have sends := running.sends reached resting
      have stepped : system.controller.signals =
            system.consumes?.toList.map Prod.fst ++ next.controller.signals ∧
          (IsSearching start (log.step system.consumes?) next ∨
            HasFound start (log.step system.consumes?) next) := by
        rcases half with searching | found
        · exact searching.ownerStep (sends.isSound new) (sends.isOrdered new) step goesOn
        · exact (found.ownerStep step goesOn).imp_right .inr
      obtain ⟨taken, halves⟩ := stepped
      refine ⟨?_, halves⟩
      change _ = (log.consumed ++ system.consumes?.toList).map Prod.fst ++ _
      rw [List.map_append, List.append_assoc, ← taken]
      exact fifo
  | ticker running step ih =>
      obtain ⟨fifo, half⟩ := ih
      constructor
      · change _ ++ (_ ++ _) = _
        rw [step.signals, ← List.append_assoc, ← List.append_assoc, fifo]
        rfl
      · rcases half with searching | found
        · exact .inl (searching.tickerStep step _)
        · exact .inr (found.tickerStep step _)

end Round

theorem IsRound.exists_ownerStep (round : IsRound start log system) :
    ∃ next, OwnerStep system next := by
  have inRound {batches : List (Batch (Request K P))} (owner : system.owner = .draining batches) :
      ∃ next, OwnerStep system next := by
    rcases taken : system.controller.takeSignal with ⟨generation?, rest⟩
    cases generation? with
    | none => exact ⟨_, .endDrain owner taken⟩
    | some generation => exact ⟨_, .drain owner taken⟩
  rcases round.half with searching | found
  · exact inRound searching.owner
  · obtain ⟨count, hands, _⟩ := found.progress
    cases hands with
    | popped batch generation owner returns => exact ⟨_, .closeWindow owner⟩
    | closed batch generation owner returns => exact ⟨_, .advance owner⟩
    | returned batch owner returns => exact inRound owner

omit [DecidableEq K] in
/-- What a round consumes has increasing generations, none ahead of the one that was in progress
at the beginning. -/
theorem IsRound.consumed (round : IsRound start log system)
    (before : start.IsOrdered sent) (ordered : system.IsOrdered (sent ++ log.sent))
    (traced : system.IsTraced timeout) :
    (log.consumed.map Prod.fst).Pairwise (· < ·) ∧
      ∀ entry ∈ log.consumed, entry.1 ≤ start.timer.current := by
  have last : log.consumed.map Prod.fst ++ system.controller.signals <:+ sent ++ log.sent := by
    obtain ⟨front, rfl⟩ := before.queued
    rw [← round.fifo]
    exact ⟨front, (List.append_assoc _ _ _).symm⟩
  have allSent := (List.pairwise_append.mp ordered.increasing).1
  have increasing := (List.pairwise_append.mp (allSent.sublist last.sublist)).1
  refine ⟨increasing, ?_⟩
  intro entry member
  rcases round.half with searching | found
  · have within : entry.1 ∈ sent ++ log.sent :=
      last.subset (List.mem_append_left _ (List.mem_map_of_mem member))
    have below := ordered.marked _ (List.mem_append_left _ within)
    have mark := traced.mark
    rw [searching.current] at mark
    omega
  · obtain ⟨earlier, whole⟩ := found.consumed
    rw [whole, List.map_append] at increasing
    rw [whole] at member
    rcases List.mem_append.mp member with first | final
    · exact Nat.le_of_lt ((List.pairwise_append.mp increasing).2.2 _
        (List.mem_map_of_mem first) _ List.mem_cons_self)
    · obtain rfl := List.mem_singleton.mp final
      exact Nat.le_refl _

theorem length_le_of_increasing {numbers : List Nat} (increasing : numbers.Pairwise (· < ·))
    {bound : Nat} (bounded : ∀ number ∈ numbers, number ≤ bound) :
    numbers.length ≤ bound + 1 := by
  have distinct : numbers.Nodup := increasing.imp Nat.ne_of_lt
  have within : numbers ⊆ List.range (bound + 1) := fun number member =>
    List.mem_range.mpr (Nat.lt_succ_of_le (bounded number member))
  simpa using (List.subperm_of_subset distinct within).length_le

omit [DecidableEq K] in
theorem IsRound.steps_le (round : IsRound start log system)
    (short : log.consumed.length ≤ start.timer.current + 1) :
    log.steps ≤ start.timer.current + 3 := by
  rcases round.half with searching | found
  · have counted := searching.steps
    omega
  · obtain ⟨count, hands, counted⟩ := found.progress
    have few : count ≤ 2 := by cases hands <;> omega
    omega

/-- When the owner rests again, the channel is empty, and a batch was returned if the greatest
signal consumed was current. -/
theorem IsRound.ends (round : IsRound start log system)
    (bounded : ∀ entry ∈ log.consumed, entry.1 ≤ start.timer.current)
    (step : OwnerStep system next) (rests : next.owner = .resting) :
    next.controller.signals = [] ∧
      log.consumed.map Prod.fst = start.controller.signals ++ log.sent ∧
      ∃ batches, system.owner = .draining batches ∧
        batchesOf next.history = batchesOf start.history ++ batches ∧ batches.length ≤ 1 ∧
        (batches.length = 1 ↔ ∃ generation, (generation, true) ∈ log.consumed ∧
          ∀ other ∈ log.consumed, other.1 ≤ generation) := by
  obtain ⟨fifo, half⟩ := round
  have leaves {batches : List (Batch (Request K P))} (owner : system.owner = .draining batches) :
      next.controller.signals = [] ∧
        log.consumed.map Prod.fst = start.controller.signals ++ log.sent ∧
        batchesOf next.history = batchesOf system.history := by
    rcases step.of_draining owner with ⟨empty, rfl⟩ | ⟨generation, later, _, rfl⟩
    · rw [empty, List.append_nil] at fifo
      exact ⟨empty, fifo.symm, rfl⟩
    · exact absurd rests (act_drained_ne_resting _ _ _)
  rcases half with searching | found
  · obtain ⟨empty, consumed, history⟩ := leaves searching.owner
    have returned : batchesOf next.history = batchesOf start.history ++ [] := by
      rw [history, searching.returns, List.append_nil]
    refine ⟨empty, consumed, [], searching.owner, returned, Nat.zero_le 1, ?_⟩
    refine iff_of_false Nat.zero_ne_one ?_
    rintro ⟨generation, current, _⟩
    cases searching.stale _ current
  · obtain ⟨⟨earlier, whole⟩, _, count, hands, _⟩ := found
    cases hands with
    | popped batch generation owner returns =>
        obtain rfl := step.of_popped owner
        cases rests
    | closed batch generation owner returns =>
        obtain rfl := step.of_closed owner
        cases rests
    | returned batch owner returns =>
        obtain ⟨empty, consumed, history⟩ := leaves owner
        refine ⟨empty, consumed, [batch], owner, history.trans returns, Nat.le_refl 1, ?_⟩
        refine iff_of_true rfl ⟨start.timer.current, ?_, bounded⟩
        rw [whole]
        exact List.mem_append_right _ List.mem_cons_self

omit [DecidableEq K] in
/-- A stale signal asks for nothing, a current one for room. -/
theorem IsSound.returns_consumed_iff (sound : system.IsSound timeout) {generation : Nat}
    {current : Bool} (consumes : system.consumes? = some (generation, current))
    (machine : Machine) :
    (system.controller.onTimeout generation).returns machine = true ↔
      (current = true → machine.meets (.room system.controller.batchSize) = true) := by
  simp only [consumes?] at consumes
  split at consumes
  next owner signals =>
    obtain ⟨rfl, fresh⟩ := Prod.mk.inj (Option.some.inj consumes)
    cases current with
    | true =>
        have settled : system.IsSettled := sound.holdsIn owner
        obtain rfl : system.timer.current = _ := of_decide_eq_true fresh
        have first : system.timer.current ∈ system.controller.signals := by
          rw [signals]
          exact List.mem_cons_self
        have waiting := settled.queue_ne_nil sound.toIsTraced (.inr (.inl first))
        rw [settled.returns_onTimeout_iff waiting]
        exact ⟨fun room _ => room, fun room => room rfl⟩
    | false =>
        rw [Controller.returns_onTimeout_iff, Controller.onTimeout_stale fresh]
        exact iff_of_true (.inl rfl) (fun never => nomatch never)
  · cases consumes

omit [DecidableEq K] in
/-- Undisturbed, a round asks for room if the generation in progress was signalled. -/
theorem IsOrdered.returns_processTimeouts_iff (ordered : system.IsOrdered sent)
    (sound : system.IsSound timeout) (resting : system.owner = .resting) (machine : Machine) :
    system.controller.processTimeouts.returns machine = true ↔
      ((∃ generation ∈ system.controller.signals, system.timer.isCurrent generation = true) →
        machine.meets (.room system.controller.batchSize) = true) := by
  rw [Controller.returns_processTimeouts_iff, Controller.RoomFor]
  rcases (ordered.processTimeouts sound resting).2 with ⟨absent, nothing⟩ | ⟨member, one⟩
  · refine iff_of_true (.inl nothing) ?_
    rintro ⟨generation, within, current⟩
    obtain rfl : system.timer.current = generation := of_decide_eq_true current
    exact absurd within absent
  · have something : system.controller.processTimeouts.value.1 ≠ [] := by
      intro nothing
      rw [nothing] at one
      cases one
    have signalled : ∃ generation ∈ system.controller.signals,
        system.timer.isCurrent generation = true :=
      ⟨system.timer.current, member, decide_eq_true rfl⟩
    rw [or_iff_right something, forall_prop_of_true signalled]

/-- Every run sends increasing generations, none ahead of the one in progress.  A round over all
signals, whatever the ticker does meanwhile, goes on until it ends, after at most as many steps
of the owner as there can be signals and two more.  Then the channel is empty, and the round
has consumed what was in it and what was sent, and has returned one batch if the greatest of
these generations was in progress when it was consumed, and none otherwise.  Only for the signal
of that generation a machine must have room, and as much as for a full batch.  The round that
nobody disturbs does the same in one operation. -/
theorem sends_rounds_exact {controller : Controller K P} (new : controller.IsNew)
    (reached : Sends controller sent start) :
    (sent.Pairwise (· < ·) ∧ ∀ generation ∈ sent, generation ≤ start.timer.current) ∧
      (start.owner = .resting → ∀ log running, Round start log running →
        (∃ next, OwnerStep running next) ∧ log.steps ≤ start.timer.current + 3 ∧
          (∀ next, OwnerStep running next → next.owner = .resting →
            next.controller.signals = [] ∧
              log.consumed.map Prod.fst = start.controller.signals ++ log.sent ∧
              ∃ batches, running.owner = .draining batches ∧
                batchesOf next.history = batchesOf start.history ++ batches ∧
                batches.length ≤ 1 ∧
                (batches.length = 1 ↔ ∃ generation, (generation, true) ∈ log.consumed ∧
                  ∀ other ∈ log.consumed, other.1 ≤ generation)) ∧
          ∀ generation current (machine : Machine),
            running.consumes? = some (generation, current) →
            ((running.controller.onTimeout generation).returns machine = true ↔
              (current = true →
                machine.meets (.room running.controller.batchSize) = true))) ∧
      (start.owner = .resting →
        let outcome := start.controller.processTimeouts.value
        outcome.2.signals = [] ∧ outcome.1.length ≤ 1 ∧
          (outcome.1.length = 1 ↔ ∃ generation ∈ start.controller.signals,
            start.timer.isCurrent generation = true ∧
              ∀ other ∈ start.controller.signals, other ≤ generation) ∧
          ∀ machine : Machine, start.controller.processTimeouts.returns machine = true ↔
            ((∃ generation ∈ start.controller.signals,
                start.timer.isCurrent generation = true) →
              machine.meets (.room start.controller.batchSize) = true)) := by
  have sound := reached.isSound new
  have ordered := reached.isOrdered new
  have bounded : ∀ generation ∈ sent, generation ≤ start.timer.current := fun _ member =>
    reached.le_current new (List.mem_append_left _ member)
  refine ⟨⟨(List.pairwise_append.mp ordered.increasing).1, bounded⟩, ?_, ?_⟩
  · intro resting log running steps
    have round := steps.isRound new reached resting
    have later := steps.sends reached resting
    have soundLater := later.isSound new
    obtain ⟨increasing, behind⟩ :=
      round.consumed ordered (later.isOrdered new) soundLater.toIsTraced
    have short : log.consumed.length ≤ start.timer.current + 1 := by
      rw [← List.length_map Prod.fst]
      apply length_le_of_increasing increasing
      intro generation member
      obtain ⟨entry, within, rfl⟩ := List.mem_map.mp member
      exact behind entry within
    exact ⟨round.exists_ownerStep, round.steps_le short, fun next step => round.ends behind step,
      fun _ _ machine consumes => soundLater.returns_consumed_iff consumes machine⟩
  · intro resting outcome
    have asks := ordered.returns_processTimeouts_iff sound resting
    obtain ⟨empty, result⟩ := ordered.processTimeouts sound resting
    rcases result with ⟨absent, nothing⟩ | ⟨member, one⟩
    · have none : outcome.1 = [] := nothing
      rw [none]
      refine ⟨empty, Nat.zero_le 1, iff_of_false Nat.zero_ne_one ?_, asks⟩
      rintro ⟨generation, within, current, _⟩
      obtain rfl : start.timer.current = generation := of_decide_eq_true current
      exact absent within
    · refine ⟨empty, Nat.le_of_eq one, iff_of_true one ?_, asks⟩
      refine ⟨start.timer.current, member, decide_eq_true rfl, ?_⟩
      intro other queued
      exact bounded other (ordered.queued.subset queued)

/-- A round that begins with a stale signal in the channel and the next one on its way, which the
ticker sends when the stale one has been consumed. -/
theorem sends_rounds_exact_late_signal :
    let settings : ControllerSettings :=
      { buffer := { timeout := 10, interval := 1 }, batchSize := 2 }
    let controller : Controller Nat String := .around settings (.empty settings.buffer none)
    let second : Request Nat String := ⟨8, .usual, "second"⟩
    ∃ start running next : WatchedController Nat String, controller.IsNew ∧
      Sends controller [0] start ∧ start.owner = .resting ∧ start.controller.signals = [0] ∧
      Round start ⟨[(0, false), (1, true)], [1], 4⟩ running ∧ OwnerStep running next ∧
      next.owner = .resting ∧ 4 ≤ start.timer.current + 3 ∧ next.controller.signals = [] ∧
      ∃ batches, running.owner = .draining batches ∧ batches = [⟨[second], 1⟩] ∧
        batchesOf next.history = batchesOf start.history ++ batches ∧
        (batches.length = 1 ↔ ∃ generation,
          (generation, true) ∈ [(0, false), (1, true)] ∧
            ∀ other ∈ [(0, false), (1, true)], other.1 ≤ generation) ∧
        start.controller.processTimeouts.returns ({} : Machine) = true := by
  intro settings controller second
  let first : Request Nat String := ⟨7, .usual, "first"⟩
  have new : controller.IsNew := .unwatched settings rfl
  have begun : Sends controller [] { controller } := .start
  have joined := begun.owner (.submit 5 first rfl rfl)
  have opened := joined.owner (.openWindow rfl)
  have loaded := opened.ticker (.load 15 rfl rfl)
  have accepted := loaded.ticker (.accept rfl rfl)
  have popped := accepted.owner (.flush rfl)
  have reported := popped.ticker (.report rfl (by decide))
  have shut := reported.owner (.closeWindow rfl)
  have advanced := shut.owner (.advance rfl)
  let signalled : WatchedController Nat String :=
    { controller := { controller with
        buffer := { controller.buffer with
          timer := { timeout := 10, current := 1, reported := 1 } }
        inFlight := [7]
        signals := [0] }
      history := [.joined 0 5 first, .reported 0 15, .returned none ⟨[first], 0⟩] }
  have delivered : Sends controller [0] signalled := advanced.ticker (.deliver rfl)
  have joinedAgain := delivered.owner (.submit 20 second rfl rfl)
  have openedAgain := joinedAgain.owner (.openWindow rfl)
  have loadedAgain := openedAgain.ticker (.load 30 rfl rfl)
  have acceptedAgain := loadedAgain.ticker (.accept rfl rfl)
  let state : WatchedController Nat String :=
    { controller := { signalled.controller with
        buffer := { controller.buffer with
          active := ⟨[second]⟩
          timer := { timeout := 10, current := 1, armed := some ⟨1, 30⟩, reported := 2 } }
        inFlight := [8, 7] }
      ticker := .delivering 1
      history := signalled.history ++ [.joined 1 20 second, .reported 1 30] }
  have reportedAgain := acceptedAgain.ticker (.report rfl (by decide))
  have reached : Sends controller [0] state := reportedAgain
  have round : Round state {} { state with owner := .draining [] } := .begin
  have skipped := round.owner (.drain rfl rfl) (by decide)
  have sent := skipped.ticker (.deliver rfl)
  have taken := sent.owner (.drain rfl rfl) (by decide)
  have closed := taken.owner (.closeWindow rfl) (by decide)
  have returned := closed.owner (.advance rfl) (by decide)
  obtain ⟨_, rounds, undisturbed⟩ := sends_rounds_exact new reached
  obtain ⟨_, short, ends, _⟩ := rounds rfl _ _ returned
  obtain ⟨_, _, _, asks⟩ := undisturbed rfl
  obtain ⟨empty, _, batches, owner, history, _, counts⟩ := ends _ (.endDrain rfl rfl) rfl
  exact ⟨state, _, _, new, reached, rfl, rfl, returned, .endDrain rfl rfl, rfl, short, empty,
    batches, owner, (OwnerPhase.draining.inj owner).symm, history, counts,
    (asks {}).mpr fun _ => by decide⟩

/-- A batch size that is accepted may be too large for a batch to leave, on any machine.  A round
over the one signal in the channel, which is current, asks for room for as many requests as a word
can count. -/
theorem not_forall_processTimeouts_returns :
    ¬∃ machine : Machine, 0 < machine.requestSize ∧
      ∀ (controller : Controller Nat String) (sent : List Nat)
        (start : WatchedController Nat String), controller.IsNew → Sends controller sent start →
        start.owner = .resting → start.controller.processTimeouts.returns machine = true := by
  rintro ⟨machine, sized, returns⟩
  let settings : ControllerSettings :=
    { buffer := { timeout := 10, interval := 1 }, batchSize := 18446744073709551615 }
  let controller : Controller Nat String := .around settings (.empty settings.buffer none)
  have begun : Sends controller [] { controller } := .start
  have joined := begun.owner (.submit 5 ⟨7, .usual, "first"⟩ rfl rfl)
  have opened := joined.owner (.openWindow rfl)
  have loaded := opened.ticker (.load 15 rfl rfl)
  have accepted := loaded.ticker (.accept rfl rfl)
  have reported := accepted.ticker (.report rfl (by decide))
  have delivered := reported.ticker (.deliver rfl)
  have acted := returns controller _ _ (.unwatched settings rfl) delivered rfl
  rw [Controller.returns_processTimeouts_iff] at acted
  exact Controller.not_roomFor_largest sized rfl (by decide) acted

end WatchedController

end KeyedBatching
