import KeyedBatching.Proofs.ControllerMoves
import Mathlib.Data.List.DropRight

/-!
# What a timer answers

The answers of a timer can be told from its log: how often the owner has gone on
to the next generation, when the first request after that came, and whether a poll
has reported since.  The timer itself never looks back.  It keeps one window and a
mark that only rises, and the mark stands one above the generation in progress
exactly while that generation is reported.

The instants of the calls may come in any order.  One that is too late for the clock to
reach the end of the timeout gives no window: the call does not return, the timer stays
as it was, and whoever made the call may go on with others.
-/

namespace KeyedBatching

open Telemetry

/-- A call of a timer. -/
inductive TimerCall where
  | arm (now : Instant)
  | advance
  | poll (now : Instant)
deriving DecidableEq

/-- A call with its answer, or without one. -/
inductive TimerEntry where
  | armed (now : Instant) (opened : Bool)
  | overflowed (now : Instant)
  | advanced (next : Nat)
  | polled (now : Instant) (report : Option Nat)
deriving DecidableEq

namespace TimerEntry

def call : TimerEntry → TimerCall
  | armed now _ => .arm now
  | overflowed now => .arm now
  | advanced _ => .advance
  | polled now _ => .poll now

def isAdvance : TimerEntry → Bool
  | advanced _ => true
  | _ => false

def armedAt? : TimerEntry → Option Instant
  | armed now _ => some now
  | _ => none

def opens : TimerEntry → Bool
  | armed _ opened => opened
  | _ => false

def report? : TimerEntry → Option Nat
  | polled _ report => report
  | _ => none

end TimerEntry

/-! ## Logs -/

namespace TimerLog

def advances (log : List TimerEntry) : Nat :=
  log.countP TimerEntry.isAdvance

/-- The entries since the owner last went on to the next generation. -/
def recent (log : List TimerEntry) : List TimerEntry :=
  log.rtakeWhile fun entry => !entry.isAdvance

/-- The instant at which the owner was first answered about a window in the generation in
progress. -/
def firstArm? (log : List TimerEntry) : Option Instant :=
  (recent log).findSome? TimerEntry.armedAt?

/-- A poll has reported the generation in progress. -/
def isReported (log : List TimerEntry) : Bool :=
  (recent log).any fun entry => entry.report?.isSome

/-- The window that is open after a log. -/
def window? (timeout : Duration) (log : List TimerEntry) : Option Window :=
  if timeout = 0 then none
  else (firstArm? log).map fun first => ⟨advances log, first + timeout⟩

variable (log : List TimerEntry)

theorem advances_concat (entry : TimerEntry) :
    advances (log ++ [entry]) = advances log + entry.isAdvance.toNat := by
  cases entry <;> simp [advances, TimerEntry.isAdvance]

theorem recent_concat (entry : TimerEntry) :
    recent (log ++ [entry]) = if entry.isAdvance then [] else recent log ++ [entry] := by
  cases advance : entry.isAdvance <;> simp [recent, advance]

theorem firstArm?_concat (entry : TimerEntry) :
    firstArm? (log ++ [entry]) =
      if entry.isAdvance then none else (firstArm? log).or entry.armedAt? := by
  rw [firstArm?, recent_concat]
  split
  · rfl
  · cases entry <;> simp [firstArm?, List.findSome?_append, TimerEntry.armedAt?]

/-- An answer that is neither an advance nor about a window leaves the window as it is. -/
theorem firstArm?_concat_of_none {entry : TimerEntry} (stays : entry.isAdvance = false)
    (apart : entry.armedAt? = none) : firstArm? (log ++ [entry]) = firstArm? log := by
  simp [firstArm?_concat, stays, apart]

theorem window?_concat_of_none (timeout : Duration) {entry : TimerEntry}
    (stays : entry.isAdvance = false) (apart : entry.armedAt? = none) :
    window? timeout (log ++ [entry]) = window? timeout log := by
  rw [window?, advances_concat, firstArm?_concat_of_none log stays apart, stays, window?]
  rfl

theorem isReported_concat (entry : TimerEntry) :
    isReported (log ++ [entry]) =
      (!entry.isAdvance && (isReported log || entry.report?.isSome)) := by
  rw [isReported, recent_concat]
  cases advance : entry.isAdvance <;> simp [isReported]

theorem isReported_eq_false_iff :
    isReported log = false ↔ ∀ entry ∈ recent log, entry.report? = none := by
  simp [isReported]

end TimerLog

/-! ## Runs -/

namespace BatchTimer

/-- Makes a call, and gives it back with its answer.  A call that does not return has stored
nothing. -/
def perform (machine : Machine) (timer : BatchTimer) : TimerCall → TimerEntry × BatchTimer
  | .arm now =>
      let outcome := timer.armIfIdle now
      if outcome.returns machine then (.armed now outcome.value.1, outcome.value.2)
      else (.overflowed now, timer)
  | .advance =>
      let outcome := timer.advance
      (.advanced outcome.1, outcome.2)
  | .poll now =>
      let outcome := timer.pollExpired now
      (.polled now outcome.1, outcome.2)

/-- The log of some calls, and the timer after them. -/
def run (machine : Machine) (timer : BatchTimer) : List TimerCall → List TimerEntry × BatchTimer
  | [] => ([], timer)
  | call :: later =>
      let outcome := timer.perform machine call
      let rest := outcome.2.run machine later
      (outcome.1 :: rest.1, rest.2)

variable {machine : Machine}

theorem perform_arm_cases (timer : BatchTimer) (now : Instant) :
    timer.perform machine (.arm now) =
        (.armed now (timer.armIfIdle now).value.1, (timer.armIfIdle now).value.2) ∨
      (timer.armIfIdle now).returns machine = false ∧
        timer.perform machine (.arm now) = (.overflowed now, timer) := by
  cases answered : (timer.armIfIdle now).returns machine <;> simp [perform, answered]

theorem call_perform (timer : BatchTimer) (call : TimerCall) :
    (timer.perform machine call).1.call = call := by
  cases call with
  | arm now => rcases timer.perform_arm_cases now with result | ⟨_, result⟩ <;> rw [result] <;> rfl
  | advance => rfl
  | poll now => rfl

theorem calls_run (machine : Machine) (timer : BatchTimer) (calls : List TimerCall) :
    (timer.run machine calls).1.map TimerEntry.call = calls := by
  induction calls generalizing timer with
  | nil => rfl
  | cons call later ih => simp [run, call_perform, ih]

/-! ## Timers and their logs -/

/-- The timer stands where its log has brought it. -/
structure Follows (timeout : Duration) (log : List TimerEntry) (timer : BatchTimer) : Prop where
  configured : timer.timeout = timeout
  counted : timer.current = TimerLog.advances log
  armed : timer.armed = TimerLog.window? timeout log
  idle : TimerLog.firstArm? log = none → TimerLog.isReported log = false
  unreported : TimerLog.isReported log = false → timer.reported ≤ timer.current
  reported : TimerLog.isReported log = true → timer.reported = timer.current + 1

variable {timeout : Duration} {log : List TimerEntry} {timer : BatchTimer}

theorem follows_nil (timeout : Duration) : Follows timeout [] { timeout } := by
  have unreported : TimerLog.isReported [] = false := rfl
  refine ⟨rfl, rfl, ?_, fun _ => unreported, fun _ => Nat.le_refl 0, ?_⟩
  · simp [TimerLog.window?, TimerLog.firstArm?, TimerLog.recent]
  · simp [unreported]

theorem Follows.mark_le (follows : timer.Follows timeout log) :
    timer.reported ≤ timer.current + 1 := by
  cases reported : TimerLog.isReported log with
  | false => exact Nat.le_succ_of_le (follows.unreported reported)
  | true => exact Nat.le_of_eq (follows.reported reported)

theorem Follows.generation_eq (follows : timer.Follows timeout log) {window : Window}
    (armed : timer.armed = some window) : window.generation = timer.current := by
  rw [follows.armed, TimerLog.window?] at armed
  split at armed
  · cases armed
  · obtain ⟨first, _, rfl⟩ := Option.map_eq_some_iff.mp armed
    exact follows.counted.symm

theorem Follows.isArmed_eq (follows : timer.Follows timeout log) :
    timer.isArmed = decide (timeout ≠ 0 ∧ TimerLog.firstArm? log ≠ none) := by
  rw [isArmed, follows.armed, TimerLog.window?]
  by_cases disabled : timeout = 0
  · simp [disabled]
  · cases first : TimerLog.firstArm? log <;> simp [disabled]

/-- A window opens on the first request of a generation. -/
theorem Follows.armIfIdle_fst (follows : timer.Follows timeout log) (now : Instant) :
    (timer.armIfIdle now).value.1 =
      decide (timeout ≠ 0 ∧ TimerLog.firstArm? log = none) := by
  have armed := follows.isArmed_eq
  unfold armIfIdle
  rw [isEnabled, follows.configured, armed]
  by_cases disabled : timeout = 0
  · simp [disabled]
  · by_cases first : TimerLog.firstArm? log = none <;> simp [disabled, first]

/-- Only a window that is to open can lie too late. -/
theorem Follows.returns_armIfIdle_iff (follows : timer.Follows timeout log) {now : Instant} :
    (timer.armIfIdle now).returns machine = true ↔
      timeout = 0 ∨ TimerLog.firstArm? log ≠ none ∨ now + timeout < Instant.limit := by
  rw [BatchTimer.returns_armIfIdle_iff, follows.configured, follows.armed, TimerLog.window?]
  by_cases disabled : timeout = 0 <;> simp [disabled]

theorem raise_of_le {mark : Nat} (reached : mark ≤ timer.reported) :
    timer.raise mark = (timer.reported, timer) := by
  rw [raise, Nat.max_eq_left reached]

/-- Of the generation in progress only the first poll after the deadline has an effect. -/
theorem Follows.pollExpired_cases (follows : timer.Follows timeout log) (now : Instant) :
    timer.pollExpired now = (none, timer) ∧
        (TimerLog.isReported log = true ∨
          ∀ window, timer.armed = some window → now < window.deadline) ∨
      TimerLog.isReported log = false ∧
        ∃ window, timer.armed = some window ∧ window.deadline ≤ now ∧
          timer.pollExpired now =
            (some window.generation, { timer with reported := timer.current + 1 }) := by
  cases armed : timer.armed with
  | none => exact .inl ⟨by simp [pollExpired, armed], .inr (by simp)⟩
  | some window =>
      have current := follows.generation_eq armed
      by_cases come : window.deadline ≤ now
      · have expired : hasExpired window timer.current now = true := by
          simp [hasExpired, current, come]
        cases reported : TimerLog.isReported log with
        | true =>
            -- The mark is there already, and raising it leaves it where it is.
            have again : timer.current + 1 ≤ timer.reported :=
              Nat.le_of_eq (follows.reported reported).symm
            refine .inl ⟨?_, .inl rfl⟩
            simp [pollExpired, armed, expired, markOf, current, raise_of_le again, again]
        | false =>
            have below := follows.unreported reported
            refine .inr ⟨rfl, window, rfl, come, ?_⟩
            have first : ¬ timer.current + 1 ≤ timer.reported := by omega
            have raised : max timer.reported (timer.current + 1) = timer.current + 1 := by omega
            simp [pollExpired, armed, expired, raise, markOf, current, first, raised]
      · have early : hasExpired window timer.current now = false := by
          simp [hasExpired, come]
        refine .inl ⟨by simp [pollExpired, armed, early], .inr ?_⟩
        rintro _ ⟨⟩
        exact Nat.lt_of_not_le come

theorem Follows.pollExpired_eq_some_iff (follows : timer.Follows timeout log) {now : Instant}
    {generation : Nat} :
    (timer.pollExpired now).1 = some generation ↔
      ∃ deadline, timer.armed = some ⟨generation, deadline⟩ ∧ deadline ≤ now ∧
        TimerLog.isReported log = false := by
  rcases follows.pollExpired_cases now with
    ⟨silent, why⟩ | ⟨unreported, window, armed, come, reports⟩
  · rw [silent]
    constructor
    · intro answer
      cases answer
    · rintro ⟨deadline, armed, come, unreported⟩
      rcases why with reported | early
      · rw [unreported] at reported
        cases reported
      · exact absurd come (Nat.not_le_of_lt (early _ armed))
  · rw [reports]
    constructor
    · rintro ⟨⟩
      exact ⟨window.deadline, armed, come, unreported⟩
    · rintro ⟨deadline, same, _, _⟩
      rw [armed] at same
      cases same
      rfl

/-! ## Steps -/

theorem Follows.arm (follows : timer.Follows timeout log) (now : Instant) :
    Follows timeout (log ++ [.armed now (timer.armIfIdle now).value.1])
      (timer.armIfIdle now).value.2 := by
  have advances : TimerLog.advances (log ++ [.armed now (timer.armIfIdle now).value.1]) =
      TimerLog.advances log := TimerLog.advances_concat ..
  have first : TimerLog.firstArm? (log ++ [.armed now (timer.armIfIdle now).value.1]) =
      (TimerLog.firstArm? log).or (some now) := TimerLog.firstArm?_concat ..
  have reported : TimerLog.isReported (log ++ [.armed now (timer.armIfIdle now).value.1]) =
      TimerLog.isReported log := by
    simp [TimerLog.isReported_concat, TimerEntry.isAdvance, TimerEntry.report?]
  obtain ⟨current, mark⟩ := armIfIdle_frame now timer
  constructor
  · rcases armIfIdle_cases now timer with ⟨_, same⟩ | ⟨_, _, opens⟩
    · rw [same, follows.configured]
    · rw [opens]
      exact follows.configured
  · rw [current, advances, follows.counted]
  · rw [TimerLog.window?, advances, first]
    have before := follows.armed
    rw [TimerLog.window?] at before
    rcases armIfIdle_cases now timer with ⟨idle, same⟩ | ⟨enabled, closed, opens⟩
    · rw [same, before]
      rw [follows.configured] at idle
      rcases idle with disabled | isOpen
      · rw [if_pos disabled, if_pos disabled]
      · -- The window that is open has come from an earlier request.
        cases earlier : TimerLog.firstArm? log with
        | none => simp [before, earlier] at isOpen
        | some instant => rfl
    · rw [opens]
      rw [follows.configured] at enabled
      rw [closed, if_neg enabled] at before
      have nothing : TimerLog.firstArm? log = none := by simpa using before.symm
      rw [nothing, if_neg enabled, follows.configured, follows.counted]
      rfl
  · rw [first]
    intro nothing
    simp at nothing
  · rw [reported, current, mark]
    exact follows.unreported
  · rw [reported, current, mark]
    exact follows.reported

/-- A call without an answer, and a poll that reports nothing, leave no trace. -/
theorem Follows.unchanged (follows : timer.Follows timeout log) {entry : TimerEntry}
    (stays : entry.isAdvance = false) (apart : entry.armedAt? = none)
    (silent : entry.report? = none) : Follows timeout (log ++ [entry]) timer := by
  have advances : TimerLog.advances (log ++ [entry]) = TimerLog.advances log := by
    simp [TimerLog.advances_concat, stays]
  have reported : TimerLog.isReported (log ++ [entry]) = TimerLog.isReported log := by
    simp [TimerLog.isReported_concat, stays, silent]
  refine ⟨follows.configured, ?_, ?_, ?_, ?_, ?_⟩
  · rw [advances, follows.counted]
  · rw [TimerLog.window?_concat_of_none log timeout stays apart, follows.armed]
  · rw [TimerLog.firstArm?_concat_of_none log stays apart, reported]
    exact follows.idle
  · rw [reported]
    exact follows.unreported
  · rw [reported]
    exact follows.reported

theorem Follows.advance (follows : timer.Follows timeout log) :
    Follows timeout (log ++ [.advanced timer.advance.1]) timer.advance.2 := by
  have unreported :
      TimerLog.isReported (log ++ [.advanced timer.advance.1]) = false := by
    simp [TimerLog.isReported_concat, TimerEntry.isAdvance]
  refine ⟨follows.configured, ?_, ?_, fun _ => unreported, fun _ => follows.mark_le, ?_⟩
  · rw [TimerLog.advances_concat, ← follows.counted]
    rfl
  · simp [TimerLog.window?, TimerLog.firstArm?_concat, TimerEntry.isAdvance, BatchTimer.advance,
      store, increment]
  · simp [unreported]

theorem Follows.poll (follows : timer.Follows timeout log) (now : Instant) :
    Follows timeout (log ++ [.polled now (timer.pollExpired now).1])
      (timer.pollExpired now).2 := by
  rcases follows.pollExpired_cases now with ⟨silent, _⟩ | ⟨_, opened, armed, _, reports⟩
  · rw [silent]
    exact follows.unchanged rfl rfl rfl
  · have reported :
        TimerLog.isReported (log ++ [.polled now (some opened.generation)]) = true := by
      simp [TimerLog.isReported_concat, TimerEntry.isAdvance, TimerEntry.report?]
    rw [reports]
    refine ⟨follows.configured, ?_, ?_, ?_, ?_, fun _ => rfl⟩
    · rw [TimerLog.advances_concat]
      exact follows.counted
    · rw [TimerLog.window?_concat_of_none log timeout rfl rfl]
      exact follows.armed
    · rw [TimerLog.firstArm?_concat_of_none log rfl rfl]
      intro nothing
      simp [follows.armed, TimerLog.window?, nothing] at armed
    · rw [reported]
      intro unreported
      cases unreported

theorem Follows.perform (follows : timer.Follows timeout log) (call : TimerCall) :
    Follows timeout (log ++ [(timer.perform machine call).1]) (timer.perform machine call).2 := by
  cases call with
  | arm now =>
      rcases timer.perform_arm_cases now with result | ⟨_, result⟩
      · rw [result]
        exact follows.arm now
      · rw [result]
        exact follows.unchanged rfl rfl rfl
  | advance => exact follows.advance
  | poll now => exact follows.poll now

theorem Follows.run (follows : timer.Follows timeout log) (calls : List TimerCall) :
    Follows timeout (log ++ (timer.run machine calls).1) (timer.run machine calls).2 := by
  induction calls generalizing log timer with
  | nil => simpa [BatchTimer.run] using follows
  | cons call later ih => simpa [BatchTimer.run] using ih (follows.perform call)

/-! ## Timers that are switched off -/

theorem Follows.perform_disabled (follows : timer.Follows 0 log) (call : TimerCall) :
    (timer.perform machine call).1.opens = false ∧
      (timer.perform machine call).1.report? = none := by
  cases call with
  | arm now =>
      rcases timer.perform_arm_cases now with result | ⟨_, result⟩
      · rw [result]
        exact ⟨(follows.armIfIdle_fst now).trans (by simp), rfl⟩
      · rw [result]
        exact ⟨rfl, rfl⟩
  | advance => exact ⟨rfl, rfl⟩
  | poll now =>
      have closed : timer.armed = none := follows.armed
      have silent : (timer.pollExpired now).1 = none := by simp [pollExpired, closed]
      exact ⟨rfl, silent⟩

theorem Follows.run_disabled (follows : timer.Follows 0 log) (calls : List TimerCall) :
    ∀ entry ∈ (timer.run machine calls).1, entry.opens = false ∧ entry.report? = none := by
  induction calls generalizing log timer with
  | nil => simp [BatchTimer.run]
  | cons call later ih =>
      intro entry member
      rcases List.mem_cons.mp member with rfl | rest
      · exact follows.perform_disabled call
      · exact ih (follows.perform call) entry rest

/-! ## Windows that would end too late -/

theorem Follows.perform_overflowed (follows : timer.Follows timeout log) {call : TimerCall}
    {now : Instant} (lost : (timer.perform machine call).1 = .overflowed now) :
    timeout ≠ 0 ∧ Instant.limit ≤ now + timeout := by
  cases call with
  | arm instant =>
      rcases timer.perform_arm_cases instant with result | ⟨silent, result⟩
      · rw [result] at lost
        cases lost
      · rw [result] at lost
        obtain rfl := TimerEntry.overflowed.inj lost
        rw [← Bool.not_eq_true, follows.returns_armIfIdle_iff, not_or, not_or] at silent
        exact ⟨silent.1, Nat.le_of_not_lt silent.2.2⟩
  | advance => cases lost
  | poll instant => cases lost

theorem Follows.run_overflowed (follows : timer.Follows timeout log) {calls : List TimerCall}
    {now : Instant} (lost : .overflowed now ∈ (timer.run machine calls).1) :
    timeout ≠ 0 ∧ Instant.limit ≤ now + timeout := by
  induction calls generalizing log timer with
  | nil => simp [BatchTimer.run] at lost
  | cons call later ih =>
      rcases List.mem_cons.mp lost with here | rest
      · exact follows.perform_overflowed here.symm
      · exact ih (follows.perform call) rest

/-! ## Logs and answers -/

theorem advances_run (timer : BatchTimer) (calls : List TimerCall) :
    TimerLog.advances (timer.run machine calls).1 = calls.count .advance := by
  have counted (entry : TimerEntry) :
      (entry.call == TimerCall.advance) = entry.isAdvance := by
    cases entry <;> rfl
  conv_rhs => rw [← calls_run machine timer calls]
  rw [List.count, List.countP_map, TimerLog.advances]
  exact List.countP_congr fun entry _ => by simp [counted]

/-- After any calls, the generation in progress counts the advances, and a window is open exactly
if a timeout is set and the owner was answered about one since the last advance.  It counts from
the first such answer.  A poll reports it if it has expired and no poll has reported since the
last advance, and touches neither the window nor the generation.  No counter leaves its word.
The owner is answered unless a window is to open that ends too late for the clock. -/
theorem run_answers_by_log (machine : Machine) (timeout : Duration) {calls : List TimerCall}
    (few : calls.count .advance + 1 < wordLimit) :
    let outcome := ({ timeout } : BatchTimer).run machine calls
    let log := outcome.1
    let timer := outcome.2
    log.map TimerEntry.call = calls ∧
      timer.current = calls.count .advance ∧
      timer.armed = (if timeout = 0 then none else
        (TimerLog.firstArm? log).map fun first => ⟨calls.count .advance, first + timeout⟩) ∧
      (∀ now, (timer.armIfIdle now).value.1 =
        decide (timeout ≠ 0 ∧ TimerLog.firstArm? log = none)) ∧
      (∀ now, (timer.armIfIdle now).returns machine = true ↔
        timeout = 0 ∨ TimerLog.firstArm? log ≠ none ∨ now + timeout < Instant.limit) ∧
      (∀ now, .overflowed now ∈ log → timeout ≠ 0 ∧ Instant.limit ≤ now + timeout) ∧
      timer.advance.1 = calls.count .advance + 1 ∧
      (∀ now generation, (timer.pollExpired now).1 = some generation ↔
        ∃ deadline, timer.armed = some ⟨generation, deadline⟩ ∧ deadline ≤ now ∧
          ∀ entry ∈ TimerLog.recent log, entry.report? = none) ∧
      (∀ now, (timer.pollExpired now).2.armed = timer.armed ∧
        (timer.pollExpired now).2.current = timer.current) ∧
      (timeout = 0 → ∀ entry ∈ log, entry.opens = false ∧ entry.report? = none) ∧
      timer.current < wordLimit ∧ timer.reported < wordLimit ∧
      ∀ window, timer.armed = some window → markOf window < wordLimit := by
  intro outcome log timer
  have start := follows_nil timeout
  have follows : timer.Follows timeout log := start.run calls
  have advances : TimerLog.advances log = calls.count .advance := advances_run _ calls
  have current : timer.current = calls.count .advance := follows.counted.trans advances
  have mark := follows.mark_le
  refine ⟨calls_run machine _ calls, current, ?_, follows.armIfIdle_fst,
    fun now => follows.returns_armIfIdle_iff, fun now => start.run_overflowed, ?_, ?_, ?_, ?_, ?_,
    ?_, ?_⟩
  · rw [← advances]
    exact follows.armed
  · rw [← current]
    rfl
  · intro now generation
    rw [← TimerLog.isReported_eq_false_iff]
    exact follows.pollExpired_eq_some_iff
  · intro now
    obtain ⟨armed, same, _⟩ := pollExpired_frame now timer
    exact ⟨armed, same⟩
  · rintro rfl
    exact (follows_nil 0).run_disabled calls
  · omega
  · omega
  · intro window armed
    rw [markOf, follows.generation_eq armed]
    omega

/-- A window that would end too late, and then windows of two generations, polled early, late,
again, and at instants that go back. -/
theorem run_answers_by_log_two_windows :
    let calls : List TimerCall := [.arm Instant.limit, .poll 500, .arm 10, .arm 30, .poll 109,
      .poll 110, .poll 200, .advance, .poll 500, .arm 5, .poll 104]
    let outcome := ({ timeout := 100 } : BatchTimer).run {} calls
    calls.count .advance + 1 < wordLimit ∧
      outcome.1 = [.overflowed Instant.limit, .polled 500 none, .armed 10 true, .armed 30 false,
        .polled 109 none, .polled 110 (some 0), .polled 200 none, .advanced 1, .polled 500 none,
        .armed 5 true, .polled 104 none] ∧
      outcome.2.armed = some ⟨1, 105⟩ ∧
      (∀ now, (outcome.2.armIfIdle now).returns {} = true ∧
        (outcome.2.armIfIdle now).value.1 = false) ∧
      ∀ now generation, (outcome.2.pollExpired now).1 = some generation ↔
        generation = 1 ∧ 105 ≤ now := by
  intro calls outcome
  have few : calls.count .advance + 1 < wordLimit := by decide
  have log : outcome.1 = [.overflowed Instant.limit, .polled 500 none, .armed 10 true,
      .armed 30 false, .polled 109 none, .polled 110 (some 0), .polled 200 none, .advanced 1,
      .polled 500 none, .armed 5 true, .polled 104 none] := by decide
  have armed : outcome.2.armed = some ⟨1, 105⟩ := by decide
  obtain ⟨_, _, _, arms, answers, _, _, polls, _⟩ := run_answers_by_log {} 100 few
  refine ⟨few, log, armed, ?_, ?_⟩
  · intro now
    exact ⟨(answers now).mpr (.inr (.inl (by decide))), (arms now).trans (by decide)⟩
  · intro now generation
    refine (polls now generation).trans ⟨?_, ?_⟩
    · rintro ⟨deadline, same, come, _⟩
      cases armed.symm.trans same
      exact ⟨rfl, come⟩
    · rintro ⟨rfl, come⟩
      exact ⟨105, armed, come, by decide⟩

/-- With the longest timeout there is, the first request of a generation opens no window. -/
theorem not_forall_arm_opens :
    ¬ ∀ (machine : Machine) (timeout : Duration) (now : Instant), timeout ≠ 0 →
      (({ timeout } : BatchTimer).run machine [.arm now]).1 = [.armed now true] := by
  intro opens
  have lost : (({ timeout := Duration.ofSeconds 18446744073709551615 999999999 } :
      BatchTimer).run {} [.arm 0]).1 = [.overflowed 0] := by decide
  have opened := opens {} (Duration.ofSeconds 18446744073709551615 999999999) 0 (by decide)
  cases lost.symm.trans opened

end BatchTimer

end KeyedBatching
