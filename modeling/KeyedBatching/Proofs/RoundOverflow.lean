import KeyedBatching.Proofs.RegistrationLedger

/-!
# Rounds that run over the clock's range

A round moves every registration that is due to its next look.  If that look
lies beyond the clock's range, the thread dies in the middle of the round, and
with it the looks at all other buffers of the ticker.  Settings are checked for
an interval of zero only, so the interval of one buffer is enough for that.
-/

namespace KeyedBatching

/-- Half of the clock's range: `2 ^ 62` seconds. -/
def Instant.halfway : Instant := 4611686018427387904 * Duration.second

theorem Instant.limit_eq : limit = halfway + halfway := by
  decide

namespace Appointment

/-- The next look has no instant. -/
def Overruns (appointment : Appointment) : Prop :=
  Instant.limit ≤ appointment.due + appointment.period

/-- In the first half of the clock's range, only a look on the grid can lie beyond it. -/
theorem next?_eq_none_iff {now : Instant} {appointment : Appointment}
    (early : now < Instant.halfway) :
    appointment.next? now = none ↔ appointment.Overruns := by
  unfold next? Overruns
  split
  next beyond =>
    have past : ¬ appointment.due + appointment.period < Instant.limit := by
      simpa [Instant.add?] using beyond
    simpa using past
  next onGrid reached =>
    obtain ⟨rfl, within⟩ := Instant.add?_eq_some_iff.mp reached
    split
    next passed =>
      -- A period that has passed since the last look fits once more.
      have fits : now + appointment.period < Instant.limit := calc
        now + appointment.period ≤ now + now :=
          Nat.add_le_add_left (Nat.le_trans (Nat.le_add_left _ _) passed) now
        _ < Instant.halfway + Instant.halfway := Nat.add_lt_add early early
        _ = Instant.limit := Instant.limit_eq.symm
      simp [Instant.add?, fits, within]
    · simp [within]

end Appointment

namespace Schedule

/-- The registrations of the entries that are due. -/
def dueAt (now : Instant) (entries : List (Nat × Appointment)) : List Registration :=
  (entries.filter fun entry => entry.2.due ≤ now).map fun entry => entry.2.registration

theorem collectEntries_eq_none_iff {now : Instant} {entries : List (Nat × Appointment)} :
    collectEntries now entries = none ↔
      ∃ entry ∈ entries, entry.2.due ≤ now ∧ entry.2.next? now = none := by
  induction entries with
  | nil => simp [collectEntries]
  | cons entry later ih =>
      obtain ⟨id, appointment⟩ := entry
      rw [collectEntries]
      split
      next notYet => simp [ih, Nat.not_le.mpr notYet]
      next come =>
        have come : appointment.due ≤ now := Nat.le_of_not_lt come
        cases next : appointment.next? now with
        | none => simp [next, come]
        | some moved =>
            cases rest : collectEntries now later with
            | none =>
                obtain ⟨entry, member, stuck⟩ := ih.mp rest
                simp only [true_iff]
                exact ⟨entry, List.mem_cons_of_mem _ member, stuck⟩
            | some outcome =>
                have moves : ¬ ∃ entry ∈ later, entry.2.due ≤ now ∧ entry.2.next? now = none := by
                  rw [← ih, rest]
                  exact Option.some_ne_none outcome
                simpa [next] using moves

theorem collectEntries_due {now : Instant} {entries rest : List (Nat × Appointment)}
    {due : List Registration} (collected : collectEntries now entries = some (due, rest)) :
    due = dueAt now entries := by
  induction entries generalizing due rest with
  | nil =>
      obtain ⟨rfl, rfl⟩ : [] = due ∧ [] = rest := by simpa [collectEntries] using collected
      rfl
  | cons entry later ih =>
      obtain ⟨id, appointment⟩ := entry
      rw [collectEntries] at collected
      split at collected
      next notYet =>
        obtain ⟨⟨others, left⟩, within, same⟩ := Option.map_eq_some_iff.mp collected
        obtain ⟨rfl, rfl⟩ := Prod.mk.inj same
        simp [ih within, dueAt, Nat.not_le.mpr notYet]
      next come =>
        have come : appointment.due ≤ now := Nat.le_of_not_lt come
        split at collected
        next moved others next within =>
          obtain ⟨rfl, rfl⟩ := Prod.mk.inj (Option.some.inj collected)
          simp [ih within, dueAt, come]
        · cases collected

end Schedule

/-- A round of a running ticker kills the thread if a due registration overruns the clock's range,
and else collects all registrations that are due. -/
theorem Ticker.beginRound_activity {now : Instant} {ticker : Ticker}
    (running : ticker.stopRequested = false) (early : now < Instant.halfway) :
    ((∃ entry ∈ ticker.schedule.entries, entry.2.due ≤ now ∧ entry.2.Overruns) →
        (ticker.beginRound now).activity = .crashed overflowReason) ∧
      ((∀ entry ∈ ticker.schedule.entries, entry.2.due ≤ now → ¬ entry.2.Overruns) →
        (ticker.beginRound now).activity =
          .serving (Schedule.dueAt now ticker.schedule.entries)) := by
  have none_iff : ticker.schedule.collect now = none ↔
      ∃ entry ∈ ticker.schedule.entries, entry.2.due ≤ now ∧ entry.2.Overruns := by
    simp only [Schedule.collect, Option.map_eq_none_iff, Schedule.collectEntries_eq_none_iff,
      Appointment.next?_eq_none_iff early]
  constructor
  · intro overrun
    simp [beginRound, running, none_iff.mpr overrun]
  · intro fits
    cases collected : ticker.schedule.collect now with
    | none =>
        obtain ⟨entry, member, come, overrun⟩ := none_iff.mp collected
        exact absurd overrun (fits entry member come)
    | some outcome =>
        obtain ⟨⟨due, entries⟩, within, rfl⟩ := Option.map_eq_some_iff.mp collected
        simp [beginRound, running, collected, Schedule.collectEntries_due within]

namespace WatchedBuffers

variable {K P : Type} {system next later : WatchedBuffers K P}

/-- A dead thread neither comes back nor calls handlers. -/
theorem LedgerStep.stays_crashed (step : LedgerStep system next) {reason : String}
    (crashed : system.ticker.activity = .crashed reason) (idle : system.check = none) :
    next.ticker.activity = .crashed reason ∧ next.check = none ∧
      next.starts = system.starts := by
  rcases step.base with rfl | step
  · exact ⟨crashed, idle, rfl⟩
  cases step with
  | thread step => cases step <;> simp_all
  | caller step =>
      obtain ⟨activity, check, starts⟩ := step.frame
      exact ⟨activity.trans crashed, check.trans idle, starts⟩

theorem stays_crashed_of_run (run : Relation.ReflTransGen LedgerStep system later)
    {reason : String} (crashed : system.ticker.activity = .crashed reason)
    (idle : system.check = none) :
    later.ticker.activity = .crashed reason ∧ later.starts = system.starts := by
  have holds : later.ticker.activity = .crashed reason ∧ later.check = none ∧
      later.starts = system.starts := by
    induction run with
    | refl => exact ⟨crashed, idle, rfl⟩
    | tail _ step ih =>
        obtain ⟨dead, idle, same⟩ := ih
        obtain ⟨still, free, silent⟩ := step.stays_crashed dead idle
        exact ⟨still, free, silent.trans same⟩
  exact ⟨holds.1, holds.2.2⟩

/-- The next look at some buffer that is due has no instant. -/
def Overruns (system : WatchedBuffers K P) (now : Instant) : Prop :=
  ∃ number settings entry, system.settingsOf number = some settings ∧
    entry ∈ system.entriesOf number ∧ entry.2.due ≤ now ∧
    Instant.limit ≤ entry.2.due + settings.interval

/-- Every entry is that of an opened buffer, whose interval it has. -/
theorem LedgerReachable.settings_of_entry (reached : LedgerReachable system)
    {entry : Nat × Appointment} (member : entry ∈ system.ticker.schedule.entries) :
    ∃ settings, system.settingsOf entry.2.registration.timer = some settings ∧
      entry.2.period = settings.interval := by
  have booking := booking_of_entry member
  cases found : system.buffers entry.2.registration.timer with
  | none =>
      exact absurd rfl
        (reached.reachable.isBooked.timer_ne_of_unused reached.reachable.isSound found booking)
  | some buffer =>
      have known : system.settingsOf entry.2.registration.timer = some buffer.settings := by
        rw [settingsOf, found, Option.map_some]
      exact ⟨buffer.settings, known, reached.isLedger.period _ booking buffer.settings known⟩

theorem LedgerReachable.overruns_iff (reached : LedgerReachable system) {now : Instant} :
    system.Overruns now ↔
      ∃ entry ∈ system.ticker.schedule.entries, entry.2.due ≤ now ∧ entry.2.Overruns := by
  constructor
  · rintro ⟨number, settings, entry, known, listed, come, beyond⟩
    obtain ⟨scheduled, rfl⟩ := mem_entriesOf.mp listed
    obtain ⟨own, same, period⟩ := reached.settings_of_entry scheduled
    obtain rfl := Option.some.inj (known.symm.trans same)
    exact ⟨entry, scheduled, come, by rwa [Appointment.Overruns, period]⟩
  · rintro ⟨entry, scheduled, come, beyond⟩
    obtain ⟨settings, known, period⟩ := reached.settings_of_entry scheduled
    rw [Appointment.Overruns, period] at beyond
    exact ⟨_, settings, entry, known, mem_entriesOf.mpr ⟨scheduled, rfl⟩, come, beyond⟩

/-- A round in the first half of the clock's range kills the thread exactly if the next look at a
buffer that is due lies beyond the range, and then no handler of any buffer is ever called again.
Otherwise the round serves all that are due.  Intervals of up to half the range kill no thread. -/
theorem reachable_round_overflow (reached : LedgerReachable system)
    (between : system.IsBetween) (running : system.ticker.stopRequested = false)
    {now : Instant} (early : now < Instant.halfway) :
    let next := { system with ticker := system.ticker.beginRound now }
    (system.Overruns now → ∀ later, Relation.ReflTransGen LedgerStep next later →
      later.ticker.activity = .crashed Ticker.overflowReason ∧ later.starts = system.starts) ∧
    (¬ system.Overruns now →
      next.ticker.activity = .serving (Schedule.dueAt now system.ticker.schedule.entries)) ∧
    ((∀ number settings, system.settingsOf number = some settings →
      settings.interval ≤ Instant.halfway) → ¬ system.Overruns now) := by
  obtain ⟨crashes, serves⟩ := Ticker.beginRound_activity running early
  refine ⟨?_, ?_, ?_⟩
  · intro overrun later run
    exact stays_crashed_of_run run (crashes (reached.overruns_iff.mp overrun)) between.1
  · intro fits
    refine serves fun entry member come beyond => fits ?_
    exact reached.overruns_iff.mpr ⟨entry, member, come, beyond⟩
  · rintro short ⟨number, settings, entry, known, _, come, beyond⟩
    have within : entry.2.due + settings.interval < Instant.limit := calc
      entry.2.due + settings.interval < Instant.halfway + Instant.halfway :=
        Nat.add_lt_add_of_lt_of_le (Nat.lt_of_le_of_lt come early) (short number settings known)
      _ = Instant.limit := Instant.limit_eq.symm
    exact absurd beyond (Nat.not_le.mpr within)

/-! ## An interval that outlasts the clock -/

/-- A short timeout with the longest interval of whole seconds. -/
def widestSettings : BufferSettings :=
  { timeout := Duration.ofMilliseconds 1, interval := Duration.ofSeconds (wordLimit - 1) 0 }

/-- A buffer with these settings, and an ordinary one. -/
def unevenPair : WatchedBuffers Nat String :=
  let started : WatchedBuffers Nat String := { ticker := (Ticker.start "timeouts").value }
  (started.openBuffer 0 widestSettings {} 0).openBuffer 1 {} {} 0

theorem unevenPair_reachable : LedgerReachable unevenPair :=
  .step (.step (.start "timeouts") (.member 0 (.openBuffer widestSettings {} 0 rfl rfl)))
    (.member 1 (.openBuffer {} {} 0 rfl rfl))

theorem settingsOf_unevenPair {number : Nat} {settings : BufferSettings}
    (known : unevenPair.settingsOf number = some settings) :
    settings = widestSettings ∨ settings = {} := by
  by_cases second : number = 1
  · subst second
    exact .inr (Option.some.inj known).symm
  by_cases first : number = 0
  · subst first
    exact .inl (Option.some.inj known).symm
  · have unused : unevenPair.buffers number = none :=
      (withBuffer_other second _ _).trans (withBuffer_other first _ _)
    rw [settingsOf, unused] at known
    cases known

/-- The first look at the first buffer leaves the second without any. -/
theorem reachable_round_overflow_unevenPair :
    ∃ later : WatchedBuffers Nat String,
      (∃ buffer, later.buffers 1 = some buffer ∧
        (buffer.timer.pollExpired (Duration.ofMilliseconds 2000)).1 = some 0) ∧
      later.ticker.activity = .crashed Ticker.overflowReason ∧ later.starts = [] := by
  let now : Instant := Duration.ofMilliseconds 1
  let died := { unevenPair with ticker := unevenPair.ticker.beginRound now }
  let request : Request Nat String := ⟨3, .usual, "held"⟩
  let filled := ((RequestBuffer.empty {} (some ⟨tickerNumber, 2⟩)).enqueueActive now request).value
  let later := died.withBuffer 1 filled
  have fills : LedgerStep died later := .member 1 (.operate rfl rfl rfl)
  have early : now < Instant.halfway := by decide
  obtain ⟨dies, _, _⟩ := reachable_round_overflow unevenPair_reachable ⟨rfl, rfl⟩ rfl early
  have overrun : unevenPair.Overruns now :=
    ⟨0, widestSettings, _, rfl, List.mem_cons_self, by decide, by decide⟩
  obtain ⟨dead, silent⟩ := dies overrun later (.single fills)
  have expires : (filled.timer.pollExpired (Duration.ofMilliseconds 2000)).1 = some 0 := by decide
  exact ⟨later, ⟨filled, withBuffer_same 1 filled died, expires⟩, dead, silent⟩

/-- Settings that are accepted, with durations of at most 64-bit counts of seconds, do not keep
rounds within the clock's range, not even in its first half. -/
theorem not_forall_round_within_range :
    ¬ ∀ (system : WatchedBuffers Nat String) (now : Instant), LedgerReachable system →
      system.IsBetween → system.ticker.stopRequested = false → now < Instant.halfway →
      (∀ number settings, system.settingsOf number = some settings →
        settings.validate = .ok () ∧ settings.timeout < wordLimit * Duration.second ∧
          settings.interval < wordLimit * Duration.second) →
      (system.ticker.beginRound now).activity ≠ .crashed Ticker.overflowReason := by
  intro claim
  refine claim unevenPair (Duration.ofMilliseconds 1) unevenPair_reachable ⟨rfl, rfl⟩ rfl
    (by decide) ?_ (by decide)
  intro number settings known
  rcases settingsOf_unevenPair known with rfl | rfl
  · exact ⟨rfl, by decide, by decide⟩
  · exact ⟨rfl, by decide, by decide⟩

end WatchedBuffers

end KeyedBatching
