import KeyedBatching.Proofs.WaitingRoomContents
import KeyedBatching.RequestBuffer

/-!
# The moves of a ticker

What the calls of a ticker and the steps of its thread do to the registrations
that it knows of.  A round collects registrations of the schedule and moves
their appointments, a removal takes one away, and only opening a buffer adds
one, together with a claim that the buffer keeps.
-/

namespace KeyedBatching

/-! ## What a ticker refers to -/

theorem Appointment.registration_of_next? {now : Instant} {appointment moved : Appointment}
    (next : appointment.next? now = some moved) :
    moved.registration = appointment.registration := by
  unfold next? at next
  split at next
  · cases next
  · split at next
    · obtain ⟨due, _, rfl⟩ := Option.map_eq_some_iff.mp next
      rfl
    · obtain rfl := Option.some.inj next
      rfl

namespace Schedule

/-- Collecting moves appointments and gives registrations that have one. -/
theorem collectEntries_registrations {now : Instant} {entries rest : List (Nat × Appointment)}
    {due : List Registration} (collected : collectEntries now entries = some (due, rest)) :
    rest.map (fun entry => entry.2.registration) =
        entries.map (fun entry => entry.2.registration) ∧
      due ⊆ entries.map fun entry => entry.2.registration := by
  induction entries generalizing due rest with
  | nil =>
      obtain ⟨rfl, rfl⟩ : [] = due ∧ [] = rest := by simpa [collectEntries] using collected
      simp
  | cons entry later ih =>
      obtain ⟨id, appointment⟩ := entry
      rw [collectEntries] at collected
      split at collected
      · obtain ⟨⟨others, left⟩, within, same⟩ := Option.map_eq_some_iff.mp collected
        obtain ⟨rfl, rfl⟩ := Prod.mk.inj same
        obtain ⟨kept, among⟩ := ih within
        exact ⟨by simp [kept], List.subset_cons_of_subset _ among⟩
      · split at collected
        next moved others next within =>
          obtain ⟨rfl, rfl⟩ := Prod.mk.inj (Option.some.inj collected)
          obtain ⟨kept, among⟩ := ih within
          have same := Appointment.registration_of_next? next
          exact ⟨by simp [kept, same], List.cons_subset_cons _ among⟩
        · cases collected

end Schedule

/-- The registrations that the thread has collected and not begun to check. -/
def Activity.collected : Activity → List Registration
  | .serving collected => collected
  | .handling _ _ _ collected => collected
  | .finished | .crashed _ => []

namespace Ticker

theorem conclude_value (ticker : Ticker) :
    ticker.conclude.value = { ticker with joinable := false } := by
  unfold conclude
  split
  · split <;> simp
  · simp

theorem finishHandling_value (registration : Registration) (generation : Nat) (panicked : Bool)
    (collected : List Registration) (ticker : Ticker) :
    (ticker.finishHandling registration generation panicked collected).value =
      { ticker with activity := .serving collected } := by
  unfold finishHandling
  split <;> simp

def registrations (ticker : Ticker) : List Registration :=
  ticker.schedule.values.map Appointment.registration

theorem registrations_eq (ticker : Ticker) :
    ticker.registrations = ticker.schedule.entries.map fun entry => entry.2.registration := by
  simp [registrations, KeyTable.values]

/-- A new round knows of no new registration. -/
theorem beginRound_registrations (now : Instant) (ticker : Ticker) :
    (ticker.beginRound now).registrations = ticker.registrations ∧
      (ticker.beginRound now).activity.collected ⊆ ticker.registrations := by
  unfold beginRound
  split
  · exact ⟨rfl, List.nil_subset _⟩
  · split
    · exact ⟨rfl, List.nil_subset _⟩
    next due schedule collected =>
      obtain ⟨⟨others, entries⟩, within, same⟩ := Option.map_eq_some_iff.mp collected
      obtain ⟨rfl, rfl⟩ := Prod.mk.inj same
      obtain ⟨kept, among⟩ := Schedule.collectEntries_registrations within
      rw [registrations_eq, registrations_eq]
      exact ⟨kept, among⟩

theorem mem_registrations_put {ticker : Ticker} {id : Nat} {appointment : Appointment}
    {registration : Registration}
    (member : registration ∈
      { ticker with schedule := ticker.schedule.put id appointment }.registrations) :
    registration = appointment.registration ∨ registration ∈ ticker.registrations := by
  rw [registrations_eq, List.mem_map] at member
  obtain ⟨entry, within, rfl⟩ := member
  rcases KeyTable.mem_entries_put within with rfl | old
  · exact .inl rfl
  · rw [registrations_eq]
    exact .inr (List.mem_map_of_mem old)

theorem mem_registrations_remove {ticker : Ticker} {id : Nat} {registration : Registration}
    (member : registration ∈ (ticker.remove id).2.registrations) :
    registration ∈ ticker.registrations := by
  unfold remove at member
  split at member
  · exact member
  · split at member
    · rw [registrations_eq, List.mem_map] at member
      obtain ⟨entry, within, rfl⟩ := member
      rw [registrations_eq]
      exact List.mem_map_of_mem (KeyTable.mem_entries_erase within)
    · exact member

theorem remove_frame (id : Nat) (ticker : Ticker) :
    (ticker.remove id).2.cancelled = ticker.cancelled ∧
      (ticker.remove id).2.activity = ticker.activity := by
  unfold remove
  split
  · exact ⟨rfl, rfl⟩
  · split <;> exact ⟨rfl, rfl⟩

end Ticker

/-! ## Opening a buffer -/

/-- Opening a buffer fails and registers nothing, or gives an empty buffer, which has a claim
exactly if a timeout is set. -/
theorem RequestBuffer.watched_cases {K P : Type} (settings : BufferSettings)
    (place timer inbox : Nat) (handler : Handler) (now : Instant) (ticker : Ticker) :
    let outcome : Except BufferError (RequestBuffer K P) × Ticker :=
      (watched settings place timer inbox handler now ticker).value
    let counted := { ticker with nextId := ticker.nextId + 1 }
    let registration : Registration := ⟨ticker.nextId, timer, inbox, handler⟩
    (∃ fault, settings.validate = .error fault ∧ outcome = (.error fault, ticker)) ∨
      settings.validate = .ok () ∧
        (settings.timeout = 0 ∧ outcome = (.ok (empty settings none), ticker) ∨
          settings.timeout ≠ 0 ∧
            (ticker.stopRequested = true ∧ outcome = (.error (.register .shutdown), counted) ∨
              ticker.stopRequested = false ∧
                outcome = (.ok (empty settings (some ⟨place, ticker.nextId⟩)),
                  { counted with
                    schedule := ticker.schedule.put ticker.nextId
                      ⟨registration, now + settings.timeout, settings.interval⟩ }))) := by
  intro outcome counted registration
  cases checked : settings.validate with
  | error fault =>
      left
      exact ⟨fault, rfl, by simp [outcome, watched, checked]⟩
  | ok _ =>
      refine .inr ⟨rfl, ?_⟩
      by_cases disabled : settings.timeout = 0
      · refine .inl ⟨disabled, ?_⟩
        simp [outcome, watched, checked, BufferSettings.timeoutEnabled, disabled, created]
      · refine .inr ⟨disabled, ?_⟩
        cases stopped : ticker.stopRequested with
        | true =>
            refine .inl ⟨rfl, ?_⟩
            simp [outcome, watched, checked, BufferSettings.timeoutEnabled, disabled,
              Ticker.register, stopped, counted]
        | false =>
            refine .inr ⟨rfl, ?_⟩
            simp [outcome, watched, checked, BufferSettings.timeoutEnabled, disabled, created,
              Ticker.register, stopped, counted, registration]

end KeyedBatching
