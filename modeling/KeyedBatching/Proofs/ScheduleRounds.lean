import KeyedBatching.Proofs.RoundOverflow

/-!
# Rounds at a fixed rate

As long as no sum leaves the clock's range, a round does the same to every
appointment, whatever the others are and in whichever order they come: one that
has come is moved, and all others stay.  It is moved by one period, or, if that
is not enough to bring it behind the round, to one period after the round.  Either
way it moves by at least one period and ends up no more than one period after the
round, so that looks that were missed are not made up for.
-/

namespace KeyedBatching

/-! ## Tables -/

namespace KeyTable

variable {K V : Type} [DecidableEq K]

theorem mem_of_find {key : K} {value : V} {entries : List (K × V)}
    (found : find key entries = some value) : (key, value) ∈ entries := by
  obtain ⟨before, after, rfl, _⟩ := find_eq_some_split found
  exact List.mem_append_right _ List.mem_cons_self

/-- With distinct keys, an entry is found by its key. -/
theorem get?_eq_some_iff {table : KeyTable K V} (distinct : table.keys.Nodup) {key : K}
    {value : V} : table.get? key = some value ↔ (key, value) ∈ table.entries := by
  refine ⟨mem_of_find, ?_⟩
  intro member
  cases found : table.get? key with
  | none =>
      have absent : key ∉ table.keys := get?_eq_none_iff.mp found
      exact absurd (List.mem_map_of_mem member) absent
  | some other =>
      have same := List.inj_on_of_nodup_map distinct (mem_of_find found) member rfl
      exact congrArg some (Prod.mk.inj same).2

/-- The order of the entries does not matter. -/
theorem get?_of_perm {table other : KeyTable K V} (distinct : table.keys.Nodup)
    (reordered : other.entries.Perm table.entries) (key : K) : other.get? key = table.get? key := by
  have distinctToo : other.keys.Nodup := (reordered.map Prod.fst).nodup_iff.mpr distinct
  apply Option.ext
  intro value
  rw [get?_eq_some_iff distinctToo, get?_eq_some_iff distinct]
  exact reordered.mem_iff

theorem find_map {W : Type} (key : K) (change : V → W) (entries : List (K × V)) :
    find key (entries.map fun entry => (entry.1, change entry.2)) =
      (find key entries).map change := by
  induction entries with
  | nil => rfl
  | cons entry rest ih =>
      obtain ⟨existing, value⟩ := entry
      by_cases same : existing = key <;> simp [find, same, ih]

end KeyTable

/-! ## Appointments -/

namespace Appointment

/-- When an appointment that has come is due next. -/
def following (now : Instant) (appointment : Appointment) : Instant :=
  if appointment.due + appointment.period ≤ now then now + appointment.period
  else appointment.due + appointment.period

/-- The appointment after a round. -/
def after (now : Instant) (appointment : Appointment) : Appointment :=
  if now < appointment.due then appointment
  else appointment.movedTo (appointment.following now)

/-- The sums that are formed to move the appointment are instants. -/
def Fits (now : Instant) (appointment : Appointment) : Prop :=
  appointment.due + appointment.period < Instant.limit ∧
    (appointment.due + appointment.period ≤ now → now + appointment.period < Instant.limit)

variable {now : Instant} {appointment moved : Appointment}

theorem next?_eq_some_iff :
    appointment.next? now = some moved ↔
      appointment.Fits now ∧ moved = appointment.movedTo (appointment.following now) := by
  unfold next? Fits following
  by_cases within : appointment.due + appointment.period < Instant.limit
  · by_cases passed : appointment.due + appointment.period ≤ now
    · by_cases again : now + appointment.period < Instant.limit <;>
        simp [Instant.add?, within, passed, again, eq_comm]
    · simp [Instant.add?, within, passed, eq_comm]
  · simp [Instant.add?, within]

theorem lt_following (periodic : 0 < appointment.period) : now < appointment.following now := by
  unfold following
  split
  · exact Nat.lt_add_of_pos_right periodic
  next ahead => exact Nat.lt_of_not_le ahead

/-- An appointment that has come moves by at least one period. -/
theorem due_add_period_le_following (come : appointment.due ≤ now) :
    appointment.due + appointment.period ≤ appointment.following now := by
  unfold following
  split
  · exact Nat.add_le_add_right come _
  · exact Nat.le_refl _

theorem following_le (come : appointment.due ≤ now) :
    appointment.following now ≤ now + appointment.period := by
  unfold following
  split
  · exact Nat.le_refl _
  · exact Nat.add_le_add_right come _

theorem after_of_lt (early : now < appointment.due) : appointment.after now = appointment :=
  if_pos early

theorem after_of_le (come : appointment.due ≤ now) :
    appointment.after now = appointment.movedTo (appointment.following now) :=
  if_neg (Nat.not_lt_of_le come)

@[simp] theorem after_registration :
    (appointment.after now).registration = appointment.registration := by
  unfold after
  split <;> rfl

@[simp] theorem after_period : (appointment.after now).period = appointment.period := by
  unfold after
  split <;> rfl

theorem lt_after_due (periodic : 0 < appointment.period) :
    now < (appointment.after now).due := by
  unfold after
  split
  · assumption
  · exact lt_following periodic

/-- The instants among the given ones at which the appointment has come, each time it is moved. -/
def looks (appointment : Appointment) : List Instant → List Instant
  | [] => []
  | now :: later =>
      if appointment.due ≤ now then now :: (appointment.after now).looks later
      else appointment.looks later

/-- A look is late by at least as many periods as there were looks before it. -/
theorem looks_rate {instants : List Instant} {count : Nat} {look : Instant}
    (looked : (appointment.looks instants)[count]? = some look) :
    appointment.due + count * appointment.period ≤ look := by
  induction instants generalizing appointment count with
  | nil => simp [looks] at looked
  | cons now later ih =>
      rw [looks] at looked
      split at looked
      next come =>
        cases count with
        | zero =>
            obtain rfl := Option.some.inj looked
            simpa using come
        | succ count =>
            have moved : appointment.due + appointment.period ≤ (appointment.after now).due := by
              rw [after_of_le come]
              exact due_add_period_le_following come
            calc
              appointment.due + (count + 1) * appointment.period
                  = appointment.due + appointment.period + count * appointment.period := by
                    rw [Nat.succ_mul, Nat.add_assoc, Nat.add_comm appointment.period]
              _ ≤ (appointment.after now).due + count * appointment.period :=
                    Nat.add_le_add_right moved _
              _ = (appointment.after now).due + count * (appointment.after now).period := by
                    rw [after_period]
              _ ≤ look := ih looked
      · exact ih looked

end Appointment

namespace Schedule

/-! ## One round -/

/-- Every sum of a round is an instant. -/
def Fits (now : Instant) (schedule : Schedule) : Prop :=
  ∀ entry ∈ schedule.entries, entry.2.due ≤ now → entry.2.Fits now

/-- The schedule after a round. -/
def after (now : Instant) (schedule : Schedule) : Schedule :=
  ⟨schedule.entries.map fun entry => (entry.1, entry.2.after now)⟩

/-- Every registration has one entry, under its own number. -/
structure IsNumbered (schedule : Schedule) : Prop where
  distinct : schedule.keys.Nodup
  numbered : ∀ entry ∈ schedule.entries, entry.2.registration.id = entry.1

variable {now : Instant} {schedule next : Schedule} {due : List Registration}

theorem collectEntries_of_fits {entries : List (Nat × Appointment)}
    (fits : ∀ entry ∈ entries, entry.2.due ≤ now → entry.2.Fits now) :
    collectEntries now entries =
      some (dueAt now entries, entries.map fun entry => (entry.1, entry.2.after now)) := by
  induction entries with
  | nil => rfl
  | cons entry later ih =>
      obtain ⟨id, appointment⟩ := entry
      obtain ⟨first, rest⟩ := List.forall_mem_cons.mp fits
      rw [collectEntries]
      split
      next notYet =>
        simp [ih rest, dueAt, Nat.not_le_of_lt notYet, Appointment.after_of_lt notYet]
      next come =>
        have come : appointment.due ≤ now := Nat.le_of_not_lt come
        have moves : appointment.next? now = some (appointment.after now) :=
          Appointment.next?_eq_some_iff.mpr ⟨first come, Appointment.after_of_le come⟩
        simp [ih rest, dueAt, come, moves]

/-- A round has a result exactly if its sums are instants.  It takes what is due, and does to each
entry what is to be done to it alone. -/
theorem collect_eq_some_iff :
    schedule.collect now = some (due, next) ↔
      schedule.Fits now ∧ due = dueAt now schedule.entries ∧ next = schedule.after now := by
  have result (fits : schedule.Fits now) :
      schedule.collect now = some (dueAt now schedule.entries, schedule.after now) := by
    rw [collect, collectEntries_of_fits fits]
    rfl
  constructor
  · intro collected
    have fits : schedule.Fits now := by
      intro entry member come
      cases moves : entry.2.next? now with
      | none =>
          have stuck : collectEntries now schedule.entries = none :=
            collectEntries_eq_none_iff.mpr ⟨entry, member, come, moves⟩
          simp [collect, stuck] at collected
      | some moved => exact (Appointment.next?_eq_some_iff.mp moves).1
    obtain ⟨rfl, rfl⟩ := Prod.mk.inj (Option.some.inj ((result fits).symm.trans collected))
    exact ⟨fits, rfl, rfl⟩
  · rintro ⟨fits, rfl, rfl⟩
    exact result fits

theorem get?_after (now : Instant) (schedule : Schedule) (id : Nat) :
    (schedule.after now).get? id = (schedule.get? id).map (Appointment.after now) :=
  KeyTable.find_map id (Appointment.after now) schedule.entries

theorem keys_after (now : Instant) (schedule : Schedule) :
    (schedule.after now).keys = schedule.keys := by
  simp [after, KeyTable.keys]

theorem IsNumbered.after (numbered : schedule.IsNumbered) (now : Instant) :
    (schedule.after now).IsNumbered := by
  refine ⟨?_, ?_⟩
  · rw [keys_after]
    exact numbered.distinct
  · intro entry member
    obtain ⟨before, known, rfl⟩ := List.mem_map.mp member
    exact (congrArg Registration.id Appointment.after_registration).trans
      (numbered.numbered before known)

theorem IsNumbered.put (numbered : schedule.IsNumbered) {id : Nat} {appointment : Appointment}
    (own : appointment.registration.id = id) : IsNumbered (schedule.put id appointment) := by
  refine ⟨KeyTable.keys_put_nodup numbered.distinct id appointment, ?_⟩
  intro entry member
  rcases KeyTable.mem_entries_put member with rfl | old
  · exact own
  · exact numbered.numbered entry old

theorem IsNumbered.erase (numbered : schedule.IsNumbered) (id : Nat) :
    IsNumbered (schedule.erase id) := by
  refine ⟨KeyTable.keys_erase_nodup numbered.distinct id, ?_⟩
  intro entry member
  exact numbered.numbered entry (KeyTable.mem_entries_erase member)

theorem mem_dueAt {entries : List (Nat × Appointment)} {registration : Registration} :
    registration ∈ dueAt now entries ↔
      ∃ entry ∈ entries, entry.2.due ≤ now ∧ entry.2.registration = registration := by
  simp only [dueAt, List.mem_map, List.mem_filter, decide_eq_true_eq, and_assoc]

/-- A registration is due exactly if its own appointment has come. -/
theorem IsNumbered.mem_dueAt_iff (numbered : schedule.IsNumbered) {registration : Registration} :
    registration ∈ dueAt now schedule.entries ↔
      ∃ appointment, schedule.get? registration.id = some appointment ∧
        appointment.due ≤ now ∧ appointment.registration = registration := by
  rw [mem_dueAt]
  constructor
  · rintro ⟨⟨id, appointment⟩, member, come, rfl⟩
    have own : appointment.registration.id = id := numbered.numbered _ member
    refine ⟨appointment, ?_, come, rfl⟩
    rw [own]
    exact (KeyTable.get?_eq_some_iff numbered.distinct).mpr member
  · rintro ⟨appointment, found, come, same⟩
    exact ⟨_, KeyTable.mem_of_find found, come, same⟩

theorem IsNumbered.nodup_dueAt (numbered : schedule.IsNumbered) (now : Instant) :
    (dueAt now schedule.entries).Nodup := by
  have ids : (dueAt now schedule.entries).map Registration.id =
      (schedule.entries.filter fun entry => entry.2.due ≤ now).map Prod.fst := by
    rw [dueAt, List.map_map]
    apply List.map_congr_left
    intro entry member
    exact numbered.numbered entry (List.mem_filter.mp member).1
  apply List.Nodup.of_map Registration.id
  rw [ids]
  exact numbered.distinct.sublist (List.filter_sublist.map Prod.fst)

/-- With the number of a registration it is told whether a round takes it. -/
theorem IsNumbered.any_dueAt (numbered : schedule.IsNumbered) {id : Nat}
    {appointment : Appointment} (found : schedule.get? id = some appointment) :
    ((dueAt now schedule.entries).any fun registration => registration.id = id) =
      decide (appointment.due ≤ now) := by
  have own : appointment.registration.id = id :=
    numbered.numbered _ (KeyTable.mem_of_find found)
  rw [Bool.eq_iff_iff, List.any_eq_true, decide_eq_true_iff]
  constructor
  · rintro ⟨registration, member, same⟩
    obtain ⟨other, known, come, _⟩ := numbered.mem_dueAt_iff.mp member
    rw [of_decide_eq_true same, found] at known
    obtain rfl := Option.some.inj known
    exact come
  · intro come
    refine ⟨appointment.registration, ?_, decide_eq_true own⟩
    exact numbered.mem_dueAt_iff.mpr ⟨appointment, by rw [own, found], come, rfl⟩

/-- What a round at an instant takes out of a schedule, and what it makes of it. -/
structure IsRound (now : Instant) (schedule : Schedule) (due : List Registration)
    (next : Schedule) : Prop where
  complete : ∀ registration, registration ∈ due ↔
    ∃ appointment, schedule.get? registration.id = some appointment ∧
      appointment.due ≤ now ∧ appointment.registration = registration
  once : due.Nodup
  keys : next.keys = schedule.keys
  untouched : ∀ id appointment, schedule.get? id = some appointment → now < appointment.due →
    next.get? id = some appointment
  moved : ∀ id appointment, schedule.get? id = some appointment → appointment.due ≤ now →
    ∃ later, next.get? id = some (appointment.movedTo later) ∧
      later ≤ now + appointment.period ∧
      (now < appointment.due + appointment.period →
        later = appointment.due + appointment.period) ∧
      (appointment.due + appointment.period ≤ now → later = now + appointment.period)
  ahead : ∀ id appointment, next.get? id = some appointment → now < appointment.due
  /-- Nothing is left for a second round at the same instant. -/
  settled : next.collect now = some ([], next)

/-- Every registration is looked at again and again. -/
def IsPeriodic (schedule : Schedule) : Prop :=
  ∀ entry ∈ schedule.entries, 0 < entry.2.period

theorem IsPeriodic.after (periodic : schedule.IsPeriodic) (now : Instant) :
    (schedule.after now).IsPeriodic := by
  intro entry member
  obtain ⟨before, known, rfl⟩ := List.mem_map.mp member
  rw [Appointment.after_period]
  exact periodic before known

theorem IsPeriodic.lt_due (periodic : schedule.IsPeriodic) {now : Instant} :
    ∀ entry ∈ (schedule.after now).entries, now < entry.2.due := by
  intro entry member
  obtain ⟨before, known, rfl⟩ := List.mem_map.mp member
  exact Appointment.lt_after_due (periodic before known)

/-- Where nothing is due, a round does nothing. -/
theorem collect_of_ahead (ahead : ∀ entry ∈ schedule.entries, now < entry.2.due) :
    schedule.collect now = some ([], schedule) := by
  refine collect_eq_some_iff.mpr ⟨?_, ?_, ?_⟩
  · intro entry member come
    exact absurd come (Nat.not_le_of_lt (ahead entry member))
  · rw [dueAt, List.filter_eq_nil_iff.mpr, List.map_nil]
    intro entry member
    simpa using ahead entry member
  · have same : schedule.entries.map (fun entry => (entry.1, entry.2.after now)) =
        schedule.entries.map id := by
      apply List.map_congr_left
      intro entry member
      rw [Appointment.after_of_lt (ahead entry member), id]
    rw [after, same, List.map_id]

theorem IsNumbered.isRound (numbered : schedule.IsNumbered) (periodic : schedule.IsPeriodic)
    (collected : schedule.collect now = some (due, next)) : IsRound now schedule due next := by
  obtain ⟨_, rfl, rfl⟩ := collect_eq_some_iff.mp collected
  constructor
  · intro registration
    exact numbered.mem_dueAt_iff
  · exact numbered.nodup_dueAt now
  · exact keys_after now schedule
  · intro id appointment found early
    rw [get?_after, found, Option.map_some, Appointment.after_of_lt early]
  · intro id appointment found come
    refine ⟨appointment.following now, ?_, Appointment.following_le come, ?_, ?_⟩
    · rw [get?_after, found, Option.map_some, Appointment.after_of_le come]
    · intro ahead
      exact if_neg (Nat.not_le_of_lt ahead)
    · intro passed
      exact if_pos passed
  · intro id appointment found
    exact periodic.lt_due _ (KeyTable.mem_of_find found)
  · exact collect_of_ahead periodic.lt_due

/-- Another order of the entries gives the same registrations, and the same table. -/
theorem collect_of_perm {other : Schedule} (reordered : other.entries.Perm schedule.entries)
    (collected : schedule.collect now = some (due, next)) :
    ∃ otherDue otherNext, other.collect now = some (otherDue, otherNext) ∧
      otherDue.Perm due ∧ otherNext.entries.Perm next.entries := by
  obtain ⟨fits, rfl, rfl⟩ := collect_eq_some_iff.mp collected
  have fitsToo : other.Fits now := fun entry member => fits entry (reordered.mem_iff.mp member)
  exact ⟨_, _, collect_eq_some_iff.mpr ⟨fitsToo, rfl, rfl⟩,
    (reordered.filter _).map _, reordered.map _⟩

/-! ## Runs of rounds -/

/-- One round after the other, each with its instant and the registrations that it takes. -/
def collects (schedule : Schedule) :
    List Instant → Option (List (Instant × List Registration) × Schedule)
  | [] => some ([], schedule)
  | now :: later =>
      match schedule.collect now with
      | none => none
      | some (due, next) =>
          (next.collects later).map fun outcome => ((now, due) :: outcome.1, outcome.2)

/-- The instants of the rounds that take a registration. -/
def collectionsOf (id : Nat) (rounds : List (Instant × List Registration)) : List Instant :=
  (rounds.filter fun round => round.2.any fun registration => registration.id = id).map Prod.fst

theorem collects_cons_eq_some_iff {later : List Instant}
    {rounds : List (Instant × List Registration)} {last : Schedule} :
    schedule.collects (now :: later) = some (rounds, last) ↔
      ∃ due next others, schedule.collect now = some (due, next) ∧
        next.collects later = some (others, last) ∧ rounds = (now, due) :: others := by
  rw [collects]
  cases collected : schedule.collect now with
  | none => simp
  | some outcome =>
      obtain ⟨due, next⟩ := outcome
      simp [eq_comm]

/-- The rounds take a registration whenever its own appointment has come. -/
theorem IsNumbered.collectionsOf_eq (numbered : schedule.IsNumbered) {id : Nat}
    {appointment : Appointment} (found : schedule.get? id = some appointment)
    {instants : List Instant} {rounds : List (Instant × List Registration)} {last : Schedule}
    (collected : schedule.collects instants = some (rounds, last)) :
    collectionsOf id rounds = appointment.looks instants := by
  induction instants generalizing schedule appointment rounds with
  | nil =>
      obtain ⟨rfl, rfl⟩ := Prod.mk.inj (Option.some.inj collected)
      rfl
  | cons now later ih =>
      obtain ⟨due, next, others, first, rest, rfl⟩ := collects_cons_eq_some_iff.mp collected
      obtain ⟨_, rfl, rfl⟩ := collect_eq_some_iff.mp first
      have moved : (schedule.after now).get? id = some (appointment.after now) := by
        rw [get?_after, found, Option.map_some]
      have behind : collectionsOf id others = (appointment.after now).looks later :=
        ih (numbered.after now) moved rest
      rw [collectionsOf, List.filter_cons, numbered.any_dueAt found, Appointment.looks]
      by_cases come : appointment.due ≤ now
      · simpa [come, collectionsOf] using behind
      · rw [Appointment.after_of_lt (Nat.lt_of_not_le come)] at behind
        simpa [come, collectionsOf] using behind

/-- A run of rounds breaks at any of its rounds. -/
theorem collects_split {before after : List Instant}
    {rounds : List (Instant × List Registration)} {last : Schedule}
    (numbered : schedule.IsNumbered) (periodic : schedule.IsPeriodic)
    (collected : schedule.collects (before ++ now :: after) = some (rounds, last)) :
    ∃ earlier current due next, schedule.collects before = some (earlier, current) ∧
      current.collect now = some (due, next) ∧ IsRound now current due next := by
  induction before generalizing schedule rounds with
  | nil =>
      obtain ⟨due, next, others, first, _⟩ := collects_cons_eq_some_iff.mp collected
      exact ⟨[], schedule, due, next, rfl, first, numbered.isRound periodic first⟩
  | cons instant before ih =>
      obtain ⟨due, next, others, first, rest, rfl⟩ := collects_cons_eq_some_iff.mp collected
      obtain ⟨_, rfl, rfl⟩ := collect_eq_some_iff.mp first
      obtain ⟨earlier, current, taken, left, start, step, round⟩ :=
        ih (numbered.after instant) (periodic.after instant) rest
      refine ⟨(instant, dueAt instant schedule.entries) :: earlier, current, taken, left, ?_,
        step, round⟩
      exact collects_cons_eq_some_iff.mpr ⟨_, _, _, first, start, rfl⟩

theorem instants_of_collects {instants : List Instant}
    {rounds : List (Instant × List Registration)} {last : Schedule}
    (collected : schedule.collects instants = some (rounds, last)) :
    rounds.map Prod.fst = instants := by
  induction instants generalizing schedule rounds with
  | nil =>
      obtain ⟨rfl, rfl⟩ := Prod.mk.inj (Option.some.inj collected)
      rfl
  | cons now later ih =>
      obtain ⟨due, next, others, first, rest, rfl⟩ := collects_cons_eq_some_iff.mp collected
      rw [List.map_cons, ih rest]

/-- Rounds that stay away from the end of the clock's range by a period have a result. -/
theorem exists_collects {instants : List Instant}
    (within : ∀ now ∈ instants, ∀ entry ∈ schedule.entries,
      now + entry.2.period < Instant.limit) :
    ∃ rounds last, schedule.collects instants = some (rounds, last) := by
  induction instants generalizing schedule with
  | nil => exact ⟨[], schedule, rfl⟩
  | cons now later ih =>
      obtain ⟨here, behind⟩ := List.forall_mem_cons.mp within
      have fits : schedule.Fits now := by
        intro entry member come
        have near := here entry member
        exact ⟨Nat.lt_of_le_of_lt (Nat.add_le_add_right come _) near, fun _ => near⟩
      have moved : ∀ instant ∈ later, ∀ entry ∈ (schedule.after now).entries,
          instant + entry.2.period < Instant.limit := by
        intro instant among entry member
        obtain ⟨before, known, rfl⟩ := List.mem_map.mp member
        rw [Appointment.after_period]
        exact behind instant among before known
      obtain ⟨others, last, rest⟩ := ih moved
      exact ⟨_, last, collects_cons_eq_some_iff.mpr
        ⟨_, _, _, collect_eq_some_iff.mpr ⟨fits, rfl, rfl⟩, rest, rfl⟩⟩

/-! ## The rate -/

/-- A round whose sums are instants takes each registration that is due once, moves it by a period,
or to a period after the round if that is not later than the round, and touches no other; the order
of the entries does not matter.  In a run of rounds, which has a result if every instant is a period
away from the end of the clock's range, all rounds are like this.  The rounds that take a
registration are never closer to its first appointment than its period allows, whatever came
between. -/
theorem collects_at_fixed_rate {schedule : Schedule} (numbered : schedule.IsNumbered)
    (periodic : schedule.IsPeriodic) :
    (∀ now, schedule.Fits now →
      ∃ due next, schedule.collect now = some (due, next) ∧ IsRound now schedule due next ∧
        ∀ other : Schedule, other.entries.Perm schedule.entries →
          ∃ otherDue otherNext, other.collect now = some (otherDue, otherNext) ∧
            otherDue.Perm due ∧ ∀ id, otherNext.get? id = next.get? id) ∧
    (∀ instants rounds last, schedule.collects instants = some (rounds, last) →
      rounds.map Prod.fst = instants ∧
      (∀ id appointment, schedule.get? id = some appointment →
        ∀ (count : Nat) now, (collectionsOf id rounds)[count]? = some now →
          appointment.due + count * appointment.period ≤ now) ∧
      ∀ before now after, instants = before ++ now :: after →
        ∃ earlier current due next, schedule.collects before = some (earlier, current) ∧
          current.collect now = some (due, next) ∧ IsRound now current due next) ∧
    ∀ instants : List Instant, (∀ now ∈ instants, ∀ entry ∈ schedule.entries,
      now + entry.2.period < Instant.limit) →
        ∃ rounds last, schedule.collects instants = some (rounds, last) := by
  refine ⟨?_, ?_, fun instants => exists_collects⟩
  · intro now fits
    have collected : schedule.collect now =
        some (dueAt now schedule.entries, schedule.after now) :=
      collect_eq_some_iff.mpr ⟨fits, rfl, rfl⟩
    refine ⟨_, _, collected, numbered.isRound periodic collected, ?_⟩
    intro other reordered
    obtain ⟨otherDue, otherNext, taken, same, moved⟩ := collect_of_perm reordered collected
    exact ⟨otherDue, otherNext, taken, same,
      KeyTable.get?_of_perm (numbered.after now).distinct moved⟩
  · intro instants rounds last collected
    refine ⟨instants_of_collects collected, ?_, ?_⟩
    · intro id appointment found count now taken
      rw [numbered.collectionsOf_eq found collected] at taken
      exact Appointment.looks_rate taken
    · rintro before now after rfl
      exact collects_split numbered periodic collected

/-- A registration that is looked at in time, then too late by several periods, and from then on
along another grid, beside one that is due less often, and one that is not due at all. -/
theorem collects_at_fixed_rate_missed_periods :
    let first : Registration := ⟨1, 4, 4, {}⟩
    let second : Registration := ⟨2, 5, 5, {}⟩
    let third : Registration := ⟨7, 6, 6, {}⟩
    let schedule : Schedule := ⟨[(1, ⟨first, 50, 10⟩), (2, ⟨second, 60, 25⟩), (7, ⟨third, 300, 5⟩)]⟩
    let reordered : Schedule :=
      ⟨[(7, ⟨third, 300, 5⟩), (2, ⟨second, 60, 25⟩), (1, ⟨first, 50, 10⟩)]⟩
    let instants : List Instant := [50, 95, 95, 104, 105, 130]
    schedule.IsNumbered ∧ schedule.IsPeriodic ∧ schedule.Fits 95 ∧
      reordered.entries.Perm schedule.entries ∧
      (∃ due next otherDue otherNext, schedule.collect 95 = some (due, next) ∧
        IsRound 95 schedule due next ∧ reordered.collect 95 = some (otherDue, otherNext) ∧
        otherDue.Perm due ∧ ∀ id, otherNext.get? id = next.get? id) ∧
      ∃ rounds last, schedule.collects instants = some (rounds, last) ∧
        collectionsOf 1 rounds = [50, 95, 105, 130] ∧
        last.get? 1 = some ⟨first, 140, 10⟩ ∧
        ∀ (count : Nat) now, (collectionsOf 1 rounds)[count]? = some now →
          50 + count * 10 ≤ now := by
  intro first second third schedule reordered instants
  have numbered : schedule.IsNumbered := ⟨by decide, by decide⟩
  have periodic : schedule.IsPeriodic := by
    show ∀ entry ∈ schedule.entries, 0 < entry.2.period
    decide
  have fits : schedule.Fits 95 := by
    intro entry member _
    have near : entry.2.due + entry.2.period < Instant.limit ∧
        95 + entry.2.period < Instant.limit := by
      revert entry
      decide
    exact ⟨near.1, fun _ => near.2⟩
  have order : reordered.entries.Perm schedule.entries := List.reverse_perm schedule.entries
  obtain ⟨one, run, _⟩ := collects_at_fixed_rate numbered periodic
  obtain ⟨due, next, collected, round, others⟩ := one 95 fits
  obtain ⟨otherDue, otherNext, otherCollected, same, table⟩ := others reordered order
  refine ⟨numbered, periodic, fits, order,
    ⟨due, next, otherDue, otherNext, collected, round, otherCollected, same, table⟩, ?_⟩
  obtain ⟨_, rate, _⟩ := run instants _ _ rfl
  exact ⟨_, _, rfl, by decide, by decide, rate 1 ⟨first, 50, 10⟩ rfl⟩

end Schedule

end KeyedBatching
