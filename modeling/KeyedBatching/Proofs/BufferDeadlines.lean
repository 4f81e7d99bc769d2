import KeyedBatching.Proofs.BatchWindows

/-!
# Deadlines of a bare buffer

The owner of a buffer chooses how many requests leave in a batch, and a batch
that leaves closes the window whatever stays behind.  The next window opens with
the next request that is admitted and counts from that one.  So the oldest
request has a deadline exactly as long as nothing is left from before the last
batch, or the first request after the batch came in the same instant.  A
controller always takes the whole queue, and never gets there.
-/

namespace KeyedBatching

/-- What can happen to a buffer between two looks at its timer: a call of its owner, where a
batch that leaves is followed by the next generation, or a poll of its ticker. -/
inductive BufferOperation (K P : Type) where
  | enqueueActive (now : Instant) (request : Request K P)
  | enqueueWaiting (request : Request K P)
  | unblock (key : K)
  | extract (count : Nat)
  | poll (now : Instant)
deriving DecidableEq

/-- The admitted requests with their instants: those that the last batch has left behind, and
those that came since. -/
structure Backlog (K P : Type) where
  kept : List (Instant × Request K P) := []
  fresh : List (Instant × Request K P) := []
deriving DecidableEq

variable {K P : Type}

namespace BufferOperation

def admittedAt? : BufferOperation K P → Option Instant
  | .enqueueActive now _ => some now
  | _ => none

def admissions (operations : List (BufferOperation K P)) : List Instant :=
  operations.filterMap admittedAt?

end BufferOperation

namespace Backlog

def all (backlog : Backlog K P) : List (Instant × Request K P) :=
  backlog.kept ++ backlog.fresh

def after (backlog : Backlog K P) : BufferOperation K P → Backlog K P
  | .enqueueActive now request => { backlog with fresh := backlog.fresh ++ [(now, request)] }
  | .extract count =>
      if backlog.all.take count = [] then backlog else { kept := backlog.all.drop count }
  | _ => backlog

def run (backlog : Backlog K P) (operations : List (BufferOperation K P)) : Backlog K P :=
  operations.foldl after backlog

/-- Instants leave the backlog with their requests, and only admissions add to them. -/
theorem all_after_sublist (backlog : Backlog K P) (operation : BufferOperation K P) :
    ((backlog.after operation).all.map Prod.fst).Sublist
      (backlog.all.map Prod.fst ++ operation.admittedAt?.toList) := by
  cases operation with
  | enqueueActive now request =>
      simp [after, all, BufferOperation.admittedAt?]
  | extract count =>
      simp only [after, BufferOperation.admittedAt?, Option.toList_none, List.append_nil]
      split
      · exact List.Sublist.refl _
      · rw [all, List.append_nil]
        exact (List.drop_sublist count backlog.all).map Prod.fst
  | enqueueWaiting request => simp [after, BufferOperation.admittedAt?]
  | unblock key => simp [after, BufferOperation.admittedAt?]
  | poll now => simp [after, BufferOperation.admittedAt?]

theorem all_run_sublist (backlog : Backlog K P) (operations : List (BufferOperation K P)) :
    ((backlog.run operations).all.map Prod.fst).Sublist
      (backlog.all.map Prod.fst ++ BufferOperation.admissions operations) := by
  induction operations generalizing backlog with
  | nil => simp [run, BufferOperation.admissions]
  | cons operation later ih =>
      have first := backlog.all_after_sublist operation
      have rest := ih (backlog.after operation)
      have split : BufferOperation.admissions (operation :: later) =
          operation.admittedAt?.toList ++ BufferOperation.admissions later := by
        cases admitted : operation.admittedAt? <;>
          simp [BufferOperation.admissions, admitted]
      rw [split, ← List.append_assoc]
      exact rest.trans (first.append_right _)

end Backlog

namespace RequestBuffer

/-! ## Runs -/

/-- Takes up to `count` requests into a container, and starts the next generation if there were
any. -/
def extractInto {C : Type} [Container C (Request K P)] (count : Nat) (container : C)
    (buffer : RequestBuffer K P) : Option C × RequestBuffer K P :=
  match Id.run (buffer.popActive count (pure container)) with
  | (none, buffer) => (none, buffer)
  | (some filled, buffer) => (some filled, buffer.advanceGeneration.2)

theorem extractInto_nothing {C : Type} [Container C (Request K P)] {count : Nat}
    {buffer : RequestBuffer K P} (nothing : buffer.active.items.take count = [])
    (container : C) : buffer.extractInto count container = (none, buffer) := by
  simp [extractInto, popActive, ActiveQueue.popInto_of_take_eq_nil nothing]

theorem extractInto_something {C : Type} [Container C (Request K P)] {count : Nat}
    {buffer : RequestBuffer K P} (something : buffer.active.items.take count ≠ [])
    (container : C) :
    buffer.extractInto count container =
      (some (Container.offerAll container (buffer.active.items.take count)),
        { buffer with
          active := ⟨buffer.active.items.drop count⟩
          timer := buffer.timer.advance.2 }) := by
  simp [extractInto, popActive, ActiveQueue.popInto_of_take_ne_nil something, advanceGeneration]

variable [DecidableEq K]

def perform (buffer : RequestBuffer K P) : BufferOperation K P → RequestBuffer K P
  | .enqueueActive now request => (buffer.enqueueActive now request).value
  | .enqueueWaiting request => buffer.enqueueWaiting request
  | .unblock key => (buffer.unblockOne key).2
  | .extract count => (buffer.extractInto count ([] : List (Request K P))).2
  | .poll now => { buffer with timer := (buffer.timer.pollExpired now).2 }

def run (buffer : RequestBuffer K P) (operations : List (BufferOperation K P)) :
    RequestBuffer K P :=
  operations.foldl perform buffer

/-! ## The window of a backlog -/

/-- The buffer holds the backlog, and its window is that of the requests that came since the last
batch. -/
structure IsBacked (timeout : Duration) (backlog : Backlog K P)
    (buffer : RequestBuffer K P) : Prop where
  configured : buffer.timer.timeout = timeout
  requests : backlog.all.map Prod.snd = buffer.active.items
  armed : buffer.timer.armed =
    Controller.windowOf timeout buffer.timer.current backlog.fresh

variable {timeout : Duration} {backlog : Backlog K P} {buffer : RequestBuffer K P}

omit [DecidableEq K] in
theorem IsBacked.enqueueActive (backed : buffer.IsBacked timeout backlog) (now : Instant)
    (request : Request K P) :
    IsBacked timeout (backlog.after (.enqueueActive now request))
      (buffer.enqueueActive now request).value := by
  obtain ⟨configured, requests, armed⟩ := backed
  rw [enqueueActive_value]
  rcases BatchTimer.armIfIdle_cases now buffer.timer with
    ⟨idle, same⟩ | ⟨enabled, closed, opens⟩
  · refine ⟨by rw [same, configured], by simp [Backlog.after, Backlog.all, ← requests], ?_⟩
    rw [same, armed]
    rcases idle with disabled | isOpen
    · simp [Controller.windowOf, ← configured, disabled]
    · rw [armed] at isOpen
      cases fresh : backlog.fresh with
      | nil => simp [Controller.windowOf, fresh] at isOpen
      | cons oldest rest => simp [Controller.windowOf, Backlog.after, fresh]
  · rw [configured] at enabled opens
    rw [opens]
    refine ⟨configured, by simp [Backlog.after, Backlog.all, ← requests], ?_⟩
    rw [closed] at armed
    cases fresh : backlog.fresh with
    | nil => simp [Controller.windowOf, BatchTimer.store, Backlog.after, fresh, enabled]
    | cons oldest rest => simp [Controller.windowOf, fresh, enabled] at armed

omit [DecidableEq K] in
/-- A batch closes the window, and all that it leaves is left without one. -/
theorem IsBacked.extractInto {C : Type} [Container C (Request K P)]
    (backed : buffer.IsBacked timeout backlog) (count : Nat) (container : C) :
    IsBacked timeout (backlog.after (.extract count))
      (buffer.extractInto count container).2 := by
  have taken : buffer.active.items.take count = (backlog.all.take count).map Prod.snd := by
    rw [← backed.requests, List.map_take]
  by_cases nothing : backlog.all.take count = []
  · have stays : buffer.active.items.take count = [] := by rw [taken, nothing, List.map_nil]
    rw [extractInto_nothing stays, Backlog.after, if_pos nothing]
    exact backed
  · have leaves : buffer.active.items.take count ≠ [] := by
      rw [taken]
      simpa using nothing
    rw [extractInto_something leaves, Backlog.after, if_neg nothing]
    constructor
    · exact backed.configured
    · rw [Backlog.all, List.append_nil, List.map_drop, backed.requests]
    · simp [BatchTimer.advance, BatchTimer.store, BatchTimer.increment, Controller.windowOf]

theorem IsBacked.perform (backed : buffer.IsBacked timeout backlog)
    (operation : BufferOperation K P) :
    IsBacked timeout (backlog.after operation) (buffer.perform operation) := by
  cases operation with
  | enqueueActive now request => exact backed.enqueueActive now request
  | enqueueWaiting request => exact ⟨backed.configured, backed.requests, backed.armed⟩
  | unblock key => exact ⟨backed.configured, backed.requests, backed.armed⟩
  | extract count => exact backed.extractInto count []
  | poll now =>
      obtain ⟨armed, current, unchanged⟩ := BatchTimer.pollExpired_frame now buffer.timer
      obtain ⟨configured, requests, opened⟩ := backed
      rw [← current, ← armed] at opened
      exact ⟨unchanged.trans configured, requests, opened⟩

theorem IsBacked.run (backed : buffer.IsBacked timeout backlog)
    (operations : List (BufferOperation K P)) :
    IsBacked timeout (backlog.run operations) (buffer.run operations) := by
  induction operations generalizing backlog buffer with
  | nil => exact backed
  | cons operation later ih => exact ih (backed.perform operation)

omit [DecidableEq K] in
theorem isBacked_empty (settings : BufferSettings) (registration : Option RegistrationHandle) :
    IsBacked settings.timeout {} (empty settings registration : RequestBuffer K P) :=
  ⟨rfl, rfl, (ite_self none).symm⟩

/-! ## Deadlines -/

/-- A window is open that expires no later than the oldest request has the age of the timeout. -/
def MeetsDeadline (timeout : Duration) (queued : List (Instant × Request K P))
    (buffer : RequestBuffer K P) : Prop :=
  ∀ oldest, queued.head? = some oldest →
    ∃ window, buffer.timer.armed = some window ∧ window.deadline ≤ oldest.1 + timeout

omit [DecidableEq K] in
/-- A deadline for the oldest request needs an empty rest of the last batch, or a next request
that came in the very instant of the oldest. -/
theorem IsBacked.meetsDeadline_iff (backed : buffer.IsBacked timeout backlog)
    (enabled : timeout ≠ 0) (ordered : (backlog.all.map Prod.fst).Pairwise (· ≤ ·)) :
    buffer.MeetsDeadline timeout backlog.all ↔
      ∀ oldest, backlog.kept.head? = some oldest →
        ∃ first, backlog.fresh.head? = some first ∧ first.1 = oldest.1 := by
  obtain ⟨kept, fresh⟩ := backlog
  have armed : buffer.timer.armed =
      fresh.head?.map fun first => ⟨buffer.timer.current, first.1 + timeout⟩ := by
    rw [backed.armed, Controller.windowOf, if_neg enabled]
  rw [MeetsDeadline, armed]
  cases kept with
  | nil =>
      simp only [Backlog.all, List.nil_append, List.head?_nil, reduceCtorEq, false_implies,
        implies_true, iff_true]
      intro oldest head
      exact ⟨_, by rw [head, Option.map_some], Nat.le_refl _⟩
  | cons oldest rest =>
      simp only [Backlog.all, List.cons_append, List.head?_cons, Option.some.injEq,
        forall_eq', Option.map_eq_some_iff]
      constructor
      · rintro ⟨_, ⟨first, head, rfl⟩, early⟩
        refine ⟨first, head, Nat.le_antisymm (Nat.le_of_add_le_add_right early) ?_⟩
        have later : first ∈ rest ++ fresh :=
          List.mem_append_right _ (List.mem_of_mem_head? head)
        simp only [Backlog.all, List.cons_append, List.map_cons, List.pairwise_cons] at ordered
        exact ordered.1 first.1 (List.mem_map_of_mem later)
      · rintro ⟨first, head, same⟩
        refine ⟨_, ⟨first, head, rfl⟩, ?_⟩
        exact Nat.le_of_eq (by rw [same])

/-- After any run, the window is that of the requests that came since the last batch; the oldest
request has its deadline exactly if none is left from before that batch, or the next one came in
the same instant. -/
theorem run_meets_deadline_iff {settings : BufferSettings} (enabled : settings.timeout ≠ 0)
    (registration : Option RegistrationHandle) {operations : List (BufferOperation K P)}
    (ordered : (BufferOperation.admissions operations).Pairwise (· ≤ ·)) :
    let buffer := (empty settings registration : RequestBuffer K P).run operations
    let backlog := ({} : Backlog K P).run operations
    backlog.all.map Prod.snd = buffer.active.items ∧
      buffer.timer.armed =
        (backlog.fresh.head?.map fun first =>
          ⟨buffer.timer.current, first.1 + settings.timeout⟩) ∧
      (buffer.MeetsDeadline settings.timeout backlog.all ↔
        ∀ oldest, backlog.kept.head? = some oldest →
          ∃ first, backlog.fresh.head? = some first ∧ first.1 = oldest.1) := by
  intro buffer backlog
  have backed : buffer.IsBacked settings.timeout backlog :=
    (isBacked_empty settings registration).run operations
  have instants : (backlog.all.map Prod.fst).Pairwise (· ≤ ·) :=
    ordered.sublist (({} : Backlog K P).all_run_sublist operations)
  refine ⟨backed.requests, ?_, backed.meetsDeadline_iff enabled instants⟩
  rw [backed.armed, Controller.windowOf, if_neg enabled]

/-- Of three requests one leaves alone and another waits for the next admission to get a
deadline, which is too late for it. -/
theorem run_meets_deadline_iff_leftover :
    let settings : BufferSettings := { timeout := 100, interval := 10 }
    let request (payload : String) : Request Nat String := ⟨7, .usual, payload⟩
    let operations : List (BufferOperation Nat String) :=
      [.enqueueActive 0 (request "first"), .poll 5, .enqueueActive 10 (request "second"),
        .extract 1, .unblock 7, .enqueueActive 50 (request "third")]
    let buffer := (empty settings none).run operations
    let backlog := ({} : Backlog Nat String).run operations
    settings.timeout ≠ 0 ∧ (BufferOperation.admissions operations).Pairwise (· ≤ ·) ∧
      backlog.kept = [(10, request "second")] ∧ backlog.fresh = [(50, request "third")] ∧
      buffer.timer.armed = some ⟨1, 150⟩ ∧
      ¬ buffer.MeetsDeadline settings.timeout backlog.all := by
  intro settings request operations buffer backlog
  have enabled : settings.timeout ≠ 0 := by decide
  have ordered : (BufferOperation.admissions operations).Pairwise (· ≤ ·) := by decide
  obtain ⟨_, _, meets⟩ := run_meets_deadline_iff enabled none ordered
  have kept : backlog.kept = [(10, request "second")] := by decide
  have fresh : backlog.fresh = [(50, request "third")] := by decide
  have armed : buffer.timer.armed = some ⟨1, 150⟩ := by decide
  refine ⟨enabled, ordered, kept, fresh, armed, ?_⟩
  intro met
  obtain ⟨first, head, same⟩ := meets.mp met (10, request "second") (by rw [kept]; rfl)
  rw [fresh] at head
  obtain rfl := Option.some.inj head
  simp at same

/-- A batch of one request leaves another without a deadline, although windows were open for both
of them before. -/
theorem run_deadline_lost_behind_batch :
    ¬ ∀ (settings : BufferSettings) (registration : Option RegistrationHandle)
        (operations : List (BufferOperation Nat String)),
      settings.timeout ≠ 0 → (BufferOperation.admissions operations).Pairwise (· ≤ ·) →
        ((empty settings registration).run operations).MeetsDeadline settings.timeout
          (({} : Backlog Nat String).run operations).all := by
  intro claimed
  let settings : BufferSettings := { timeout := 100, interval := 10 }
  let first : Request Nat String := ⟨7, .usual, "first"⟩
  let second : Request Nat String := ⟨8, .usual, "second"⟩
  let operations : List (BufferOperation Nat String) :=
    [.enqueueActive 0 first, .enqueueActive 10 second, .extract 1]
  have ordered : (BufferOperation.admissions operations).Pairwise (· ≤ ·) := by decide
  have queued : (({} : Backlog Nat String).run operations).all.head? = some (10, second) := by
    decide
  have closed : ((empty settings none).run operations).timer.armed = none := by decide
  obtain ⟨window, isOpen, _⟩ :=
    claimed settings none operations (by decide) ordered (10, second) queued
  rw [closed] at isOpen
  cases isOpen

end RequestBuffer

end KeyedBatching
