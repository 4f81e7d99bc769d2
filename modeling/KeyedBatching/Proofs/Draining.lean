import KeyedBatching.Proofs.BatchNumbers
import KeyedBatching.Proofs.CompletionAccounts
import KeyedBatching.Proofs.ControllerDemands

/-!
# Draining a controller

A client that keeps to its rule can empty a controller at any time: it flushes, and as
long as a request is outstanding it completes the key of one and flushes again.  The
load, that is, the number of requests outstanding, queued or waiting, tells how long
this takes.  A flush leaves the load as it is, and a completion lowers it by one, since
the next request of the key only moves from the waiting room into the queue.  When
nothing is outstanding after a flush, no key is in flight, so no request can be waiting.

All this is said of a machine that does what the controller asks of it.  For large
batches there is none: the room for a full batch is asked for before a single request
leaves.
-/

namespace KeyedBatching

variable {K P : Type}

theorem WaitingRoom.keyCount_eq_zero {room : WaitingRoom K P} (sound : room.IsSound)
    (nobody : room.requests = []) : room.keyCount = 0 := by
  have noList : room.lists.entries = [] := by
    apply List.eq_nil_iff_forall_not_mem.mpr
    intro entry member
    exact sound.listsNonempty entry member (List.flatMap_eq_nil_iff.mp nobody entry member)
  rw [keyCount, KeyTable.size, noList, List.length_nil]

variable [DecidableEq K]

namespace Session

/-! ## What a client may do -/

instance (session : Session K P) (operation : Operation K P) :
    Decidable (session.Allows operation) :=
  match operation with
  | .complete _ key =>
      inferInstanceAs (Decidable (∃ request ∈ session.outstanding, request.key = key))
  | .submit _ _ => .isTrue trivial
  | .flush => .isTrue trivial
  | .onTimeout _ => .isTrue trivial
  | .processTimeouts => .isTrue trivial
  | .poll _ => .isTrue trivial
  | .signal _ => .isTrue trivial

/-- The client may perform the operations one after the other. -/
def Permits : Session K P → List (Operation K P) → Prop
  | _, [] => True
  | session, operation :: later =>
      session.Allows operation ∧ (session.perform operation).Permits later

instance decidablePermits : (session : Session K P) → (operations : List (Operation K P)) →
    Decidable (session.Permits operations)
  | _, [] => .isTrue trivial
  | session, operation :: later =>
      have := decidablePermits (session.perform operation) later
      inferInstanceAs (Decidable (session.Allows operation ∧ _))

theorem run_append (session : Session K P) (operations later : List (Operation K P)) :
    session.run (operations ++ later) = (session.run operations).run later :=
  List.foldl_append

theorem permits_append {session : Session K P} {operations later : List (Operation K P)} :
    session.Permits (operations ++ later) ↔
      session.Permits operations ∧ (session.run operations).Permits later := by
  induction operations generalizing session with
  | nil => exact (iff_of_eq (true_and _)).symm
  | cons operation others ih =>
      rw [List.cons_append, Permits, Permits, ih, and_assoc]
      rfl

namespace Reachable

variable {session : Session K P}

theorem run (reached : session.Reachable) {operations : List (Operation K P)}
    (permitted : session.Permits operations) : (session.run operations).Reachable := by
  induction operations generalizing session with
  | nil => exact reached
  | cons operation later ih => exact ih (reached.step operation permitted.1) permitted.2

theorem exists_run (reached : session.Reachable) :
    ∃ controller : Controller K P, controller.IsNew ∧
      ∃ operations, session = Session.run ⟨controller, []⟩ operations := by
  induction reached with
  | start new => exact ⟨_, new, [], rfl⟩
  | step _ operation _ ih =>
      obtain ⟨controller, new, operations, rfl⟩ := ih
      exact ⟨controller, new, operations ++ [operation], (run_append _ operations [operation]).symm⟩

theorem room (reached : session.Reachable) :
    session.controller.buffer.active.size < session.controller.batchSize := by
  obtain ⟨controller, new, operations, rfl⟩ := reached.exists_run
  rw [run_controller]
  exact new.room_run operations

end Reachable

/-! ## The load -/

/-- The number of requests that are outstanding, queued or waiting. -/
def load (session : Session K P) : Nat :=
  session.outstanding.length + session.controller.buffer.active.size +
    session.controller.buffer.waiting.size

omit [DecidableEq K] in
/-- Requests that leave the queue in a batch are outstanding instead. -/
theorem load_handedOut {controller : Controller K P} {outstanding : List (Request K P)}
    {outcome : Option (Batch (Request K P)) × Controller K P}
    (requests : outcome.1.toList.flatMap Batch.requests ++ outcome.2.buffer.active.items =
      controller.buffer.active.items)
    (waiting : outcome.2.buffer.waiting = controller.buffer.waiting) :
    load ⟨outcome.2, outstanding ++ outcome.1.toList.flatMap Batch.requests⟩ =
      load ⟨controller, outstanding⟩ := by
  have lengths := congrArg List.length requests
  rw [List.length_append] at lengths
  simp only [load, ActiveQueue.size, waiting, List.length_append]
  omega

theorem perform_flush (session : Session K P) :
    session.perform .flush =
      ⟨session.controller.handOut.2,
        session.outstanding ++ session.controller.handOut.1.toList.flatMap Batch.requests⟩ := by
  rw [perform, Controller.perform_flush]
  rfl

theorem perform_complete (session : Session K P) (now : Instant) (key : K) :
    let outcome := (session.controller.complete now key).value
    session.perform (.complete now key) =
      ⟨outcome.2, session.remaining (.complete now key) ++
        outcome.1.toList.flatMap Batch.requests⟩ :=
  rfl

theorem load_flush (session : Session K P) : (session.perform .flush).load = session.load := by
  rw [perform_flush]
  exact load_handedOut (Controller.handOut_requests _) (Controller.handOut_waiting _)

namespace Reachable

variable {session : Session K P}

theorem flush_items (reached : session.Reachable) :
    (session.perform .flush).controller.buffer.active.items = [] := by
  rw [perform_flush]
  exact Controller.handOut_items (Nat.le_of_lt reached.room)

/-- A completion takes one request off the client; another may move up into the queue. -/
theorem load_complete (reached : session.Reachable) {now : Instant} {key : K}
    (allowed : session.Allows (.complete now key)) :
    (session.perform (.complete now key)).load + 1 = session.load := by
  obtain ⟨request, member, same⟩ := allowed
  let others := session.remaining (.complete now key)
  have fewer : others.length + 1 = session.outstanding.length := by
    have erased : others.length = session.outstanding.length - 1 :=
      List.length_eraseP_of_mem member (by simpa using same)
    have some := List.length_pos_of_mem member
    omega
  rw [perform_complete]
  rcases WaitingRoom.unblockOne_cases reached.isExclusive.roomSound key with
    ⟨idle, _⟩ | ⟨next, rest, taken, _, leaves, sound⟩
  · rw [Controller.complete_idle idle, Option.toList_none, List.flatMap_nil, List.append_nil]
    change others.length + session.controller.buffer.active.size +
      session.controller.buffer.waiting.size + 1 = session.load
    rw [load]
    omega
  · let joined := (session.controller.withWaiting rest).accept now next
    have moved : session.controller.buffer.waiting.size = rest.size + 1 := by
      rw [reached.isExclusive.roomSound.sizeCounts, sound.sizeCounts, leaves.length_eq,
        List.length_cons]
    have queued : joined.buffer.active.size = session.controller.buffer.active.size + 1 :=
      List.length_append
    rw [Controller.complete_waiting taken, load_handedOut (Controller.handOutIfFull_requests _)
      (Controller.handOutIfFull_waiting _), load]
    change others.length + joined.buffer.active.size + rest.size + 1 = session.load
    rw [load]
    omega

end Reachable

/-! ## Nothing is left -/

namespace Reachable

variable {session : Session K P}

/-- Without a request outside, no key is in flight, so nothing waits either. -/
theorem isEmpty (reached : session.Reachable) (queued : session.controller.buffer.active.items = [])
    (outside : session.outstanding = []) :
    session.controller.buffer.waiting.requests = [] ∧ session.controller.inFlight = [] := by
  have exclusive := reached.isExclusive
  rw [Controller.IsExclusive, queued, outside] at exclusive
  constructor
  · apply List.eq_nil_iff_forall_not_mem.mpr
    intro request waits
    exact List.not_mem_nil (exclusive.waitersBusy request waits)
  · apply List.eq_nil_iff_forall_not_mem.mpr
    intro key busy
    exact List.not_mem_nil ((exclusive.mem_inFlight key).mp busy)

theorem outstanding_eq_nil_iff (reached : session.Reachable)
    (queued : session.controller.buffer.active.items = []) :
    session.outstanding = [] ↔ session.load = 0 := by
  constructor
  · intro outside
    obtain ⟨waits, _⟩ := reached.isEmpty queued outside
    have room := reached.isExclusive.roomSound.sizeCounts
    rw [waits, List.length_nil] at room
    rw [load, ActiveQueue.size, queued, outside, room]
    rfl
  · intro unloaded
    apply List.eq_nil_of_length_eq_zero
    rw [load] at unloaded
    omega

end Reachable

/-! ## Draining -/

/-- A key is completed, and what is queued leaves. -/
def turn (pick : Instant × K) : List (Operation K P) :=
  [.complete pick.1 pick.2, .flush]

/-- What is queued leaves; then the picked keys are completed in order, and after each of them
what is queued leaves again. -/
def drainBy (picks : List (Instant × K)) : List (Operation K P) :=
  .flush :: picks.flatMap turn

omit [DecidableEq K] in
theorem drainBy_append (picks : List (Instant × K)) (pick : Instant × K) :
    drainBy (P := P) (picks ++ [pick]) = drainBy picks ++ turn pick := by
  simp [drainBy]

omit [DecidableEq K] in
theorem submitted_drainBy (picks : List (Instant × K)) :
    Operation.submitted (P := P) (drainBy picks) = [] := by
  apply List.filterMap_eq_nil_iff.mpr
  intro operation member
  rcases List.mem_cons.mp member with rfl | later
  · rfl
  · obtain ⟨pick, _, within⟩ := List.mem_flatMap.mp later
    simp only [turn, List.mem_cons, List.not_mem_nil, or_false] at within
    rcases within with rfl | rfl <;> rfl

/-- Every turn lowers the load by one and leaves nothing queued. -/
theorem Reachable.turns_load {session : Session K P} (reached : session.Reachable)
    (queued : session.controller.buffer.active.items = []) {picks : List (Instant × K)}
    (permitted : session.Permits (picks.flatMap turn)) :
    picks.length + (session.run (picks.flatMap turn)).load = session.load ∧
      (session.run (picks.flatMap turn)).controller.buffer.active.items = [] := by
  induction picks generalizing session with
  | nil => exact ⟨Nat.zero_add _, queued⟩
  | cons pick others ih =>
      obtain ⟨allowed, _, later⟩ := permitted
      let completed := session.perform (.complete pick.1 pick.2)
      have between : completed.Reachable := reached.step _ allowed
      have fewer : completed.load + 1 = session.load := reached.load_complete allowed
      obtain ⟨rest, empty⟩ := ih (between.step .flush trivial) between.flush_items later
      rw [load_flush] at rest
      refine ⟨?_, empty⟩
      have same : session.run ((pick :: others).flatMap turn) =
          (completed.perform .flush).run (others.flatMap turn) := rfl
      rw [same, List.length_cons]
      omega

theorem Reachable.drainBy_load {session : Session K P} (reached : session.Reachable)
    {picks : List (Instant × K)} (permitted : session.Permits (drainBy picks)) :
    picks.length + (session.run (drainBy picks)).load = session.load ∧
      (session.run (drainBy picks)).controller.buffer.active.items = [] := by
  have flushed := (reached.step .flush trivial).turns_load reached.flush_items permitted.2
  rwa [load_flush] at flushed

/-- A client that keeps to its rule drains the controller by as many completions as requests were
outstanding, queued or waiting, whichever outstanding keys it picks: it cannot make more of them,
and until then there is always a key to pick.  In the end every submitted request has left in a
batch, and nothing is queued, waiting or in flight.  The calls return on just those machines that
have room for a full batch, if a batch leaves at all, and only if the clock reaches the ends of the
windows that the promoted requests open. -/
theorem drainBy_empties {controller : Controller K P} (new : controller.IsNew)
    {operations : List (Operation K P)} (permitted : Permits ⟨controller, []⟩ operations)
    {picks : List (Instant × K)}
    (picked : (run ⟨controller, []⟩ operations).Permits (drainBy picks)) :
    let started := run ⟨controller, []⟩ operations
    let drained := started.run (drainBy picks)
    let draining := started.controller.run (drainBy picks)
    let released := (controller.run (operations ++ drainBy picks)).value.1.flatMap Batch.requests
    let timeout := controller.buffer.settings.timeout
    picks.length ≤ started.load ∧
      (drained.outstanding = [] ↔ picks.length = started.load) ∧
      (∀ request ∈ drained.outstanding, ∀ now,
        started.Permits (drainBy (picks ++ [(now, request.key)]))) ∧
      (drained.outstanding = [] →
        (Operation.submitted operations : Multiset (Request K P)) = released ∧
          drained.controller.buffer.active.isEmpty = true ∧
          drained.controller.buffer.waiting.isEmpty = true ∧
          drained.controller.buffer.waiting.keyCount = 0 ∧
          drained.controller.inFlightCount = 0) ∧
      ∀ machine : Machine, draining.returns machine = true ↔
        (timeout = 0 ∨ ∀ now ∈ started.controller.openings (drainBy picks),
          now + timeout < Instant.limit) ∧
        (draining.value.1 = [] ∨ machine.meets (.room controller.batchSize) = true) := by
  intro started drained draining released timeout
  have reached : started.Reachable := (Reachable.start new).run permitted
  have ended : drained.Reachable := reached.run picked
  obtain ⟨(count : picks.length + drained.load = started.load),
    (queued : drained.controller.buffer.active.items = [])⟩ := reached.drainBy_load picked
  have whole : drained.controller = (controller.run (operations ++ drainBy picks)).value.2 := by
    rw [← run_controller ⟨controller, []⟩, run_append]
  have stops := ended.outstanding_eq_nil_iff queued
  have same : controller.SameLimits started.controller := by
    rw [run_controller]
    exact Controller.SameLimits.run controller operations
  have configured : controller.buffer.timer.timeout = timeout := new.isWindowed.configured
  refine ⟨by omega, ?_, ?_, ?_, ?_⟩
  · rw [stops]
    omega
  · intro request outside now
    rw [drainBy_append, permits_append]
    exact ⟨picked, ⟨request, outside, rfl⟩, trivial, trivial⟩
  · intro outside
    obtain ⟨waits, free⟩ := ended.isEmpty queued outside
    have sound := ended.isExclusive.roomSound
    have balanced := (new.accounts_run (operations ++ drainBy picks)).balanced
    have nothingNew : Operation.submitted (operations ++ drainBy picks) =
        Operation.submitted operations := by
      rw [Operation.submitted, List.filterMap_append]
      exact (congrArg _ (submitted_drainBy picks)).trans (List.append_nil _)
    rw [nothingNew, ← whole, queued, waits, Multiset.coe_nil, zero_add, zero_add] at balanced
    refine ⟨balanced, ?_, ?_, ?_, ?_⟩
    · simp [ActiveQueue.isEmpty, queued]
    · simp [WaitingRoom.isEmpty, sound.sizeCounts, waits]
    · exact WaitingRoom.keyCount_eq_zero sound waits
    · simp [Controller.inFlightCount, free]
  · intro machine
    rw [Controller.returns_run_iff, Controller.Ends.congr same, Controller.RoomFor.congr same,
      Controller.Ends, configured]
    rfl

/-- Two requests of a key, one of them waiting, and two of others, one of them still queued, are
drained by four completions; the last one is of the request that waited. -/
theorem drainBy_empties_waiter :
    let settings : ControllerSettings := { buffer := .disabled, batchSize := 2 }
    let controller : Controller Nat String := .around settings (.empty settings.buffer none)
    let first : Request Nat String := ⟨7, .usual, "first"⟩
    let waiter : Request Nat String := ⟨7, .usual, "waiter"⟩
    let second : Request Nat String := ⟨8, .usual, "second"⟩
    let queued : Request Nat String := ⟨9, .usual, "queued"⟩
    let operations : List (Operation Nat String) :=
      [.submit 1 first, .submit 2 waiter, .submit 3 second, .submit 4 queued]
    let picks : List (Instant × Nat) := [(5, 8), (6, 7), (7, 9), (8, 7)]
    let started := run ⟨controller, []⟩ operations
    let drained := started.run (drainBy picks)
    let released := (controller.run (operations ++ drainBy picks)).value.1.flatMap Batch.requests
    controller.IsNew ∧ Permits ⟨controller, []⟩ operations ∧ started.Permits (drainBy picks) ∧
      started.outstanding = [first, second] ∧ started.load = 4 ∧ drained.outstanding = [] ∧
      (Operation.submitted operations : Multiset (Request Nat String)) = released ∧
      released = [first, second, queued, waiter] ∧ drained.controller.inFlightCount = 0 ∧
      (started.controller.run (drainBy picks)).returns ({} : Machine) = true := by
  intro settings controller first waiter second queued operations picks started drained released
  have new : controller.IsNew := .unwatched settings rfl
  have permitted : Permits ⟨controller, []⟩ operations := by decide
  have picked : (run ⟨controller, []⟩ operations).Permits (drainBy picks) := by decide
  have count : picks.length = (run ⟨controller, []⟩ operations).load := by decide
  obtain ⟨_, stops, _, empties, returns⟩ := drainBy_empties new permitted picked
  have outside := stops.mpr count
  obtain ⟨balanced, _, _, _, free⟩ := empties outside
  exact ⟨new, permitted, picked, by decide, by decide, outside, balanced, by decide, free,
    (returns {}).mpr ⟨.inl rfl, .inr (by decide)⟩⟩

/-- A batch size that is accepted may be too large for a batch to leave, on any machine.  The
flush of a single request asks for room for as many requests as a word can count, and does not
return. -/
theorem not_forall_drainBy_returns :
    ¬∃ machine : Machine, 0 < machine.requestSize ∧
      ∀ (controller : Controller Nat String) (operations : List (Operation Nat String))
        (picks : List (Instant × Nat)), controller.IsNew → Permits ⟨controller, []⟩ operations →
        (run ⟨controller, []⟩ operations).Permits (drainBy picks) →
        (controller.run operations).returns machine = true →
        ((run ⟨controller, []⟩ operations).controller.run (drainBy picks)).returns
          machine = true := by
  rintro ⟨machine, sized, returns⟩
  let settings : ControllerSettings := { buffer := .disabled, batchSize := 18446744073709551615 }
  let controller : Controller Nat String := .around settings (.empty settings.buffer none)
  have new : controller.IsNew := .unwatched settings rfl
  have submitted : (controller.run [.submit 1 ⟨7, .usual, "first"⟩]).returns machine = true :=
    (Controller.returns_run_iff _ _).mpr ⟨.inl rfl, .inl (by decide)⟩
  have flushed := returns controller [.submit 1 ⟨7, .usual, "first"⟩] [] new ⟨trivial, trivial⟩
    ⟨trivial, trivial⟩ submitted
  rw [Controller.returns_run_iff] at flushed
  exact Controller.not_roomFor_largest sized rfl (by decide) flushed.2

end Session

end KeyedBatching
