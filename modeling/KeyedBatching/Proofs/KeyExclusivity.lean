import KeyedBatching.Proofs.ControllerRuns
import KeyedBatching.Proofs.WaitingRoomContents
import Mathlib.Data.List.Perm.Basic

/-!
# One request of a key at a time

A client completes a key only while a request of the key is outstanding, that
is, has left in a batch and was not completed.  Under this rule no key has two
requests in the active queue and outstanding together, the keys in flight are
exactly the keys of these requests, and requests wait only behind such keys.
-/

namespace KeyedBatching

namespace Controller

variable {K P : Type}

/-- The keys in flight are the given ones, each once, and every waiting request has one of
them. -/
structure IsOccupiedBy (controller : Controller K P) (keys : List K) : Prop where
  roomSound : controller.buffer.waiting.IsSound
  keysDistinct : keys.Nodup
  inFlightDistinct : controller.inFlight.Nodup
  mem_inFlight : ∀ key, key ∈ controller.inFlight ↔ key ∈ keys
  waitersBusy : ∀ request ∈ controller.buffer.waiting.requests, request.key ∈ keys

namespace IsOccupiedBy

variable {controller : Controller K P} {keys : List K}

theorem perm (occupied : controller.IsOccupiedBy keys) {others : List K}
    (same : keys.Perm others) : controller.IsOccupiedBy others where
  roomSound := occupied.roomSound
  keysDistinct := same.nodup_iff.mp occupied.keysDistinct
  inFlightDistinct := occupied.inFlightDistinct
  mem_inFlight := fun key => (occupied.mem_inFlight key).trans same.mem_iff
  waitersBusy := fun request waits => same.mem_iff.mp (occupied.waitersBusy request waits)

/-- The active queue, the timer and the signals do not matter. -/
theorem congr (occupied : controller.IsOccupiedBy keys) {other : Controller K P}
    (waiting : other.buffer.waiting = controller.buffer.waiting)
    (inFlight : other.inFlight = controller.inFlight) : other.IsOccupiedBy keys := by
  obtain ⟨sound, distinct, once, members, busy⟩ := occupied
  rw [← waiting] at sound busy
  rw [← inFlight] at once members
  exact ⟨sound, distinct, once, members, busy⟩

variable [DecidableEq K]

theorem occupy (occupied : controller.IsOccupiedBy keys) {key : K}
    (free : controller.isInFlight key = false) :
    (controller.occupy key).IsOccupiedBy (key :: keys) := by
  have idle : key ∉ controller.inFlight := by simpa [isInFlight] using free
  have absent : key ∉ keys := fun member => idle ((occupied.mem_inFlight key).mpr member)
  refine ⟨occupied.roomSound, List.nodup_cons.mpr ⟨absent, occupied.keysDistinct⟩,
    List.nodup_cons.mpr ⟨idle, occupied.inFlightDistinct⟩, ?_, ?_⟩
  · intro other
    simp only [Controller.occupy, List.mem_cons, occupied.mem_inFlight other]
  · intro request waits
    exact List.mem_cons_of_mem key (occupied.waitersBusy request waits)

theorem park (occupied : controller.IsOccupiedBy keys) {request : Request K P}
    (busy : controller.isInFlight request.key = true) :
    (controller.withWaiting (controller.buffer.waiting.enqueue request)).IsOccupiedBy keys := by
  refine ⟨WaitingRoom.isSound_enqueue occupied.roomSound request, occupied.keysDistinct,
    occupied.inFlightDistinct, occupied.mem_inFlight, ?_⟩
  intro other waits
  have parked := WaitingRoom.requests_enqueue_perm controller.buffer.waiting request
  rcases List.mem_cons.mp (parked.mem_iff.mp waits) with rfl | before
  · exact (occupied.mem_inFlight _).mp (by simpa [isInFlight] using busy)
  · exact occupied.waitersBusy other before

theorem release (occupied : controller.IsOccupiedBy keys) {key : K}
    (idle : ∀ request ∈ controller.buffer.waiting.requests, request.key ≠ key) :
    (controller.release key).IsOccupiedBy (keys.erase key) := by
  refine ⟨occupied.roomSound, occupied.keysDistinct.erase key,
    occupied.inFlightDistinct.erase key, ?_, ?_⟩
  · intro other
    simp only [Controller.release, occupied.inFlightDistinct.mem_erase_iff,
      occupied.keysDistinct.mem_erase_iff, occupied.mem_inFlight other]
  · intro request waits
    exact occupied.keysDistinct.mem_erase_iff.mpr
      ⟨idle request waits, occupied.waitersBusy request waits⟩

end IsOccupiedBy

/-- The keys in flight are those of the active queue and of the outstanding requests. -/
def IsExclusive (controller : Controller K P) (outstanding : List (Request K P)) : Prop :=
  controller.IsOccupiedBy ((controller.buffer.active.items ++ outstanding).map Request.key)

namespace IsExclusive

variable {controller : Controller K P} {outstanding : List (Request K P)}

/-- The timer and the signals do not matter. -/
theorem congr (exclusive : controller.IsExclusive outstanding) {other : Controller K P}
    (active : other.buffer.active = controller.buffer.active)
    (waiting : other.buffer.waiting = controller.buffer.waiting)
    (inFlight : other.inFlight = controller.inFlight) : other.IsExclusive outstanding := by
  rw [IsExclusive, active]
  exact IsOccupiedBy.congr exclusive waiting inFlight

/-- Requests that leave the queue in a batch become outstanding. -/
theorem of_handedOut {keys : List K} (occupied : controller.IsOccupiedBy keys)
    (outside : keys.Perm
      ((controller.buffer.active.items ++ outstanding).map Request.key))
    {outcome : Option (Batch (Request K P)) × Controller K P}
    (requests : outcome.1.toList.flatMap Batch.requests ++ outcome.2.buffer.active.items =
      controller.buffer.active.items)
    (waiting : outcome.2.buffer.waiting = controller.buffer.waiting)
    (inFlight : outcome.2.inFlight = controller.inFlight) :
    outcome.2.IsExclusive (outstanding ++ outcome.1.toList.flatMap Batch.requests) := by
  apply (occupied.congr waiting inFlight).perm
  apply outside.trans
  apply List.Perm.map
  rw [← requests, List.append_assoc, ← List.append_assoc outcome.2.buffer.active.items]
  exact List.perm_append_comm

theorem handOut (exclusive : controller.IsExclusive outstanding) :
    controller.handOut.2.IsExclusive
      (outstanding ++ controller.handOut.1.toList.flatMap Batch.requests) :=
  of_handedOut exclusive (List.Perm.refl _) (handOut_requests controller)
    (handOut_waiting controller) (handOut_inFlight controller)

/-- A request whose key is in flight for it joins the active queue. -/
theorem of_accept {keys : List K} (occupied : controller.IsOccupiedBy keys)
    (now : Instant) {request : Request K P}
    (outside : keys.Perm (request.key ::
      (controller.buffer.active.items ++ outstanding).map Request.key)) :
    (controller.accept now request).handOutIfFull.2.IsExclusive (outstanding ++
      (controller.accept now request).handOutIfFull.1.toList.flatMap Batch.requests) := by
  have joined : (controller.accept now request).IsOccupiedBy keys := occupied.congr rfl rfl
  refine of_handedOut joined ?_ (handOutIfFull_requests _) (handOutIfFull_waiting _)
    (handOutIfFull_inFlight _)
  apply outside.trans
  have moved : (request :: (controller.buffer.active.items ++ outstanding)).Perm
      (controller.buffer.active.items ++ [request] ++ outstanding) := by
    rw [List.append_assoc]
    exact List.perm_middle.symm
  exact moved.map Request.key

theorem onTimeout (exclusive : controller.IsExclusive outstanding) (generation : Nat) :
    (controller.onTimeout generation).value.2.IsExclusive
      (outstanding ++ (controller.onTimeout generation).value.1.toList.flatMap
        Batch.requests) := by
  cases current : controller.buffer.timer.isCurrent generation with
  | true =>
      rw [onTimeout_current current]
      exact exclusive.handOut
  | false =>
      rw [onTimeout_stale current]
      simpa using exclusive

variable [DecidableEq K]

theorem submit (exclusive : controller.IsExclusive outstanding) (now : Instant)
    (request : Request K P) :
    (controller.submit now request).value.2.IsExclusive (outstanding ++
      (controller.submit now request).value.1.toList.flatMap Batch.requests) := by
  cases busy : controller.isInFlight request.key with
  | true =>
      rw [submit_busy busy now]
      simpa [IsExclusive, withWaiting] using IsOccupiedBy.park exclusive busy
  | false =>
      rw [submit_free busy now]
      exact of_accept (IsOccupiedBy.occupy exclusive busy) now (List.Perm.refl _)

/-- Completing an outstanding key hands the key on to its next waiting request, or frees it. -/
theorem complete (exclusive : controller.IsExclusive outstanding) (now : Instant) {key : K}
    (handedOut : ∃ request ∈ outstanding, request.key = key) :
    (controller.complete now key).value.2.IsExclusive
      (outstanding.eraseP (fun request => request.key = key) ++
        (controller.complete now key).value.1.toList.flatMap Batch.requests) := by
  obtain ⟨request, member, same⟩ := handedOut
  obtain ⟨completed, before, after, _, matched, split, erased⟩ :=
    List.exists_of_eraseP (p := fun request => request.key = key) member (by simpa using same)
  have completedKey : completed.key = key := by simpa using matched
  have outside : ((controller.buffer.active.items ++ outstanding).map Request.key).Perm
      (key :: (controller.buffer.active.items ++
        outstanding.eraseP (fun request => request.key = key)).map Request.key) := by
    rw [erased, split, ← completedKey, ← List.map_cons]
    apply List.Perm.map
    rw [← List.append_assoc, ← List.append_assoc]
    exact List.perm_middle
  rcases WaitingRoom.unblockOne_cases exclusive.roomSound key with
    ⟨idle, noWaiter⟩ | ⟨next, rest, taken, nextKey, leaves, sound⟩
  · rw [complete_idle idle now]
    have freed := (IsOccupiedBy.release exclusive noWaiter).perm (outside.erase key)
    simpa [IsExclusive, withWaiting, Controller.release] using freed
  · rw [complete_waiting taken now]
    have fewer : (controller.withWaiting rest).IsOccupiedBy
        ((controller.buffer.active.items ++ outstanding).map Request.key) :=
      ⟨sound, exclusive.keysDistinct, exclusive.inFlightDistinct, exclusive.mem_inFlight,
        fun request waits => exclusive.waitersBusy request
          (leaves.mem_iff.mpr (List.mem_cons_of_mem next waits))⟩
    exact of_accept fewer now (nextKey ▸ outside)

end IsExclusive

end Controller

/-! ## Sessions of a client -/

/-- A controller with the requests that its client was handed and has not completed. -/
structure Session (K P : Type) where
  controller : Controller K P
  outstanding : List (Request K P) := []
deriving DecidableEq

namespace Session

variable {K P : Type}

/-- The client completes only keys with an outstanding request. -/
def Allows (session : Session K P) : Operation K P → Prop
  | .complete _ key => ∃ request ∈ session.outstanding, request.key = key
  | _ => True

variable [DecidableEq K]

/-- The outstanding requests that an operation leaves, before its own batches count. -/
def remaining (session : Session K P) : Operation K P → List (Request K P)
  | .complete _ key => session.outstanding.eraseP fun request => request.key = key
  | _ => session.outstanding

/-- Performs an operation; the requests of the returned batches become outstanding. -/
def perform (session : Session K P) (operation : Operation K P) : Session K P :=
  let outcome := (session.controller.perform operation).value
  { controller := outcome.2
    outstanding := session.remaining operation ++ outcome.1.flatMap Batch.requests }

/-- Performs some operations in order, whether the client is allowed to or not. -/
def run (session : Session K P) (operations : List (Operation K P)) : Session K P :=
  operations.foldl perform session

theorem run_controller (session : Session K P) (operations : List (Operation K P)) :
    (session.run operations).controller = (session.controller.run operations).value.2 := by
  induction operations generalizing session with
  | nil => rfl
  | cons operation later ih => exact ih (session.perform operation)

/-- The sessions that a client reaches with a new controller. -/
inductive Reachable : Session K P → Prop
  | start {controller : Controller K P} (new : controller.IsNew) : Reachable ⟨controller, []⟩
  | step {session : Session K P} (reached : Reachable session) (operation : Operation K P)
      (allowed : session.Allows operation) : Reachable (session.perform operation)

theorem perform_isExclusive {session : Session K P}
    (exclusive : session.controller.IsExclusive session.outstanding)
    (operation : Operation K P) (allowed : session.Allows operation) :
    (session.perform operation).controller.IsExclusive
      (session.perform operation).outstanding := by
  cases operation with
  | submit now request => exact exclusive.submit now request
  | complete now key => exact exclusive.complete now allowed
  | flush =>
      rw [perform, Controller.perform_flush]
      exact exclusive.handOut
  | onTimeout generation => exact exclusive.onTimeout generation
  | processTimeouts =>
      let excludes (batches : List (Batch (Request K P))) (controller : Controller K P) :=
        controller.IsExclusive (session.outstanding ++ batches.flatMap Batch.requests)
      have step {batches : List (Batch (Request K P))} {controller : Controller K P}
          (held : excludes batches controller) (generation : Nat) :
          excludes (batches ++ (controller.onTimeout generation).value.1.toList)
            (controller.onTimeout generation).value.2 := by
        simpa [excludes] using Controller.IsExclusive.onTimeout held generation
      have drained : excludes [] { session.controller with signals := [] } := by
        simp only [excludes, List.flatMap_nil, List.append_nil]
        exact exclusive.congr rfl rfl rfl
      exact Controller.actOn_preserves step drained session.controller.signals
  | poll now =>
      have same : (session.perform (.poll now)).outstanding = session.outstanding :=
        List.append_nil _
      rw [same]
      exact exclusive.congr rfl rfl rfl
  | signal generation =>
      have same : (session.perform (.signal generation)).outstanding = session.outstanding :=
        List.append_nil _
      rw [same]
      exact exclusive.congr rfl rfl rfl

theorem Reachable.isExclusive {session : Session K P} (reached : session.Reachable) :
    session.controller.IsExclusive session.outstanding := by
  induction reached with
  | start new =>
      obtain ⟨settings, registration, _, rfl⟩ := new.eq_around
      exact ⟨WaitingRoom.isSound_empty, List.nodup_nil, List.nodup_nil, fun key => Iff.rfl,
        fun request waits => nomatch waits⟩
  | step _ operation allowed ih => exact perform_isExclusive ih operation allowed

/-- At most one request of a key is outside the waiting room, the keys in flight are exactly
the keys of the requests outside, and a request waits only behind a key in flight. -/
theorem reachable_keys_exclusive {session : Session K P} (reached : session.Reachable) :
    let outside := session.controller.buffer.active.items ++ session.outstanding
    (outside.map Request.key).Nodup ∧
      (∀ key, session.controller.isInFlight key = true ↔ key ∈ outside.map Request.key) ∧
      session.controller.inFlightCount = outside.length ∧
      ∀ key, session.controller.buffer.waiting.contains key = true →
        session.controller.isInFlight key = true := by
  intro outside
  have exclusive := reached.isExclusive
  have busy : ∀ key, session.controller.isInFlight key = true ↔
      key ∈ outside.map Request.key := by
    intro key
    rw [Controller.isInFlight, decide_eq_true_iff]
    exact exclusive.mem_inFlight key
  refine ⟨exclusive.keysDistinct, busy, ?_, ?_⟩
  · have same : session.controller.inFlight.Perm (outside.map Request.key) :=
      (List.perm_ext_iff_of_nodup exclusive.inFlightDistinct exclusive.keysDistinct).mpr
        exclusive.mem_inFlight
    simpa [Controller.inFlightCount] using same.length_eq
  · intro key held
    obtain ⟨request, waits, rfl⟩ :=
      WaitingRoom.exists_request_of_contains exclusive.roomSound held
    exact (busy request.key).mpr (exclusive.waitersBusy request waits)

/-- A session in which a size flush of two keys is followed by the completion of one of them,
which admits its waiting request while the other is still outstanding. -/
theorem reachable_keys_exclusive_promotion :
    let settings : ControllerSettings := { batchSize := 2 }
    let start : Session Nat String :=
      ⟨.around settings (.empty settings.buffer none), []⟩
    let first : Request Nat String := ⟨7, .usual, "first"⟩
    let second : Request Nat String := ⟨7, .least, "second"⟩
    let other : Request Nat String := ⟨8, .usual, "other"⟩
    let session := (((start.perform (.submit 0 first)).perform (.submit 1 second)).perform
      (.submit 2 other)).perform (.complete 3 7)
    let outside := session.controller.buffer.active.items ++ session.outstanding
    session.Reachable ∧ outside = [second, other] ∧
      (outside.map Request.key).Nodup ∧
      (∀ key, session.controller.isInFlight key = true ↔ key ∈ outside.map Request.key) ∧
      session.controller.inFlightCount = outside.length ∧
      ∀ key, session.controller.buffer.waiting.contains key = true →
        session.controller.isInFlight key = true := by
  intro settings start first second other session outside
  have new : start.controller.IsNew := .unwatched settings rfl
  have flushed := (((Reachable.start new).step (.submit 0 first) trivial).step
    (.submit 1 second) trivial).step (.submit 2 other) trivial
  have reached : session.Reachable := flushed.step (.complete 3 7) ⟨first, by decide, rfl⟩
  exact ⟨reached, by decide, reachable_keys_exclusive reached⟩

end Session

end KeyedBatching
