import KeyedBatching.Proofs.ControllerRuns
import KeyedBatching.Proofs.WaitingRoomContents
import Mathlib.Algebra.Order.Group.Multiset
import Mathlib.Tactic.Abel

/-!
# No request is lost

Whatever the owner of a controller does, and however it misuses completions,
every submitted request is in exactly one place: in the active queue, in the
waiting room, or in one returned batch.
-/

namespace KeyedBatching

namespace Controller

variable {K P : Type}

/-- The submitted requests are those in the queues and those in the returned batches. -/
structure Accounts (submitted : List (Request K P)) (batches : List (Batch (Request K P)))
    (controller : Controller K P) : Prop where
  roomSound : controller.buffer.waiting.IsSound
  balanced : (submitted : Multiset (Request K P)) =
    controller.buffer.active.items + controller.buffer.waiting.requests +
      batches.flatMap Batch.requests

namespace Accounts

variable {submitted : List (Request K P)} {batches : List (Batch (Request K P))}
  {controller : Controller K P}

/-- Handing out moves requests from the queue into the batches. -/
theorem of_handedOut (accounts : Accounts submitted batches controller)
    {outcome : Option (Batch (Request K P)) × Controller K P}
    (requests : outcome.1.toList.flatMap Batch.requests ++ outcome.2.buffer.active.items =
      controller.buffer.active.items)
    (waiting : outcome.2.buffer.waiting = controller.buffer.waiting) :
    Accounts submitted (batches ++ outcome.1.toList) outcome.2 := by
  refine ⟨waiting ▸ accounts.roomSound, ?_⟩
  rw [accounts.balanced, ← requests, waiting, List.flatMap_append, ← Multiset.coe_add,
    ← Multiset.coe_add]
  abel

theorem handOut (accounts : Accounts submitted batches controller) :
    Accounts submitted (batches ++ controller.handOut.1.toList) controller.handOut.2 :=
  accounts.of_handedOut (handOut_requests controller) (handOut_waiting controller)

theorem handOutIfFull (accounts : Accounts submitted batches controller) :
    Accounts submitted (batches ++ controller.handOutIfFull.1.toList)
      controller.handOutIfFull.2 :=
  accounts.of_handedOut (handOutIfFull_requests controller) (handOutIfFull_waiting controller)

/-- A request in hand is accounted for once it has joined the active queue. -/
theorem of_accept {request : Request K P} (sound : controller.buffer.waiting.IsSound)
    (balanced : (submitted : Multiset (Request K P)) =
      {request} + controller.buffer.active.items + controller.buffer.waiting.requests +
        batches.flatMap Batch.requests) (now : Instant) :
    Accounts submitted batches (controller.accept now request) := by
  refine ⟨sound, ?_⟩
  have joined : (controller.accept now request).buffer.active.items =
      controller.buffer.active.items ++ [request] := rfl
  have waiting : (controller.accept now request).buffer.waiting =
      controller.buffer.waiting := rfl
  rw [balanced, joined, waiting, ← Multiset.coe_add, Multiset.coe_singleton]
  abel

theorem onTimeout (accounts : Accounts submitted batches controller) (generation : Nat) :
    Accounts submitted (batches ++ (controller.onTimeout generation).value.1.toList)
      (controller.onTimeout generation).value.2 := by
  cases current : controller.buffer.timer.isCurrent generation with
  | true =>
      rw [onTimeout_current current]
      exact accounts.handOut
  | false =>
      rw [onTimeout_stale current]
      simpa using accounts

variable [DecidableEq K]

theorem submit (accounts : Accounts submitted batches controller) (now : Instant)
    (request : Request K P) :
    Accounts (submitted ++ [request])
      (batches ++ (controller.submit now request).value.1.toList)
      (controller.submit now request).value.2 := by
  cases busy : controller.isInFlight request.key with
  | true =>
      rw [submit_busy busy now]
      refine ⟨WaitingRoom.isSound_enqueue accounts.roomSound request, ?_⟩
      have parked := Multiset.coe_eq_coe.mpr
        (WaitingRoom.requests_enqueue_perm controller.buffer.waiting request)
      simp only [withWaiting, Option.toList_none, List.append_nil]
      rw [parked, ← Multiset.coe_add, Multiset.coe_singleton, accounts.balanced,
        ← Multiset.cons_coe, ← Multiset.singleton_add]
      abel
  | false =>
      rw [submit_free busy now]
      apply handOutIfFull
      have sound : (controller.occupy request.key).buffer.waiting.IsSound := accounts.roomSound
      apply of_accept sound
      rw [← Multiset.coe_add, Multiset.coe_singleton, accounts.balanced]
      simp only [occupy]
      abel

theorem complete (accounts : Accounts submitted batches controller) (now : Instant)
    (key : K) :
    Accounts submitted (batches ++ (controller.complete now key).value.1.toList)
      (controller.complete now key).value.2 := by
  rcases WaitingRoom.unblockOne_cases accounts.roomSound key with
    ⟨idle, _⟩ | ⟨next, rest, taken, _, leaves, sound⟩
  · rw [complete_idle idle now]
    exact ⟨accounts.roomSound, by simpa [withWaiting, release] using accounts.balanced⟩
  · rw [complete_waiting taken now]
    apply handOutIfFull
    have stays : (controller.withWaiting rest).buffer.waiting.IsSound := sound
    apply of_accept stays
    rw [accounts.balanced, Multiset.coe_eq_coe.mpr leaves, ← Multiset.cons_coe,
      ← Multiset.singleton_add]
    simp only [withWaiting]
    abel

/-- No operation loses, duplicates or changes a request. -/
theorem perform {done : List (Operation K P)}
    (accounts : Accounts (Operation.submitted done) batches controller)
    (operation : Operation K P) :
    Accounts (Operation.submitted (done ++ [operation]))
      (batches ++ (controller.perform operation).value.1)
      (controller.perform operation).value.2 := by
  have others (submits : operation.submitted? = none) :
      Operation.submitted (done ++ [operation]) = Operation.submitted done := by
    simp [Operation.submitted, submits]
  cases operation with
  | submit now request =>
      have submits : Operation.submitted (done ++ [.submit now request]) =
          Operation.submitted done ++ [request] := by
        simp [Operation.submitted, Operation.submitted?]
      rw [submits]
      exact accounts.submit now request
  | complete now key =>
      rw [others rfl]
      exact accounts.complete now key
  | flush =>
      rw [others rfl]
      rw [perform_flush]
      exact accounts.handOut
  | onTimeout generation =>
      rw [others rfl]
      exact accounts.onTimeout generation
  | processTimeouts =>
      rw [others rfl]
      have drained : Accounts (Operation.submitted done) batches
          { controller with signals := [] } := ⟨accounts.roomSound, accounts.balanced⟩
      exact actOn_preserves (fun held => held.onTimeout) drained controller.signals
  | poll now =>
      rw [others rfl]
      exact ⟨accounts.roomSound, by simpa [Controller.perform, mapTimer] using accounts.balanced⟩
  | signal generation =>
      rw [others rfl]
      exact ⟨accounts.roomSound, by
        simpa [Controller.perform, Controller.signal] using accounts.balanced⟩

omit [DecidableEq K] in
theorem of_isNew (new : controller.IsNew) : Accounts [] [] controller := by
  obtain ⟨settings, registration, _, rfl⟩ := new.eq_around
  exact ⟨WaitingRoom.isSound_empty, rfl⟩

end Accounts

/-- After every run the submitted requests are those in the active queue, in the waiting room
and in the returned batches, each as often and as it was submitted. -/
theorem run_conserves_requests [DecidableEq K] {controller : Controller K P}
    (new : controller.IsNew) (operations : List (Operation K P)) :
    let outcome := (controller.run operations).value
    let released := outcome.1.flatMap Batch.requests
    (Operation.submitted operations : Multiset (Request K P)) =
        outcome.2.buffer.active.items + outcome.2.buffer.waiting.requests + released ∧
      outcome.2.buffer.waiting.size + outcome.2.buffer.active.size + released.length =
        (Operation.submitted operations).length := by
  intro outcome released
  let balances := fun done => Accounts (K := K) (P := P) (Operation.submitted done)
  have start : balances [] [] controller := Accounts.of_isNew new
  have accounts : Accounts (Operation.submitted operations) outcome.1 outcome.2 :=
    run_preserves (fun held => held.perform) start operations
  refine ⟨accounts.balanced, ?_⟩
  have counted := congrArg Multiset.card accounts.balanced
  simp only [Multiset.card_add, Multiset.coe_card] at counted
  change _ + _ + (outcome.1.flatMap Batch.requests).length = _
  rw [counted, accounts.roomSound.sizeCounts, ActiveQueue.size]
  omega

/-- A completion that comes while the request of its key is still queued lets a second request
of the key into the same batch, and a third one waits. -/
theorem run_conserves_requests_early_completion :
    let settings : ControllerSettings := { buffer := .disabled, batchSize := 2 }
    let controller : Controller Nat String := around settings (.empty settings.buffer none)
    let first : Request Nat String := ⟨7, .usual, "first"⟩
    let second : Request Nat String := ⟨7, .usual, "second"⟩
    let third : Request Nat String := ⟨7, .least, "third"⟩
    let operations : List (Operation Nat String) :=
      [.submit 0 first, .submit 1 third, .submit 2 second, .complete 3 7]
    let outcome := (controller.run operations).value
    controller.IsNew ∧
      outcome.1 = [⟨[first, second], 0⟩] ∧ outcome.2.buffer.waiting.requests = [third] ∧
      (Operation.submitted operations : Multiset (Request Nat String)) =
        outcome.2.buffer.active.items + outcome.2.buffer.waiting.requests +
          outcome.1.flatMap Batch.requests ∧
      outcome.2.buffer.waiting.size + outcome.2.buffer.active.size +
        (outcome.1.flatMap Batch.requests).length = (Operation.submitted operations).length := by
  intro settings controller first second third operations
  have new : controller.IsNew := .unwatched settings rfl
  exact ⟨new, by decide, by decide, run_conserves_requests new operations⟩

end Controller

end KeyedBatching
