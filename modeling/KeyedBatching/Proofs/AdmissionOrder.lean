import KeyedBatching.Proofs.ControllerRuns
import KeyedBatching.Proofs.WaitingOrder
import Mathlib.Logic.Function.Basic

/-!
# The order of admission

Submissions and completions alone decide which requests a controller admits, and
in which order.  The reference has one gate for each key and no queue, no batch
and no timer: a free gate lets a request in at once, a busy one makes it wait,
and a completion lets in the best of the requests that wait.  A run of the
controller admits what its gates let in, however the admitted requests are cut
into batches.
-/

namespace KeyedBatching

variable {K P : Type}

/-! ## Gates -/

/-- The calls that decide on admission. -/
inductive Call (K P : Type) where
  | submit (request : Request K P)
  | complete (key : K)
deriving DecidableEq

namespace Call

def key : Call K P → K
  | submit request => request.key
  | complete key => key

end Call

namespace Operation

def call? : Operation K P → Option (Call K P)
  | .submit _ request => some (.submit request)
  | .complete _ key => some (.complete key)
  | _ => none

def calls (operations : List (Operation K P)) : List (Call K P) :=
  operations.filterMap call?

end Operation

/-- Whether a key is taken, and its waiting requests in the order of their submission. -/
structure Gate (K P : Type) where
  busy : Bool := false
  waiting : List (Request K P) := []
deriving DecidableEq

namespace Gate

/-- A free gate lets a request in, a busy one makes it wait.  On a completion the best of the
waiting requests comes in, and without one the gate is free again. -/
def answer (gate : Gate K P) : Call K P → Option (Request K P) × Gate K P
  | .submit request =>
      if gate.busy then (none, { gate with waiting := gate.waiting ++ [request] })
      else (some request, { gate with busy := true })
  | .complete _ =>
      match takeBest gate.waiting with
      | none => (none, { gate with busy := false })
      | some (best, others) => (some best, { gate with waiting := others })

/-- What a gate lets in on some calls, in order. -/
def admitted : Gate K P → List (Call K P) → List (Request K P)
  | _, [] => []
  | gate, call :: later => (gate.answer call).1.toList ++ (gate.answer call).2.admitted later

end Gate

abbrev Gates (K P : Type) := K → Gate K P

namespace Gates

variable [DecidableEq K]

omit [DecidableEq K] in
def admits (gates : Gates K P) (call : Call K P) : Option (Request K P) :=
  ((gates call.key).answer call).1

/-- A call concerns the gate of its key alone. -/
def after (gates : Gates K P) (call : Call K P) : Gates K P :=
  Function.update gates call.key ((gates call.key).answer call).2

/-- What all gates let in on some calls, in order. -/
def admitted : Gates K P → List (Call K P) → List (Request K P)
  | _, [] => []
  | gates, call :: later => (gates.admits call).toList ++ admitted (gates.after call) later

theorem after_same (gates : Gates K P) (call : Call K P) :
    gates.after call call.key = ((gates call.key).answer call).2 := by
  simp [after]

theorem after_other (gates : Gates K P) {call : Call K P} {key : K} (other : key ≠ call.key) :
    gates.after call key = gates key := by
  simp [after, other]

end Gates

/-! ## What handing out leaves alone -/

namespace Controller

/-- The requests that have joined the active queue: those that left in batches, and then those
that are still queued. -/
def admitted (outcome : List (Batch (Request K P)) × Controller K P) : List (Request K P) :=
  outcome.1.flatMap Batch.requests ++ outcome.2.buffer.active.items

/-- Requests may have left the queue in batches, but nobody was admitted, parked or freed. -/
structure HandsOut (controller : Controller K P)
    (outcome : List (Batch (Request K P)) × Controller K P) : Prop where
  requests : admitted outcome = controller.buffer.active.items
  waiting : outcome.2.buffer.waiting = controller.buffer.waiting
  inFlight : outcome.2.inFlight = controller.inFlight

namespace HandsOut

variable {controller next last : Controller K P} {batches more : List (Batch (Request K P))}

theorem nothing (active : next.buffer.active = controller.buffer.active)
    (waiting : next.buffer.waiting = controller.buffer.waiting)
    (inFlight : next.inFlight = controller.inFlight) : controller.HandsOut ([], next) :=
  ⟨by simp [admitted, active], waiting, inFlight⟩

theorem trans (first : controller.HandsOut (batches, next)) (second : next.HandsOut (more, last)) :
    controller.HandsOut (batches ++ more, last) := by
  refine ⟨?_, second.waiting.trans first.waiting, second.inFlight.trans first.inFlight⟩
  have left := first.requests
  have later := second.requests
  simp only [admitted, List.flatMap_append, List.append_assoc] at left later ⊢
  rw [later, left]

theorem of_handOut (controller : Controller K P) :
    controller.HandsOut (controller.handOut.1.toList, controller.handOut.2) :=
  ⟨handOut_requests controller, handOut_waiting controller, handOut_inFlight controller⟩

theorem of_handOutIfFull (controller : Controller K P) :
    controller.HandsOut (controller.handOutIfFull.1.toList, controller.handOutIfFull.2) :=
  ⟨handOutIfFull_requests controller, handOutIfFull_waiting controller,
    handOutIfFull_inFlight controller⟩

theorem of_onTimeout (controller : Controller K P) (generation : Nat) :
    controller.HandsOut ((controller.onTimeout generation).value.1.toList,
      (controller.onTimeout generation).value.2) := by
  cases current : controller.buffer.timer.isCurrent generation with
  | true =>
      rw [onTimeout_current current]
      exact of_handOut controller
  | false =>
      rw [onTimeout_stale current]
      exact nothing rfl rfl rfl

theorem of_processTimeouts (controller : Controller K P) :
    controller.HandsOut controller.processTimeouts.value := by
  let hands (batches : List (Batch (Request K P))) (next : Controller K P) :=
    controller.HandsOut (batches, next)
  have step {batches : List (Batch (Request K P))} {next : Controller K P}
      (held : hands batches next) (generation : Nat) :
      hands (batches ++ (next.onTimeout generation).value.1.toList)
        (next.onTimeout generation).value.2 :=
    held.trans (of_onTimeout next generation)
  have drained : hands [] { controller with signals := [] } := nothing rfl rfl rfl
  exact actOn_preserves step drained controller.signals

/-- Every operation but a submission or a completion only hands out. -/
theorem of_perform [DecidableEq K] (controller : Controller K P) {operation : Operation K P}
    (silent : operation.call? = none) :
    controller.HandsOut (controller.perform operation).value := by
  cases operation with
  | submit now request => simp [Operation.call?] at silent
  | complete now key => simp [Operation.call?] at silent
  | flush =>
      rw [perform_flush]
      exact of_handOut controller
  | onTimeout generation => exact of_onTimeout controller generation
  | processTimeouts => exact of_processTimeouts controller
  | poll now => exact nothing rfl rfl rfl
  | signal generation => exact nothing rfl rfl rfl

end HandsOut

/-! ## Gates beside a controller -/

variable [DecidableEq K]

/-- A controller and the gates agree on who is busy, and on who waits and in which order. -/
structure Mirrors (controller : Controller K P) (gates : Gates K P) : Prop where
  once : controller.inFlight.Nodup
  busy : ∀ key, controller.isInFlight key = (gates key).busy
  waiting : ∀ key, controller.buffer.waiting.waitersOf key =
    (WaitingList.arranged (gates key).waiting).items

namespace Mirrors

variable {controller : Controller K P} {gates : Gates K P}

theorem handsOut (mirrors : controller.Mirrors gates)
    {outcome : List (Batch (Request K P)) × Controller K P}
    (hands : controller.HandsOut outcome) : outcome.2.Mirrors gates := by
  obtain ⟨once, busy, waiting⟩ := mirrors
  constructor
  · rw [hands.inFlight]
    exact once
  · intro key
    rw [isInFlight, hands.inFlight]
    exact busy key
  · intro key
    rw [hands.waiting]
    exact waiting key

/-- A call that is answered as its gate answers it, and touches no other key. -/
theorem after (mirrors : controller.Mirrors gates) {next : Controller K P} {call : Call K P}
    (once : next.inFlight.Nodup)
    (busy : next.isInFlight call.key = ((gates call.key).answer call).2.busy)
    (waiting : next.buffer.waiting.waitersOf call.key =
      (WaitingList.arranged ((gates call.key).answer call).2.waiting).items)
    (others : ∀ key, key ≠ call.key → next.isInFlight key = controller.isInFlight key ∧
      next.buffer.waiting.waitersOf key = controller.buffer.waiting.waitersOf key) :
    next.Mirrors (gates.after call) := by
  refine ⟨once, ?_, ?_⟩
  · intro key
    by_cases same : key = call.key
    · subst same
      rw [Gates.after_same, busy]
    · rw [Gates.after_other gates same, (others key same).1, mirrors.busy key]
  · intro key
    by_cases same : key = call.key
    · subst same
      rw [Gates.after_same, waiting]
    · rw [Gates.after_other gates same, (others key same).2, mirrors.waiting key]

/-- A submission gets the answer of its gate. -/
theorem submit (mirrors : controller.Mirrors gates) (now : Instant) (request : Request K P) :
    let outcome := (controller.submit now request).value
    outcome.2.Mirrors (gates.after (.submit request)) ∧
      admitted (outcome.1.toList, outcome.2) =
        controller.buffer.active.items ++ (gates.admits (.submit request)).toList := by
  intro outcome
  cases busy : controller.isInFlight request.key with
  | true =>
      have taken : (gates request.key).busy = true := (mirrors.busy request.key).symm.trans busy
      have result : outcome =
          (none, controller.withWaiting (controller.buffer.waiting.enqueue request)) :=
        submit_busy busy now
      have parks : (gates request.key).answer (.submit request) =
          (none, { gates request.key with
            waiting := (gates request.key).waiting ++ [request] }) := by
        simp [Gate.answer, taken]
      rw [result]
      constructor
      · apply mirrors.after
        · exact mirrors.once
        · change controller.isInFlight request.key = _
          simpa [Call.key, parks] using mirrors.busy request.key
        · simp [withWaiting, Call.key, parks, WaitingRoom.waitersOf_enqueue, mirrors.waiting,
            WaitingList.arranged_append_singleton]
        · intro key other
          refine ⟨rfl, ?_⟩
          rw [withWaiting, WaitingRoom.waitersOf_enqueue]
          exact if_neg other
      · simp [admitted, withWaiting, Gates.admits, Call.key, parks]
  | false =>
      have free : (gates request.key).busy = false := (mirrors.busy request.key).symm.trans busy
      have result : outcome =
          ((controller.occupy request.key).accept now request).handOutIfFull :=
        submit_free busy now
      have comesIn : (gates request.key).answer (.submit request) =
          (some request, { gates request.key with busy := true }) := by
        simp [Gate.answer, free]
      have leaves := HandsOut.of_handOutIfFull
        ((controller.occupy request.key).accept now request)
      rw [result]
      constructor
      · apply handsOut _ leaves
        apply mirrors.after
        · have idle : request.key ∉ controller.inFlight := by simpa [isInFlight] using busy
          exact List.nodup_cons.mpr ⟨idle, mirrors.once⟩
        · simp [isInFlight, occupy, Call.key, comesIn]
        · simpa [occupy, Call.key, comesIn] using mirrors.waiting request.key
        · intro key other
          have differs : key ≠ request.key := other
          simp [isInFlight, occupy, differs]
      · simpa [occupy, Gates.admits, Call.key, comesIn] using leaves.requests

/-- A completion gets the answer of its gate. -/
theorem complete (mirrors : controller.Mirrors gates) (now : Instant) (key : K) :
    let outcome := (controller.complete now key).value
    outcome.2.Mirrors (gates.after (.complete key)) ∧
      admitted (outcome.1.toList, outcome.2) =
        controller.buffer.active.items ++ (gates.admits (.complete key)).toList := by
  intro outcome
  have first := WaitingRoom.unblockOne_fst controller.buffer.waiting key
  have left := WaitingRoom.waitersOf_unblockOne controller.buffer.waiting key
  rw [mirrors.waiting] at first
  rcases unblocked : controller.buffer.waiting.unblockOne key with ⟨next?, rest⟩
  simp only [unblocked] at first left
  cases best : takeBest (gates key).waiting with
  | none =>
      have nobody : (gates key).waiting = [] := takeBest_eq_none_iff.mp best
      obtain rfl : next? = none := by simpa [nobody, WaitingList.arranged] using first
      have result : outcome = (none, (controller.withWaiting rest).release key) :=
        complete_idle unblocked now
      have frees : (gates key).answer (.complete key) =
          (none, { gates key with busy := false }) := by
        simp [Gate.answer, best]
      rw [result]
      constructor
      · apply mirrors.after
        · exact mirrors.once.erase key
        · simp [isInFlight, release, withWaiting, Call.key, frees, mirrors.once.mem_erase_iff]
        · simpa [release, withWaiting, Call.key, frees, mirrors.waiting, nobody,
            WaitingList.arranged] using left key
        · intro other differs
          have ne : other ≠ key := differs
          constructor
          · simp [isInFlight, release, withWaiting, mirrors.once.mem_erase_iff, ne]
          · exact (left other).trans (if_neg ne)
      · simp [admitted, release, withWaiting, Gates.admits, Call.key, frees]
  | some taken =>
      obtain ⟨chosen, others⟩ := taken
      have arranged := WaitingList.arranged_of_takeBest best
      obtain rfl : next? = some chosen := by simpa [arranged] using first
      have result : outcome = ((controller.withWaiting rest).accept now chosen).handOutIfFull :=
        complete_waiting unblocked now
      have comesIn : (gates key).answer (.complete key) =
          (some chosen, { gates key with waiting := others }) := by
        simp [Gate.answer, best]
      have leaves := HandsOut.of_handOutIfFull ((controller.withWaiting rest).accept now chosen)
      rw [result]
      constructor
      · apply handsOut _ leaves
        apply mirrors.after
        · exact mirrors.once
        · change controller.isInFlight key = _
          simpa [Call.key, comesIn] using mirrors.busy key
        · simpa [withWaiting, Call.key, comesIn, mirrors.waiting, arranged] using left key
        · intro other differs
          have ne : other ≠ key := differs
          exact ⟨rfl, (left other).trans (if_neg ne)⟩
      · simpa [withWaiting, Gates.admits, Call.key, comesIn] using leaves.requests

/-- An operation that is a call admits what the gates let in. -/
theorem perform (mirrors : controller.Mirrors gates) {operation : Operation K P} {call : Call K P}
    (called : operation.call? = some call) :
    let outcome := (controller.perform operation).value
    outcome.2.Mirrors (gates.after call) ∧
      admitted outcome = controller.buffer.active.items ++ (gates.admits call).toList := by
  cases operation with
  | submit now request =>
      obtain rfl := Option.some.inj called
      exact mirrors.submit now request
  | complete now key =>
      obtain rfl := Option.some.inj called
      exact mirrors.complete now key
  | flush => simp [Operation.call?] at called
  | onTimeout generation => simp [Operation.call?] at called
  | processTimeouts => simp [Operation.call?] at called
  | poll now => simp [Operation.call?] at called
  | signal generation => simp [Operation.call?] at called

end Mirrors

omit [DecidableEq K] in
theorem admitted_append (batches more : List (Batch (Request K P))) (controller : Controller K P) :
    admitted (batches ++ more, controller) =
      batches.flatMap Batch.requests ++ admitted (more, controller) := by
  simp [admitted]

/-- What a run admits joins the queue behind what it found there. -/
theorem Mirrors.admitted_run {controller : Controller K P} {gates : Gates K P}
    (mirrors : controller.Mirrors gates) (operations : List (Operation K P)) :
    admitted (controller.run operations).value =
      controller.buffer.active.items ++ gates.admitted (Operation.calls operations) := by
  induction operations generalizing controller gates with
  | nil => simp [run, admitted, Operation.calls, Gates.admitted]
  | cons operation later ih =>
      let first := (controller.perform operation).value
      have whole : admitted (controller.run (operation :: later)).value =
          first.1.flatMap Batch.requests ++ admitted (first.2.run later).value :=
        admitted_append _ _ _
      rw [whole]
      cases called : operation.call? with
      | none =>
          have hands := HandsOut.of_perform controller called
          have others := ih (mirrors.handsOut hands)
          have kept : admitted first = controller.buffer.active.items := hands.requests
          have calls : Operation.calls (operation :: later) = Operation.calls later := by
            simp [Operation.calls, called]
          rw [others, calls, ← kept, admitted, List.append_assoc]
      | some call =>
          obtain ⟨next, joined⟩ := mirrors.perform called
          have others := ih next
          have calls : Operation.calls (operation :: later) = call :: Operation.calls later := by
            simp [Operation.calls, called]
          calc
            first.1.flatMap Batch.requests ++ admitted (first.2.run later).value
                = admitted first ++ (gates.after call).admitted (Operation.calls later) := by
                  rw [others, admitted, List.append_assoc]
            _ = controller.buffer.active.items ++
                  gates.admitted (Operation.calls (operation :: later)) := by
                  rw [joined, calls, Gates.admitted, List.append_assoc]

theorem IsNew.mirrors {controller : Controller K P} (new : controller.IsNew) :
    controller.Mirrors fun _ => {} := by
  obtain ⟨settings, registration, _, rfl⟩ := new.eq_around
  exact ⟨List.nodup_nil, fun key => rfl, fun key => rfl⟩

theorem IsNew.admitted_run {controller : Controller K P} (new : controller.IsNew)
    (operations : List (Operation K P)) :
    admitted (controller.run operations).value =
      Gates.admitted (fun _ => {}) (Operation.calls operations) := by
  obtain ⟨settings, registration, _, rfl⟩ := new.eq_around
  exact new.mirrors.admitted_run operations

/-- A run admits what the gates let in on its submissions and completions.  So two runs with the
same calls admit the same requests in the same order, whatever their batch sizes and timeouts
are and whenever batches leave. -/
theorem run_admits_by_calls {controller : Controller K P} (new : controller.IsNew)
    (operations : List (Operation K P)) :
    admitted (controller.run operations).value =
        Gates.admitted (fun _ => {}) (Operation.calls operations) ∧
      ∀ (other : Controller K P) (others : List (Operation K P)), other.IsNew →
        Operation.calls others = Operation.calls operations →
        admitted (other.run others).value = admitted (controller.run operations).value := by
  have own := new.admitted_run operations
  refine ⟨own, ?_⟩
  intro other others otherNew same
  rw [otherNew.admitted_run others, same, own]

/-- Batches of one request beside batches of two, which are flushed in between and on a signal,
with a key that is completed while its request is still queued. -/
theorem run_admits_by_calls_regrouped :
    let first : Request Nat String := ⟨7, .usual, "first"⟩
    let second : Request Nat String := ⟨7, .least, "second"⟩
    let third : Request Nat String := ⟨7, .usual, "third"⟩
    let other : Request Nat String := ⟨8, .usual, "other"⟩
    let single : ControllerSettings := { buffer := .disabled, batchSize := 1 }
    let double : ControllerSettings := { batchSize := 2 }
    let narrow : Controller Nat String := around single (.empty single.buffer none)
    let wide : Controller Nat String := around double (.empty double.buffer none)
    let operations : List (Operation Nat String) :=
      [.submit 0 first, .submit 1 second, .submit 2 third, .complete 3 7, .submit 4 other]
    let regrouped : List (Operation Nat String) :=
      [.submit 5 first, .submit 5 second, .signal 0, .submit 6 third, .complete 7 7,
        .processTimeouts, .flush, .submit 9 other, .onTimeout 1]
    narrow.IsNew ∧ wide.IsNew ∧ Operation.calls regrouped = Operation.calls operations ∧
      (narrow.run operations).value.1.map Batch.requests = [[first], [third], [other]] ∧
      (wide.run regrouped).value.1.map Batch.requests = [[first, third], [other]] ∧
      admitted (narrow.run operations).value =
        Gates.admitted (fun _ => {}) (Operation.calls operations) ∧
      admitted (wide.run regrouped).value = admitted (narrow.run operations).value := by
  intro first second third other single double narrow wide operations regrouped
  have new : narrow.IsNew := .unwatched single rfl
  have otherNew : wide.IsNew := .unwatched double rfl
  obtain ⟨reference, equal⟩ := run_admits_by_calls new operations
  exact ⟨new, otherNew, rfl, by decide, by decide, reference,
    equal wide regrouped otherNew rfl⟩

end Controller

end KeyedBatching
