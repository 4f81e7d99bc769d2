import KeyedBatching.Proofs.AdmissionOrder

/-!
# Keys do not interfere

A gate answers the calls of its key and sees no others, so what a controller
admits of a key is what a single gate lets in on the calls of this key.  Other
keys, the batches that they fill and the signals that they cause change neither
the requests of the key nor their order, but only when they leave.
-/

namespace KeyedBatching

variable {K P : Type}

/-! ## The requests of a key -/

namespace Operation

/-- The submissions and completions of a key, in order. -/
def callsOf [DecidableEq K] (key : K) (operations : List (Operation K P)) : List (Call K P) :=
  (calls operations).filter fun call => call.key = key

end Operation

def requestsOf [DecidableEq K] (key : K) (requests : List (Request K P)) : List (Request K P) :=
  requests.filter fun request => request.key = key

/-! ## Gates of their own -/

/-- Whoever comes in or waits after a call has waited before, or is just submitted. -/
theorem Gate.mem_answer {gate : Gate K P} {call : Call K P} {request : Request K P}
    (member : request ∈ (gate.answer call).1.toList ++ (gate.answer call).2.waiting) :
    request ∈ gate.waiting ∨ call = .submit request := by
  cases call with
  | submit submitted =>
      cases busy : gate.busy with
      | true => simpa [Gate.answer, busy, eq_comm] using member
      | false => simpa [Gate.answer, busy, eq_comm, or_comm] using member
  | complete key =>
      cases best : takeBest gate.waiting with
      | none => simpa [Gate.answer, best] using member
      | some taken =>
          obtain ⟨chosen, others⟩ := taken
          obtain ⟨before, after, split, rfl, _⟩ := takeBest_split best
          left
          rw [split]
          have among : request = chosen ∨ request ∈ before ∨ request ∈ after := by
            simpa [Gate.answer, best] using member
          simp only [List.mem_append, List.mem_cons]
          tauto

namespace Gates

/-- Requests wait at the gate of their own key. -/
def IsKeyed (gates : Gates K P) : Prop :=
  ∀ key, ∀ request ∈ (gates key).waiting, request.key = key

variable {gates : Gates K P}

theorem IsKeyed.answer (keyed : gates.IsKeyed) {call : Call K P} {request : Request K P}
    (member : request ∈ (gates.admits call).toList ++ ((gates call.key).answer call).2.waiting) :
    request.key = call.key := by
  rcases Gate.mem_answer member with waited | rfl
  · exact keyed call.key request waited
  · rfl

variable [DecidableEq K]

theorem IsKeyed.after (keyed : gates.IsKeyed) (call : Call K P) : (gates.after call).IsKeyed := by
  intro key request waits
  by_cases same : key = call.key
  · subst same
    rw [after_same] at waits
    exact keyed.answer (List.mem_append_right _ waits)
  · rw [after_other gates same] at waits
    exact keyed key request waits

/-- What a call lets in belongs to the key of the call. -/
theorem IsKeyed.requestsOf_admits (keyed : gates.IsKeyed) (key : K) (call : Call K P) :
    requestsOf key (gates.admits call).toList =
      if call.key = key then (gates.admits call).toList else [] := by
  cases comesIn : gates.admits call with
  | none => simp [requestsOf]
  | some request =>
      have own : request.key = call.key := keyed.answer (by simp [comesIn])
      by_cases same : call.key = key <;> simp [requestsOf, own, same]

/-- Among all that comes in, the requests of a key are what its own gate lets in. -/
theorem IsKeyed.requestsOf_admitted (keyed : gates.IsKeyed) (key : K) (calls : List (Call K P)) :
    requestsOf key (gates.admitted calls) =
      (gates key).admitted (calls.filter fun call => call.key = key) := by
  induction calls generalizing gates with
  | nil => rfl
  | cons call later ih =>
      have others := ih (keyed.after call)
      rw [Gates.admitted, requestsOf, List.filter_append, ← requestsOf, ← requestsOf, others]
      rw [keyed.requestsOf_admits key call]
      by_cases same : call.key = key
      · subst same
        rw [after_same]
        simp [Gate.admitted, Gates.admits]
      · rw [after_other gates (Ne.symm same)]
        simp [same]

end Gates

variable [DecidableEq K]

/-! ## Runs -/

namespace Controller

theorem IsNew.requestsOf_admitted_run {controller : Controller K P} (new : controller.IsNew)
    (operations : List (Operation K P)) (key : K) :
    requestsOf key (admitted (controller.run operations).value) =
      Gate.admitted {} (Operation.callsOf key operations) := by
  have keyed : Gates.IsKeyed (fun _ => {} : Gates K P) := by simp [Gates.IsKeyed]
  rw [new.admitted_run operations, keyed.requestsOf_admitted key]
  rfl

/-- What a run admits of a key is what a single gate lets in on the calls of the key.  So two runs
with the same calls of the key admit its requests in the same order, and release them in this
order: of the two runs, one has released what the other has, and perhaps more behind it. -/
theorem run_isolates_keys {controller : Controller K P} (new : controller.IsNew)
    (operations : List (Operation K P)) (key : K) :
    let outcome := (controller.run operations).value
    requestsOf key (admitted outcome) = Gate.admitted {} (Operation.callsOf key operations) ∧
      ∀ (other : Controller K P) (others : List (Operation K P)), other.IsNew →
        Operation.callsOf key others = Operation.callsOf key operations →
        let otherOutcome := (other.run others).value
        let released := requestsOf key (outcome.1.flatMap Batch.requests)
        let otherReleased := requestsOf key (otherOutcome.1.flatMap Batch.requests)
        requestsOf key (admitted otherOutcome) = requestsOf key (admitted outcome) ∧
          (released <+: otherReleased ∨ otherReleased <+: released) := by
  intro outcome
  have own := new.requestsOf_admitted_run operations key
  refine ⟨own, ?_⟩
  intro other others otherNew same otherOutcome released otherReleased
  have equal : requestsOf key (admitted otherOutcome) = requestsOf key (admitted outcome) := by
    rw [otherNew.requestsOf_admitted_run others key, same, own]
  refine ⟨equal, ?_⟩
  have front : released <+: requestsOf key (admitted outcome) :=
    ⟨requestsOf key outcome.2.buffer.active.items, (List.filter_append _ _).symm⟩
  have otherFront : otherReleased <+: requestsOf key (admitted outcome) :=
    equal ▸ ⟨requestsOf key otherOutcome.2.buffer.active.items, (List.filter_append _ _).symm⟩
  exact List.prefix_or_prefix_of_prefix front otherFront

/-- Two requests of a key that leave in one batch, and apart among the requests of another key,
which is completed too early and fills batches. -/
theorem run_isolates_keys_among_others :
    let first : Request Nat String := ⟨7, .usual, "first"⟩
    let second : Request Nat String := ⟨7, .least, "second"⟩
    let third : Request Nat String := ⟨7, .usual, "third"⟩
    let other : Request Nat String := ⟨8, .usual, "other"⟩
    let settings : ControllerSettings := { buffer := .disabled, batchSize := 2 }
    let controller : Controller Nat String := around settings (.empty settings.buffer none)
    let alone : List (Operation Nat String) :=
      [.submit 0 first, .submit 1 second, .submit 2 third, .complete 3 7]
    let among : List (Operation Nat String) :=
      [.submit 0 other, .submit 1 first, .submit 2 second, .submit 3 other, .complete 4 8,
        .submit 5 third, .complete 6 8, .complete 7 7, .flush, .submit 8 other]
    controller.IsNew ∧ Operation.callsOf 7 among = Operation.callsOf 7 alone ∧
      (controller.run alone).value.1.map Batch.requests = [[first, third]] ∧
      (controller.run among).value.1.map Batch.requests = [[other, first], [other, third]] ∧
      requestsOf 7 (admitted (controller.run alone).value) =
        Gate.admitted {} (Operation.callsOf 7 alone) ∧
      requestsOf 7 (admitted (controller.run among).value) =
        requestsOf 7 (admitted (controller.run alone).value) ∧
      let released := requestsOf 7 ((controller.run alone).value.1.flatMap Batch.requests)
      let releasedAmong := requestsOf 7 ((controller.run among).value.1.flatMap Batch.requests)
      (released <+: releasedAmong ∨ releasedAmong <+: released) := by
  intro first second third other settings controller alone among
  have new : controller.IsNew := .unwatched settings rfl
  have same : Operation.callsOf 7 among = Operation.callsOf 7 alone := by decide
  obtain ⟨reference, others⟩ := run_isolates_keys new alone 7
  exact ⟨new, same, by decide, by decide, reference,
    others controller among new same⟩

end Controller

end KeyedBatching
