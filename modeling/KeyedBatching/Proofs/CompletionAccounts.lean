import KeyedBatching.Proofs.KeyExclusivity
import KeyedBatching.Proofs.KeyIsolation
import KeyedBatching.Proofs.RequestConservation

/-!
# Completions pay for admissions

Nothing keeps an owner from completing a key too early, too often or without any
reason.  Still every completion lets in at most one request of its key, and without
a completion a request comes in only if the key is free, which makes it busy.  So
the completions of a key are behind its admissions by at most the one that the key
is busy with, and a completion that nobody waited for only makes up for itself.
-/

namespace KeyedBatching

variable {K P : Type}

/-! ## One gate -/

namespace Call

def isCompletion : Call K P → Bool
  | submit _ => false
  | complete _ => true

end Call

namespace Gate

/-- The gate after some calls. -/
def afterAll (gate : Gate K P) (calls : List (Call K P)) : Gate K P :=
  calls.foldl (fun reached call => (reached.answer call).2) gate

/-- Requests wait only at a busy gate. -/
def IsTended (gate : Gate K P) : Prop :=
  gate.waiting ≠ [] → gate.busy = true

theorem IsTended.answer {gate : Gate K P} (tended : gate.IsTended) (call : Call K P) :
    (gate.answer call).2.IsTended := by
  intro waits
  cases call with
  | submit request => cases busy : gate.busy <;> simp [Gate.answer, busy]
  | complete key =>
      cases best : takeBest gate.waiting with
      | none =>
          have nobody : gate.waiting = [] := takeBest_eq_none_iff.mp best
          have frees : gate.answer (.complete key) = (none, { gate with busy := false }) := by
            simp [Gate.answer, best]
          rw [frees] at waits
          exact absurd nobody waits
      | some taken =>
          have somebody : gate.waiting ≠ [] := by
            intro nobody
            rw [takeBest_eq_none_iff.mpr nobody] at best
            cases best
          simpa [Gate.answer, best] using tended somebody

theorem IsTended.afterAll {gate : Gate K P} (tended : gate.IsTended) (calls : List (Call K P)) :
    (gate.afterAll calls).IsTended := by
  induction calls generalizing gate with
  | nil => exact tended
  | cons call later ih => exact ih (tended.answer call)

theorem answer_balance (gate : Gate K P) (call : Call K P) :
    (gate.answer call).1.toList.length + gate.busy.toNat ≤
      call.isCompletion.toNat + (gate.answer call).2.busy.toNat := by
  cases call with
  | submit request => cases busy : gate.busy <;> simp [answer, busy, Call.isCompletion]
  | complete key =>
      cases best : takeBest gate.waiting with
      | none => simpa [answer, best, Call.isCompletion] using Bool.toNat_le gate.busy
      | some taken => simp [answer, best, Call.isCompletion]

/-- What a gate lets in is paid for by the completions, up to the request that it is busy with. -/
theorem admitted_balance (gate : Gate K P) (calls : List (Call K P)) :
    (gate.admitted calls).length + gate.busy.toNat ≤
      calls.countP Call.isCompletion + (gate.afterAll calls).busy.toNat := by
  induction calls generalizing gate with
  | nil => simp [admitted, afterAll]
  | cons call later ih =>
      have first := gate.answer_balance call
      have others := ih (gate.answer call).2
      have counted : (call :: later).countP Call.isCompletion =
          later.countP Call.isCompletion + call.isCompletion.toNat := by
        cases completes : call.isCompletion <;> simp [completes]
      rw [admitted, List.length_append, counted]
      change _ ≤ _ + ((gate.answer call).2.afterAll later).busy.toNat
      omega

end Gate

/-! ## All gates -/

variable [DecidableEq K]

namespace Gates

def afterAll (gates : Gates K P) (calls : List (Call K P)) : Gates K P :=
  calls.foldl after gates

theorem afterAll_apply (gates : Gates K P) (calls : List (Call K P)) (key : K) :
    gates.afterAll calls key =
      (gates key).afterAll (calls.filter fun call => call.key = key) := by
  induction calls generalizing gates with
  | nil => rfl
  | cons call later ih =>
      have rest : gates.afterAll (call :: later) key = (gates.after call).afterAll later key := rfl
      rw [rest, ih]
      by_cases same : call.key = key
      · subst same
        simp [after_same, Gate.afterAll]
      · simp [after_other gates (Ne.symm same), same]

end Gates

namespace Controller

theorem Mirrors.run {controller : Controller K P} {gates : Gates K P}
    (mirrors : controller.Mirrors gates) (operations : List (Operation K P)) :
    (controller.run operations).value.2.Mirrors
      (gates.afterAll (Operation.calls operations)) := by
  induction operations generalizing controller gates with
  | nil => exact mirrors
  | cons operation later ih =>
      cases called : operation.call? with
      | none =>
          have calls : Operation.calls (operation :: later) = Operation.calls later := by
            simp [Operation.calls, called]
          rw [calls]
          exact ih (mirrors.handsOut (HandsOut.of_perform controller called))
      | some call =>
          have calls : Operation.calls (operation :: later) = call :: Operation.calls later := by
            simp [Operation.calls, called]
          rw [calls]
          exact ih (mirrors.perform called).1

theorem IsNew.accounts_run {controller : Controller K P} (new : controller.IsNew)
    (operations : List (Operation K P)) :
    Accounts (Operation.submitted operations) (controller.run operations).value.1
      (controller.run operations).value.2 := by
  let balances := fun done => Accounts (K := K) (P := P) (Operation.submitted done)
  have start : balances [] [] controller := Accounts.of_isNew new
  exact run_preserves (fun held => held.perform) start operations

end Controller

/-! ## Counting completions -/

namespace Operation

/-- The operation is a completion of the key. -/
def completes (key : K) : Operation K P → Bool
  | .complete _ completed => completed = key
  | _ => false

/-- The number of completions of a key. -/
def completions (key : K) (operations : List (Operation K P)) : Nat :=
  operations.countP (completes key)

theorem countP_callsOf (key : K) (operations : List (Operation K P)) :
    (callsOf key operations).countP Call.isCompletion = completions key operations := by
  rw [callsOf, List.countP_filter, calls, List.countP_filterMap, completions]
  apply List.countP_congr
  intro operation _
  cases operation with
  | complete now other =>
      change (true && decide (other = key)) = true ↔ decide (other = key) = true
      rw [Bool.true_and]
  | _ => simp [call?, completes, Call.isCompletion]

end Operation

theorem requestsOf_append (key : K) (requests others : List (Request K P)) :
    requestsOf key (requests ++ others) = requestsOf key requests ++ requestsOf key others :=
  List.filter_append _ _

/-- Without its first request of a key, a list has one less of this key and as many of others. -/
theorem requestsOf_eraseP (key other : K) (requests : List (Request K P)) :
    requestsOf key (requests.eraseP fun request => request.key = other) =
      if key = other then (requestsOf key requests).tail else requestsOf key requests := by
  induction requests with
  | nil => simp [requestsOf]
  | cons request later ih =>
      by_cases erased : request.key = other
      · by_cases same : key = other
        · simp [requestsOf, erased, same]
        · simp [requestsOf, erased, same, Ne.symm same]
      · by_cases own : request.key = key
        · have differs : key ≠ other := own ▸ erased
          simpa [requestsOf, erased, own, differs] using ih
        · simpa [requestsOf, erased, own] using ih

namespace Session

/-- The client was handed a request of the key and has not completed it. -/
def isOutstanding (key : K) (session : Session K P) : Bool :=
  session.outstanding.any fun request => request.key = key

/-- The completions of a key, in a run, that find no request of the key outstanding. -/
def spurious (key : K) : Session K P → List (Operation K P) → Nat
  | _, [] => 0
  | session, operation :: later =>
      (operation.completes key && !session.isOutstanding key).toNat +
        (session.perform operation).spurious key later

theorem isOutstanding_eq (key : K) (session : Session K P) :
    session.isOutstanding key = !(requestsOf key session.outstanding).isEmpty := by
  rw [Bool.eq_iff_iff]
  simp [isOutstanding, requestsOf]

/-- A completion either finds a request outstanding, which it takes away, or is spurious. -/
theorem remaining_balance (session : Session K P) (operation : Operation K P) (key : K) :
    (requestsOf key (session.remaining operation)).length +
        (operation.completes key).toNat =
      (requestsOf key session.outstanding).length +
        (operation.completes key && !session.isOutstanding key).toNat := by
  cases operation with
  | complete now other =>
      rw [isOutstanding_eq, remaining, requestsOf_eraseP]
      by_cases same : key = other
      · subst same
        cases mine : requestsOf key session.outstanding <;> simp [Operation.completes]
      · simp [Operation.completes, same, Ne.symm same]
  | _ => simp [remaining, Operation.completes]

theorem run_balance (session : Session K P) (operations : List (Operation K P)) (key : K) :
    let released := (session.controller.run operations).value.1.flatMap Batch.requests
    (requestsOf key (session.run operations).outstanding).length +
        Operation.completions key operations =
      (requestsOf key session.outstanding).length + (requestsOf key released).length +
        session.spurious key operations := by
  induction operations generalizing session with
  | nil => simp [run, Controller.run, Operation.completions, spurious, requestsOf]
  | cons operation later ih =>
      intro released
      let next := session.perform operation
      let batches := (session.controller.perform operation).value.1
      let others := (next.controller.run later).value.1
      have first := session.remaining_balance operation key
      have rest : (requestsOf key (next.run later).outstanding).length +
            Operation.completions key later =
          (requestsOf key next.outstanding).length +
            (requestsOf key (others.flatMap Batch.requests)).length +
            next.spurious key later := ih next
      have whole : released = batches.flatMap Batch.requests ++ others.flatMap Batch.requests :=
        List.flatMap_append
      have handed : requestsOf key next.outstanding =
          requestsOf key (session.remaining operation) ++
            requestsOf key (batches.flatMap Batch.requests) := requestsOf_append _ _ _
      have counted : Operation.completions key (operation :: later) =
          Operation.completions key later + (operation.completes key).toNat := by
        cases completes : operation.completes key <;> simp [Operation.completions, completes]
      have spent : session.spurious key (operation :: later) =
          (operation.completes key && !session.isOutstanding key).toNat +
            next.spurious key later := rfl
      have last : session.run (operation :: later) = next.run later := rfl
      rw [handed, List.length_append] at rest
      rw [whole, last, counted, spent, requestsOf_append, List.length_append]
      omega

end Session

/-! ## Keys that nobody holds -/

namespace Controller

theorem complete_untouched {controller : Controller K P} {key : K}
    (sound : controller.buffer.waiting.IsSound)
    (nobody : controller.buffer.waiting.waitersOf key = [])
    (free : controller.isInFlight key = false) (now : Instant) :
    controller.complete now key = pure (none, controller) := by
  have first := WaitingRoom.unblockOne_fst controller.buffer.waiting key
  rw [nobody] at first
  have taken : controller.buffer.waiting.unblockOne key = (none, controller.buffer.waiting) := by
    rcases WaitingRoom.unblockOne_cases sound key with ⟨idle, _⟩ | ⟨next, rest, leaves, _⟩
    · exact idle
    · simp [leaves] at first
  have absent : key ∉ controller.inFlight := by simpa [isInFlight] using free
  have same : controller.inFlight.erase key = controller.inFlight :=
    List.erase_of_not_mem absent
  simp only [complete, RequestBuffer.unblockOne, taken, same]

variable {controller : Controller K P}

theorem IsNew.admitted_le (new : controller.IsNew) (operations : List (Operation K P)) (key : K) :
    (requestsOf key (admitted (controller.run operations).value)).length ≤
      Operation.completions key operations +
        ((controller.run operations).value.2.isInFlight key).toNat := by
  have mirrors := new.mirrors.run operations
  have paid := Gate.admitted_balance {} (Operation.callsOf key operations)
  rw [mirrors.busy, Gates.afterAll_apply, new.requestsOf_admitted_run,
    ← Operation.countP_callsOf]
  exact paid

theorem IsNew.waitersOf_busy (new : controller.IsNew) (operations : List (Operation K P))
    {key : K} (waits : (controller.run operations).value.2.buffer.waiting.waitersOf key ≠ []) :
    (controller.run operations).value.2.isInFlight key = true := by
  have mirrors := new.mirrors.run operations
  have tended : Gate.IsTended ({} : Gate K P) := fun somebody => absurd rfl somebody
  rw [mirrors.busy, Gates.afterAll_apply]
  apply tended.afterAll
  rw [mirrors.waiting, Gates.afterAll_apply] at waits
  intro nobody
  rw [nobody] at waits
  exact waits rfl

/-- However completions are misused, a key has at most one more admission than completions, and
none more while it is free; of its requests outside the waiting room all but one go back to
spurious completions.  To complete a free key changes nothing and reports nothing.  Requests wait
only behind a busy key, and while they do no new one is admitted. -/
theorem run_completions_pay (new : controller.IsNew) (operations : List (Operation K P))
    (key : K) :
    let outcome := (controller.run operations).value
    let reached := outcome.2
    let start : Session K P := ⟨controller, []⟩
    let session := start.run operations
    let entered := requestsOf key (admitted outcome)
    let outside := requestsOf key (session.controller.buffer.active.items ++ session.outstanding)
    (entered.length ≤ Operation.completions key operations + 1 ∧
        outside.length ≤ start.spurious key operations + 1) ∧
      (reached.isInFlight key = false →
        entered.length ≤ Operation.completions key operations ∧
          outside.length ≤ start.spurious key operations ∧
          ∀ now, reached.complete now key = pure (none, reached)) ∧
      (reached.buffer.waiting.contains key = true →
        reached.isInFlight key = true ∧
          ∀ now request, request.key = key →
            (reached.submit now request).value =
              (none, reached.withWaiting (reached.buffer.waiting.enqueue request))) := by
  intro outcome reached start session entered outside
  have sound : reached.buffer.waiting.IsSound := (new.accounts_run operations).roomSound
  have paid : entered.length ≤
      Operation.completions key operations + (reached.isInFlight key).toNat :=
    new.admitted_le operations key
  have owed : outside.length ≤ start.spurious key operations + (reached.isInFlight key).toNat := by
    let queued := requestsOf key reached.buffer.active.items
    let released := requestsOf key (outcome.1.flatMap Batch.requests)
    have balance : (requestsOf key session.outstanding).length +
          Operation.completions key operations =
        0 + released.length + start.spurious key operations := start.run_balance operations key
    have came : entered.length = released.length + queued.length := by
      rw [← List.length_append]
      exact congrArg List.length (requestsOf_append key _ _)
    have split : outside.length = queued.length + (requestsOf key session.outstanding).length := by
      have same : session.controller = reached := start.run_controller operations
      simp only [outside, same]
      rw [requestsOf_append, List.length_append]
    omega
  have held := Bool.toNat_le (reached.isInFlight key)
  refine ⟨⟨by omega, by omega⟩, ?_, ?_⟩
  · intro free
    rw [free, Bool.toNat_false] at paid owed
    refine ⟨paid, owed, complete_untouched sound ?_ free⟩
    by_contra waits
    rw [new.waitersOf_busy operations waits] at free
    cases free
  · intro waits
    have busy : reached.isInFlight key = true :=
      new.waitersOf_busy operations (WaitingRoom.waitersOf_ne_nil sound waits)
    refine ⟨busy, ?_⟩
    rintro now request rfl
    exact submit_busy busy now

/-- A key that is completed while its first request is still queued: its second request leaves
beside the first, and one more completion frees the key although the second is outstanding. -/
theorem run_completions_pay_early :
    let settings : ControllerSettings := { buffer := .disabled, batchSize := 2 }
    let controller : Controller Nat String := around settings (.empty settings.buffer none)
    let first : Request Nat String := ⟨7, .usual, "first"⟩
    let second : Request Nat String := ⟨7, .least, "second"⟩
    let third : Request Nat String := ⟨7, .usual, "third"⟩
    let waiting : List (Operation Nat String) := [.submit 1 first, .submit 2 second]
    let operations : List (Operation Nat String) := waiting ++ [.complete 3 7, .complete 4 7]
    let start : Session Nat String := ⟨controller, []⟩
    let session := start.run operations
    let outside := requestsOf 7 (session.controller.buffer.active.items ++ session.outstanding)
    controller.IsNew ∧ (controller.run waiting).value.2.buffer.waiting.contains 7 = true ∧
      ((controller.run waiting).value.2.submit 3 third).value.1 = none ∧
      outside = [second] ∧ start.spurious 7 operations = 1 ∧
      (controller.run operations).value.2.isInFlight 7 = false ∧
      outside.length ≤ start.spurious 7 operations ∧
      ((controller.run operations).value.2.complete 5 7) =
        pure (none, (controller.run operations).value.2) := by
  intro settings controller first second third waiting operations start session outside
  have new : controller.IsNew := .unwatched settings rfl
  have waits : (controller.run waiting).value.2.buffer.waiting.contains 7 = true := by decide
  have free : (controller.run operations).value.2.isInFlight 7 = false := by decide
  obtain ⟨_, _, busy⟩ := run_completions_pay new waiting 7
  obtain ⟨_, released, _⟩ := run_completions_pay new operations 7
  have parks := (busy waits).2 3 third rfl
  obtain ⟨_, owed, unchanged⟩ := released free
  refine ⟨new, waits, congrArg Prod.fst parks, by decide, by decide, free, ?_, unchanged 5⟩
  simp only [outside, session, start]
  exact owed

end Controller

end KeyedBatching
