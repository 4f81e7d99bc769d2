import KeyedBatching.Proofs.KeyIsolation
import KeyedBatching.Proofs.WaitingListRuns
import Mathlib.Algebra.Ring.Nat
import Mathlib.Data.List.Dedup

/-!
# Runs of a waiting room

Requests are parked and keys are unblocked in any order.  The reference keeps the
waiting requests of all keys together, in the order of their arrival: a new one
comes last, and to unblock a key takes its best request out, the earliest among
equals.  A waiting room gives the same answers, and its total, its table of keys and
its lists are three views of what waits, which never come apart.
-/

namespace KeyedBatching

variable {K P : Type}

/-- What happens to a waiting room. -/
inductive RoomOperation (K P : Type) where
  | enqueue (request : Request K P)
  | unblockOne (key : K)
deriving DecidableEq

/-! ## The reference -/

/-- The requests that wait, the earliest first. -/
abbrev Arrivals (K P : Type) := List (Request K P)

namespace Arrivals

variable [DecidableEq K]

/-- The request is one of the key, and no request of the key is more urgent. -/
def leads (arrivals : Arrivals K P) (key : K) (request : Request K P) : Bool :=
  request.key = key &&
    arrivals.all fun other => other.key ≠ key || other.priority ≤ request.priority

/-- What an operation hands out, and what waits after it. -/
def answer (arrivals : Arrivals K P) :
    RoomOperation K P → Option (Request K P) × Arrivals K P
  | .enqueue request => (none, arrivals ++ [request])
  | .unblockOne key =>
      (arrivals.find? (arrivals.leads key), arrivals.eraseP (arrivals.leads key))

/-- What some operations hand out, one answer each, and what waits after them. -/
def run (arrivals : Arrivals K P) :
    List (RoomOperation K P) → List (Option (Request K P)) × Arrivals K P
  | [] => ([], arrivals)
  | operation :: later =>
      let (left?, next) := arrivals.answer operation
      let (others, last) := run next later
      (left? :: others, last)

variable {arrivals : Arrivals K P} {key : K}

theorem leads_iff {request : Request K P} :
    arrivals.leads key request = true ↔
      request.key = key ∧
        ∀ other ∈ arrivals, other.key = key → other.priority ≤ request.priority := by
  simp only [leads, Bool.and_eq_true, decide_eq_true_eq, List.all_eq_true, Bool.or_eq_true]
  refine and_congr_right fun _ => forall₂_congr fun other _ => ?_
  exact Decidable.imp_iff_not_or.symm

/-- If requests of a key wait, one of them leads. -/
theorem exists_leads (waits : requestsOf key arrivals ≠ []) :
    ∃ request ∈ arrivals, arrivals.leads key request = true := by
  cases taken : takeBest (requestsOf key arrivals) with
  | none => exact absurd (takeBest_eq_none_iff.mp taken) waits
  | some rest =>
      obtain ⟨best, others⟩ := rest
      obtain ⟨before, after, split, _, lower, notHigher⟩ := takeBest_split taken
      have among (request : Request K P) :
          request ∈ requestsOf key arrivals ↔ request ∈ arrivals ∧ request.key = key := by
        simp [requestsOf]
      obtain ⟨member, own⟩ := (among best).mp (split ▸ by simp)
      refine ⟨best, member, leads_iff.mpr ⟨own, ?_⟩⟩
      intro other waitsToo sameKey
      have mine : other ∈ before ++ best :: after := split ▸ (among other).mpr ⟨waitsToo, sameKey⟩
      rcases List.mem_append.mp mine with front | back
      · exact Int.le_of_lt (lower other front)
      · rcases List.mem_cons.mp back with rfl | behind
        · exact Int.le_refl _
        · exact notHigher other behind

/-- To unblock a key hands nothing out if no request of it waits, and else the first of its requests
with the greatest priority. -/
theorem unblockOne_cases (arrivals : Arrivals K P) (key : K) :
    (requestsOf key arrivals = [] ∧ arrivals.answer (.unblockOne key) = (none, arrivals)) ∨
      ∃ before best after, arrivals = before ++ best :: after ∧ best.key = key ∧
        (∀ request ∈ before, request.key = key → request.priority < best.priority) ∧
        (∀ request ∈ after, request.key = key → request.priority ≤ best.priority) ∧
        arrivals.answer (.unblockOne key) = (some best, before ++ after) := by
  by_cases waits : requestsOf key arrivals = []
  · have nobody : ∀ request ∈ arrivals, ¬ arrivals.leads key request = true := by
      intro request member leads
      have mine : request ∈ requestsOf key arrivals :=
        List.mem_filter.mpr ⟨member, decide_eq_true (leads_iff.mp leads).1⟩
      rw [waits] at mine
      cases mine
    refine .inl ⟨waits, ?_⟩
    rw [answer, List.find?_eq_none.mpr nobody, List.eraseP_of_forall_not nobody]
  · obtain ⟨request, member, leads⟩ := exists_leads waits
    obtain ⟨best, before, after, first, chosen, split, left⟩ :=
      List.exists_of_eraseP member leads
    obtain ⟨own, above⟩ := leads_iff.mp chosen
    refine .inr ⟨before, best, after, split, own, ?_, ?_, ?_⟩
    · -- Whoever stands in front does not lead, so somebody of the key is above, and not above best.
      intro earlier front mine
      by_contra notLower
      apply first earlier front
      refine leads_iff.mpr ⟨mine, ?_⟩
      intro other waitsToo sameKey
      have upper := above other waitsToo sameKey
      simp only [Priority.lt_iff, Priority.le_iff] at notLower upper ⊢
      omega
    · intro later behind mine
      exact above later (split ▸ by simp [behind]) mine
    · have found : arrivals.find? (arrivals.leads key) = some best :=
        List.find?_eq_some_iff_append.mpr
          ⟨chosen, before, after, split, fun earlier front => by simpa using first earlier front⟩
      rw [answer, found, left]

end Arrivals

namespace WaitingRoom

variable [DecidableEq K]

/-- Performs an operation, which may hand a request out. -/
def perform (room : WaitingRoom K P) :
    RoomOperation K P → Option (Request K P) × WaitingRoom K P
  | .enqueue request => (none, room.enqueue request)
  | .unblockOne key => room.unblockOne key

/-- What some operations hand out, one answer each, and the room after them. -/
def run (room : WaitingRoom K P) :
    List (RoomOperation K P) → List (Option (Request K P)) × WaitingRoom K P
  | [] => ([], room)
  | operation :: later =>
      let (left?, next) := room.perform operation
      let (others, last) := next.run later
      (left? :: others, last)

/-! ## What a room holds of the arrivals -/

/-- The room holds the requests that wait, those of each key arranged in its list. -/
structure Holds (room : WaitingRoom K P) (arrivals : Arrivals K P) : Prop where
  sound : room.IsSound
  contents : room.requests.Perm arrivals
  arranged : ∀ key, room.waitersOf key =
    (WaitingList.arranged (requestsOf key arrivals)).items

variable {room : WaitingRoom K P} {arrivals : Arrivals K P}

theorem holds_empty : ({} : WaitingRoom K P).Holds [] :=
  ⟨isSound_empty, List.Perm.refl _, fun _ => rfl⟩

theorem Holds.enqueue (holds : room.Holds arrivals) (request : Request K P) :
    (room.enqueue request).Holds (arrivals ++ [request]) := by
  refine ⟨isSound_enqueue holds.sound request, ?_, ?_⟩
  · calc
      (room.enqueue request).requests
      List.Perm _ (request :: room.requests) := requests_enqueue_perm room request
      List.Perm _ (request :: arrivals) := holds.contents.cons request
      List.Perm _ (arrivals ++ [request]) := (List.perm_append_singleton request arrivals).symm
  · intro key
    rw [waitersOf_enqueue, holds.arranged]
    by_cases own : key = request.key
    · subst own
      have joined : requestsOf request.key (arrivals ++ [request]) =
          requestsOf request.key arrivals ++ [request] := by simp [requestsOf]
      rw [if_pos rfl, joined, WaitingList.arranged_append_singleton]
    · have same : requestsOf key (arrivals ++ [request]) = requestsOf key arrivals := by
        simp [requestsOf, Ne.symm own]
      rw [if_neg own, same]

/-- Nothing of a key that nobody waits for changes. -/
theorem Holds.unblockOne_idle (holds : room.Holds arrivals) {key : K}
    (nobody : requestsOf key arrivals = []) : room.unblockOne key = (none, room) := by
  rcases unblockOne_cases holds.sound key with ⟨idle, _⟩ | ⟨next, rest, taken, _⟩
  · exact idle
  · have first := unblockOne_fst room key
    rw [taken, holds.arranged, nobody] at first
    cases first

/-- Only the list of the key is touched. -/
theorem get?_unblockOne (room : WaitingRoom K P) {key other : K} (differs : other ≠ key) :
    (room.unblockOne key).2.lists.get? other = room.lists.get? other := by
  unfold unblockOne
  split
  · rfl
  next list found =>
    cases emptied : list.popFront.2.isEmpty with
    | true => simp [emptied, KeyTable.get?_erase, differs]
    | false => simp [emptied, KeyTable.get?_put, differs]

/-- The best of a key leaves the room as it leaves the arrivals. -/
theorem Holds.unblockOne_best {before after : Arrivals K P} {best : Request K P}
    (holds : room.Holds (before ++ best :: after))
    (lower : ∀ request ∈ before, request.key = best.key → request.priority < best.priority)
    (notHigher : ∀ request ∈ after, request.key = best.key →
      request.priority ≤ best.priority) :
    ∃ rest, room.unblockOne best.key = (some best, rest) ∧ rest.Holds (before ++ after) := by
  have heads : room.waitersOf best.key = best ::
      (WaitingList.arranged (requestsOf best.key (before ++ after))).items := by
    have split : requestsOf best.key (before ++ best :: after) =
        requestsOf best.key before ++ best :: requestsOf best.key after := by
      simp [requestsOf]
    have joined : requestsOf best.key (before ++ after) =
        requestsOf best.key before ++ requestsOf best.key after := List.filter_append _ _
    rw [holds.arranged, split, joined, WaitingList.arranged_of_split]
    · intro request member
      obtain ⟨front, own⟩ := List.mem_filter.mp member
      exact lower request front (of_decide_eq_true own)
    · intro request member
      obtain ⟨back, own⟩ := List.mem_filter.mp member
      exact notHigher request back (of_decide_eq_true own)
  have first := unblockOne_fst room best.key
  rw [heads, List.head?_cons] at first
  rcases unblockOne_cases holds.sound best.key with
    ⟨idle, _⟩ | ⟨next, rest, taken, _, leaves, sound⟩
  · rw [idle] at first
    cases first
  · obtain rfl : next = best := by simpa [taken] using first
    refine ⟨rest, taken, sound, ?_, ?_⟩
    · have without : (next :: rest.requests).Perm (next :: (before ++ after)) :=
        (leaves.symm.trans holds.contents).trans List.perm_middle
      exact without.cons_inv
    · intro key
      have lists := waitersOf_unblockOne room next.key key
      rw [taken] at lists
      rw [lists]
      by_cases own : key = next.key
      · subst own
        rw [if_pos rfl, heads, List.tail_cons]
      · have same : requestsOf key (before ++ after) =
            requestsOf key (before ++ next :: after) := by
          simp [requestsOf, Ne.symm own]
        rw [if_neg own, holds.arranged, same]

/-- The room answers an operation as the arrivals do. -/
theorem Holds.perform (holds : room.Holds arrivals) (operation : RoomOperation K P) :
    (room.perform operation).1 = (arrivals.answer operation).1 ∧
      (room.perform operation).2.Holds (arrivals.answer operation).2 := by
  cases operation with
  | enqueue request => exact ⟨rfl, holds.enqueue request⟩
  | unblockOne key =>
      rcases arrivals.unblockOne_cases key with
        ⟨nobody, idle⟩ | ⟨before, best, after, rfl, rfl, lower, notHigher, taken⟩
      · rw [idle, WaitingRoom.perform, holds.unblockOne_idle nobody]
        exact ⟨rfl, holds⟩
      · obtain ⟨rest, leaves, remains⟩ := holds.unblockOne_best lower notHigher
        rw [taken, WaitingRoom.perform, leaves]
        exact ⟨rfl, remains⟩

theorem Holds.run (holds : room.Holds arrivals) (operations : List (RoomOperation K P)) :
    (room.run operations).1 = (arrivals.run operations).1 ∧
      (room.run operations).2.Holds (arrivals.run operations).2 := by
  induction operations generalizing room arrivals with
  | nil => exact ⟨rfl, holds⟩
  | cons operation later ih =>
      obtain ⟨same, next⟩ := holds.perform operation
      obtain ⟨others, last⟩ := ih next
      exact ⟨congrArg₂ List.cons same others, last⟩

/-! ## The views of a room -/

/-- The total, the table of keys and the lists show the requests that wait. -/
structure Shows (room : WaitingRoom K P) (arrivals : Arrivals K P) : Prop where
  keysDistinct : room.lists.keys.Nodup
  listsNonempty : ∀ entry ∈ room.lists.entries, entry.2.items ≠ []
  listsKeyed : ∀ entry ∈ room.lists.entries, ∀ request ∈ entry.2.items, request.key = entry.1
  contents : room.requests.Perm arrivals
  size : room.size = arrivals.length
  listsSize : room.size = (room.lists.values.map WaitingList.size).sum
  keyCount : room.keyCount = (arrivals.map Request.key).dedup.length
  isEmpty : room.isEmpty = true ↔ arrivals = []
  countFor : ∀ key, room.countFor key = (requestsOf key arrivals).length
  contains : ∀ key, room.contains key = true ↔ 0 < room.countFor key

theorem IsSound.mem_keys_iff (sound : room.IsSound) {key : K} :
    key ∈ room.lists.keys ↔ ∃ request ∈ room.requests, request.key = key := by
  constructor
  · intro member
    apply exists_request_of_contains sound
    rw [contains, KeyTable.contains, Option.isSome_iff_ne_none, Ne, KeyTable.get?_eq_none_iff,
      not_not]
    exact member
  · rintro ⟨request, waits, rfl⟩
    obtain ⟨entry, member, within⟩ := mem_requests.mp waits
    rw [sound.listsKeyed entry member request within]
    exact List.mem_map_of_mem member

theorem length_waitersOf (room : WaitingRoom K P) (key : K) :
    (room.waitersOf key).length = room.countFor key := by
  cases found : room.lists.get? key <;> simp [waitersOf, countFor, found, WaitingList.size]

theorem IsSound.contains_iff (sound : room.IsSound) {key : K} :
    room.contains key = true ↔ 0 < room.countFor key := by
  rw [← length_waitersOf, List.length_pos_iff]
  refine ⟨waitersOf_ne_nil sound, ?_⟩
  intro waits
  by_contra absent
  have missing : room.lists.get? key = none := by
    simpa [contains, KeyTable.contains] using absent
  simp [waitersOf, missing] at waits

theorem Holds.shows (holds : room.Holds arrivals) : room.Shows arrivals where
  keysDistinct := holds.sound.keysDistinct
  listsNonempty := holds.sound.listsNonempty
  listsKeyed := holds.sound.listsKeyed
  contents := holds.contents
  size := by rw [holds.sound.sizeCounts, holds.contents.length_eq]
  listsSize := by
    rw [holds.sound.sizeCounts, requests, List.length_flatMap, KeyTable.values, List.map_map]
    rfl
  keyCount := by
    have sameKeys : room.lists.keys.Perm (arrivals.map Request.key).dedup := by
      apply (List.perm_ext_iff_of_nodup holds.sound.keysDistinct (List.nodup_dedup _)).mpr
      intro key
      rw [holds.sound.mem_keys_iff, List.mem_dedup, List.mem_map]
      exact exists_congr fun request => and_congr_left fun _ => holds.contents.mem_iff
    rw [← sameKeys.length_eq, KeyTable.keys, List.length_map]
    rfl
  isEmpty := by
    rw [WaitingRoom.isEmpty, decide_eq_true_iff, holds.sound.sizeCounts,
      holds.contents.length_eq, List.length_eq_zero_iff]
  countFor := by
    intro key
    rw [← length_waitersOf, holds.arranged, WaitingList.arranged_eq_sortedByPriority]
    exact List.length_mergeSort _
  contains := fun _ => holds.sound.contains_iff

/-! ## Bags of requests -/

/-- After any run a room has given the answers of the arrivals and shows what waits.  To unblock a
key takes the earliest of its most urgent requests, which the total counts and which leaves the
lists of other keys as they are, or changes nothing if no request of the key waits. -/
theorem run_refines_arrivals (operations : List (RoomOperation K P)) :
    let outcome := ({} : WaitingRoom K P).run operations
    let reference := Arrivals.run [] operations
    let room := outcome.2
    let arrivals := reference.2
    outcome.1 = reference.1 ∧ room.Shows arrivals ∧
      ∀ key,
        (requestsOf key arrivals = [] ∧ room.unblockOne key = (none, room)) ∨
        ∃ before best after rest, arrivals = before ++ best :: after ∧ best.key = key ∧
          (∀ request ∈ before, request.key = key → request.priority < best.priority) ∧
          (∀ request ∈ after, request.key = key → request.priority ≤ best.priority) ∧
          room.unblockOne key = (some best, rest) ∧ rest.Shows (before ++ after) ∧
          rest.size + 1 = room.size ∧
          ∀ other, other ≠ key → rest.lists.get? other = room.lists.get? other := by
  intro outcome reference room arrivals
  obtain ⟨same, holds⟩ := (holds_empty (K := K) (P := P)).run operations
  refine ⟨same, holds.shows, ?_⟩
  intro key
  rcases arrivals.unblockOne_cases key with
    ⟨nobody, _⟩ | ⟨before, best, after, split, rfl, lower, notHigher, _⟩
  · exact .inl ⟨nobody, holds.unblockOne_idle nobody⟩
  · have held : room.Holds (before ++ best :: after) := split ▸ holds
    obtain ⟨rest, taken, remains⟩ := held.unblockOne_best lower notHigher
    refine .inr ⟨before, best, after, rest, split, rfl, lower, notHigher, taken, remains.shows,
      ?_, ?_⟩
    · rw [remains.shows.size, held.shows.size]
      simp only [List.length_append, List.length_cons]
      omega
    · intro other differs
      have kept := get?_unblockOne room differs
      rwa [taken] at kept

end WaitingRoom

end KeyedBatching
