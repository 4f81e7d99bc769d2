import KeyedBatching.Proofs.WaitingOrder
import Mathlib.Data.List.Induction
import Mathlib.Data.List.Pairwise

/-!
# Runs of a waiting list

Items join a waiting list and leave it in any order.  Two things hold all the
time: the priorities descend, and the items of one priority leave in the order in
which they came.  A descending list is determined by its items of each priority,
so a waiting list is always the stable sort of those that wait.
-/

namespace KeyedBatching

open Prioritized

theorem Priority.eq_of_le_of_le {first second : Priority} (upper : first ≤ second)
    (lower : second ≤ first) : first = second := by
  have equal : first.value = second.value := Int.le_antisymm upper lower
  cases first
  cases second
  cases equal
  rfl

/-! ## Descending lists -/

section Descending

variable {α : Type} [Prioritized α]

/-- No item stands behind one of a lower priority. -/
def IsDescending (items : List α) : Prop :=
  items.Pairwise fun first second => priority second ≤ priority first

/-- The items of one priority, in their order. -/
def ofPriority (level : Priority) (items : List α) : List α :=
  items.filter fun item => priority item = level

/-- The stable sort by descending priority. -/
def sortedByPriority (items : List α) : List α :=
  items.mergeSort fun first second => priority second ≤ priority first

theorem notHigher_trans (first second third : α)
    (upper : decide (priority second ≤ priority first) = true)
    (lower : decide (priority third ≤ priority second) = true) :
    decide (priority third ≤ priority first) = true := by
  rw [decide_eq_true_iff, Priority.le_iff] at upper lower ⊢
  exact Int.le_trans lower upper

theorem notHigher_total (first second : α) :
    (decide (priority second ≤ priority first) || decide (priority first ≤ priority second)) =
      true := by
  simp only [Bool.or_eq_true, decide_eq_true_eq, Priority.le_iff]
  exact Int.le_total _ _

theorem mem_ofPriority {level : Priority} {items : List α} {item : α} :
    item ∈ ofPriority level items ↔ item ∈ items ∧ priority item = level := by
  simp [ofPriority]

theorem ofPriority_append (level : Priority) (front back : List α) :
    ofPriority level (front ++ back) = ofPriority level front ++ ofPriority level back :=
  List.filter_append ..

theorem ofPriority_cons (level : Priority) (item : α) (items : List α) :
    ofPriority level (item :: items) =
      if priority item = level then item :: ofPriority level items
      else ofPriority level items := by
  simp [ofPriority, List.filter_cons]

theorem ofPriority_eq_nil_of_lower {level : Priority} {items : List α}
    (lower : ∀ item ∈ items, priority item < level) : ofPriority level items = [] := by
  apply List.filter_eq_nil_iff.mpr
  intro item member same
  have less := lower item member
  rw [of_decide_eq_true same, Priority.lt_iff] at less
  exact Int.lt_irrefl _ less

/-- The head of a descending list that has the items of another one is at least as urgent as all
of these. -/
theorem IsDescending.le_head {first item : α} {others items : List α}
    (descending : IsDescending (first :: others))
    (same : ∀ level, ofPriority level (first :: others) = ofPriority level items)
    (member : item ∈ items) : priority item ≤ priority first := by
  have among : item ∈ ofPriority (priority item) (first :: others) := by
    rw [same, mem_ofPriority]
    exact ⟨member, rfl⟩
  rcases List.mem_cons.mp (mem_ofPriority.mp among).1 with rfl | behind
  · exact Int.le_refl _
  · exact (List.pairwise_cons.mp descending).1 item behind

theorem IsDescending.eq_of_ofPriority {items others : List α} (descending : IsDescending items)
    (descendingToo : IsDescending others)
    (same : ∀ level, ofPriority level items = ofPriority level others) : items = others := by
  induction items generalizing others with
  | nil =>
      cases others with
      | nil => rfl
      | cons first rest => simpa [ofPriority] using same (priority first)
  | cons first rest ih =>
      cases others with
      | nil => simpa [ofPriority] using same (priority first)
      | cons head behind =>
          -- Each head is at least as urgent as the other, so both lead the items of one priority.
          have upper : priority head ≤ priority first :=
            descending.le_head same List.mem_cons_self
          have lower : priority first ≤ priority head :=
            descendingToo.le_head (fun level => (same level).symm) List.mem_cons_self
          have equal : priority head = priority first :=
            Priority.eq_of_le_of_le upper lower
          have leading := same (priority first)
          rw [ofPriority_cons, ofPriority_cons, if_pos rfl, if_pos equal] at leading
          obtain rfl := (List.cons.inj leading).1
          refine congrArg (first :: ·) (ih (List.pairwise_cons.mp descending).2
            (List.pairwise_cons.mp descendingToo).2 ?_)
          intro level
          have remaining := same level
          rw [ofPriority_cons, ofPriority_cons] at remaining
          split at remaining
          · exact (List.cons.inj remaining).2
          · exact remaining

theorem isDescending_sortedByPriority (items : List α) :
    IsDescending (sortedByPriority items) := by
  have sorted := List.pairwise_mergeSort notHigher_trans notHigher_total items
  simpa [IsDescending, sortedByPriority] using sorted

theorem ofPriority_sortedByPriority (level : Priority) (items : List α) :
    ofPriority level (sortedByPriority items) = ofPriority level items := by
  have reordered : (ofPriority level (sortedByPriority items)).Perm (ofPriority level items) :=
    (List.mergeSort_perm ..).filter _
  -- Stability: a part that is in order already keeps its order.
  have inOrder : (ofPriority level items).Pairwise fun first second =>
      decide (priority second ≤ priority first) = true := by
    apply List.pairwise_of_forall_mem_list
    intro first member second memberToo
    rw [(mem_ofPriority.mp member).2, (mem_ofPriority.mp memberToo).2]
    exact decide_eq_true (Int.le_refl _)
  have kept : (ofPriority level items).Sublist (sortedByPriority items) :=
    List.sublist_mergeSort notHigher_trans notHigher_total inOrder List.filter_sublist
  have within : (ofPriority level items).Sublist (ofPriority level (sortedByPriority items)) := by
    simpa [ofPriority] using kept.filter fun item => priority item = level
  exact (within.eq_of_length reordered.length_eq.symm).symm

end Descending

/-! ## Operations -/

/-- What happens to a waiting list. -/
inductive ListOperation (α : Type) where
  | insert (item : α)
  | popFront
deriving DecidableEq

namespace ListOperation

variable {α : Type}

def item? : ListOperation α → Option α
  | insert item => some item
  | popFront => none

/-- The items that are inserted, in order. -/
def inserted (operations : List (ListOperation α)) : List α :=
  operations.filterMap item?

theorem inserted_cons (operation : ListOperation α) (later : List (ListOperation α)) :
    inserted (operation :: later) = operation.item?.toList ++ inserted later := by
  cases operation <;> rfl

variable [Prioritized α]

/-- Those who wait, in the order of their arrival: whoever is inserted comes last, and the best
one leaves first. -/
def waitingAfter (waiting : List α) : ListOperation α → List α
  | insert item => waiting ++ [item]
  | popFront => ((takeBest waiting).map Prod.snd).getD []

end ListOperation

namespace WaitingList

variable {α : Type} [Prioritized α]

/-- Performs an operation, which may take an item out. -/
def perform (list : WaitingList α) : ListOperation α → Option α × WaitingList α
  | .insert item => (none, list.insert item)
  | .popFront => list.popFront

/-- The items that leave in a run, in order, and the list after the run. -/
def run (list : WaitingList α) : List (ListOperation α) → List α × WaitingList α
  | [] => ([], list)
  | operation :: later =>
      let (left?, next) := list.perform operation
      let (others, last) := next.run later
      (left?.toList ++ others, last)

/-! ## Inserting -/

/-- In a descending list an item joins those of its priority as the last one. -/
theorem insert_descending (item : α) {items : List α} (descending : IsDescending items) :
    IsDescending ((⟨items⟩ : WaitingList α).insert item).items ∧
      ∀ level, ofPriority level ((⟨items⟩ : WaitingList α).insert item).items =
        ofPriority level (items ++ [item]) := by
  induction items with
  | nil => exact ⟨List.pairwise_singleton .., fun _ => rfl⟩
  | cons first others ih =>
      obtain ⟨behind, rest⟩ := List.pairwise_cons.mp descending
      by_cases notHigher : priority item ≤ priority first
      · obtain ⟨ordered, joined⟩ := ih rest
        rw [insert_cons_of_le notHigher]
        constructor
        · refine List.pairwise_cons.mpr ⟨?_, ordered⟩
          intro other member
          rcases List.mem_cons.mp ((items_insert_perm item ⟨others⟩).mem_iff.mp member) with
            rfl | old
          · exact notHigher
          · exact behind other old
        · intro level
          simp only [List.cons_append, ofPriority_cons, joined level]
      · have lower : ∀ other ∈ first :: others, priority other < priority item := by
          intro other member
          have above : priority other ≤ priority first := by
            rcases List.mem_cons.mp member with rfl | old
            · exact Int.le_refl _
            · exact behind other old
          rw [Priority.le_iff] at notHigher above
          rw [Priority.lt_iff]
          omega
        have front : insert item (⟨first :: others⟩ : WaitingList α) =
            ⟨item :: first :: others⟩ := insert_of_lower lower
        rw [front]
        constructor
        · refine List.pairwise_cons.mpr ⟨?_, descending⟩
          intro other member
          exact Int.le_of_lt (lower other member)
        · intro level
          rw [ofPriority_append, ofPriority_cons level item (first :: others),
            ofPriority_cons level item []]
          by_cases own : priority item = level
          · rw [ofPriority_eq_nil_of_lower (own ▸ lower), if_pos own, if_pos own]
            rfl
          · rw [if_neg own, if_neg own]
            exact (List.append_nil _).symm

/-- What was inserted in the order of arrival stands in the order of the stable sort. -/
theorem arranged_eq_sortedByPriority (waiting : List α) :
    arranged waiting = ⟨sortedByPriority waiting⟩ := by
  have arrangement : IsDescending (arranged waiting).items ∧
      ∀ level, ofPriority level (arranged waiting).items = ofPriority level waiting := by
    induction waiting using List.reverseRecOn with
    | nil => exact ⟨List.Pairwise.nil, fun _ => rfl⟩
    | append_singleton front last ih =>
        obtain ⟨descending, same⟩ := ih
        rw [arranged_append_singleton]
        obtain ⟨ordered, joined⟩ := insert_descending last descending
        refine ⟨ordered, ?_⟩
        intro level
        rw [joined, ofPriority_append, same, ofPriority_append]
  obtain ⟨descending, same⟩ := arrangement
  refine congrArg mk (descending.eq_of_ofPriority (isDescending_sortedByPriority waiting) ?_)
  intro level
  rw [same, ofPriority_sortedByPriority]

/-! ## Steps -/

/-- The best of those who wait leaves the arranged list, and leaves the others arranged. -/
theorem popFront_arranged (waiting : List α) :
    waiting = [] ∧ (arranged waiting).popFront = (none, arranged []) ∨
      ∃ before best after, waiting = before ++ best :: after ∧
        (∀ item ∈ before, priority item < priority best) ∧
        (∀ item ∈ after, priority item ≤ priority best) ∧
        ListOperation.waitingAfter waiting .popFront = before ++ after ∧
        (arranged waiting).popFront = (some best, arranged (before ++ after)) := by
  cases taken : takeBest waiting with
  | none =>
      obtain rfl := takeBest_eq_none_iff.mp taken
      exact .inl ⟨rfl, rfl⟩
  | some rest =>
      obtain ⟨best, others⟩ := rest
      obtain ⟨before, after, split, rfl, lower, notHigher⟩ := takeBest_split taken
      refine .inr ⟨before, best, after, split, lower, notHigher, ?_, ?_⟩
      · simp [ListOperation.waitingAfter, taken]
      · rw [arranged_of_takeBest taken]
        rfl

/-- An operation keeps the list arranged, and of each priority the first to come leaves. -/
theorem perform_arranged (waiting : List α) (operation : ListOperation α) :
    let outcome := (arranged waiting).perform operation
    let later := operation.waitingAfter waiting
    outcome.2 = arranged later ∧
      ∀ level, ofPriority level (waiting ++ operation.item?.toList) =
        ofPriority level outcome.1.toList ++ ofPriority level later := by
  intro outcome later
  cases operation with
  | insert item =>
      refine ⟨(arranged_append_singleton waiting item).symm, ?_⟩
      intro level
      rfl
  | popFront =>
      rcases popFront_arranged waiting with
        ⟨rfl, nothing⟩ | ⟨before, best, after, split, lower, _, left, taken⟩
      · exact ⟨congrArg Prod.snd nothing, fun _ => rfl⟩
      · have leaves : outcome = (some best, arranged (before ++ after)) := taken
        have stays : later = before ++ after := left
        rw [leaves, stays, split]
        refine ⟨rfl, ?_⟩
        intro level
        simp only [ListOperation.item?, Option.toList_none, Option.toList_some, List.append_nil,
          ofPriority_append, ofPriority_cons]
        by_cases own : priority best = level
        · rw [ofPriority_eq_nil_of_lower (own ▸ lower), if_pos own, if_pos own]
          rfl
        · rw [if_neg own, if_neg own]
          rfl

/-! ## Runs -/

theorem run_cons (list : WaitingList α) (operation : ListOperation α)
    (later : List (ListOperation α)) :
    list.run (operation :: later) =
      ((list.perform operation).1.toList ++ ((list.perform operation).2.run later).1,
        ((list.perform operation).2.run later).2) :=
  rfl

/-- A run keeps the list arranged, and of each priority those who came first have left. -/
theorem run_arranged (waiting : List α) (operations : List (ListOperation α)) :
    let outcome := (arranged waiting).run operations
    let later := operations.foldl ListOperation.waitingAfter waiting
    outcome.2 = arranged later ∧
      ∀ level, ofPriority level (waiting ++ ListOperation.inserted operations) =
        ofPriority level outcome.1 ++ ofPriority level later := by
  induction operations generalizing waiting with
  | nil => exact ⟨rfl, fun level => by simp [run, ListOperation.inserted, ofPriority]⟩
  | cons operation rest ih =>
      obtain ⟨next, joined⟩ := perform_arranged waiting operation
      obtain ⟨last, kept⟩ := ih (operation.waitingAfter waiting)
      rw [run_cons, next]
      refine ⟨last, ?_⟩
      intro level
      calc
        ofPriority level (waiting ++ ListOperation.inserted (operation :: rest))
            = ofPriority level (waiting ++ operation.item?.toList) ++
                ofPriority level (ListOperation.inserted rest) := by
              rw [← ofPriority_append, List.append_assoc, ListOperation.inserted_cons]
        _ = ofPriority level ((arranged waiting).perform operation).1.toList ++
              ofPriority level
                (operation.waitingAfter waiting ++ ListOperation.inserted rest) := by
              rw [joined, List.append_assoc, ofPriority_append]
        _ = _ := by rw [kept, List.foldl_cons, ofPriority_append, List.append_assoc]

theorem run_append (list : WaitingList α) (first second : List (ListOperation α)) :
    list.run (first ++ second) =
      ((list.run first).1 ++ ((list.run first).2.run second).1,
        ((list.run first).2.run second).2) := by
  induction first generalizing list with
  | nil => rfl
  | cons operation later ih => simp [run, ih, List.append_assoc]

theorem run_inserts (waiting items : List α) :
    (arranged waiting).run (items.map .insert) = ([], arranged (waiting ++ items)) := by
  induction items generalizing waiting with
  | nil => simp [run]
  | cons item later ih =>
      simp [run, perform, ← arranged_append_singleton, ih, List.append_assoc]

/-- As many removals as there are items hand the list out from head to tail. -/
theorem run_removals (items : List α) :
    (⟨items⟩ : WaitingList α).run (List.replicate items.length .popFront) = (items, {}) := by
  induction items with
  | nil => rfl
  | cons first others ih => simp [run, perform, popFront, List.replicate_succ, ih]

/-! ## Stable queues -/

/-- After any run a list is the stable sort of those that wait, and of each priority those that
came first have left.  Of those that wait, the earliest one with the greatest priority leaves next.
A new item goes where a scan would put it, with or without a scan, and items that are inserted
before any is removed leave in the order of their stable sort. -/
theorem run_stable_sort (operations : List (ListOperation α)) :
    let outcome := ({} : WaitingList α).run operations
    let waiting := operations.foldl ListOperation.waitingAfter []
    outcome.2.items = sortedByPriority waiting ∧ IsDescending outcome.2.items ∧
      (∀ level, ofPriority level (ListOperation.inserted operations) =
        ofPriority level outcome.1 ++ ofPriority level outcome.2.items) ∧
      (waiting = [] ∧ outcome.2.popFront = (none, {}) ∨
        ∃ before best after, waiting = before ++ best :: after ∧
          (∀ item ∈ before, priority item < priority best) ∧
          (∀ item ∈ after, priority item ≤ priority best) ∧
          outcome.2.popFront = (some best, ⟨sortedByPriority (before ++ after)⟩)) ∧
      (∀ item, outcome.2.position item = scanPosition (priority item) outcome.2.items) ∧
      ∀ items : List α, ({} : WaitingList α).run
        (items.map .insert ++ List.replicate items.length .popFront) =
          (sortedByPriority items, {}) := by
  intro outcome waiting
  obtain ⟨last, kept⟩ := run_arranged ([] : List α) operations
  have stands : outcome.2 = ⟨sortedByPriority waiting⟩ :=
    last.trans (arranged_eq_sortedByPriority waiting)
  refine ⟨congrArg items stands, ?_, ?_, ?_,
    fun item => position_eq_scanPosition item outcome.2, ?_⟩
  · rw [stands]
    exact isDescending_sortedByPriority waiting
  · intro level
    rw [stands, ofPriority_sortedByPriority]
    exact kept level
  · have arrangement : outcome.2 = arranged waiting := last
    rw [arrangement]
    rcases popFront_arranged waiting with
      empty | ⟨before, best, after, split, lower, notHigher, _, taken⟩
    · exact .inl empty
    · rw [arranged_eq_sortedByPriority (before ++ after)] at taken
      exact .inr ⟨before, best, after, split, lower, notHigher, taken⟩
  · intro items
    have filled : ({} : WaitingList α).run (items.map .insert) =
        ([], ⟨sortedByPriority items⟩) := by
      rw [← arranged_eq_sortedByPriority]
      exact run_inserts [] items
    have many : items.length = (sortedByPriority items).length :=
      (List.length_mergeSort items).symm
    rw [run_append, filled, many, run_removals, List.nil_append]

example :
    let request (payload : String) (priority : Priority) : Request Nat String :=
      ⟨7, priority, payload⟩
    (run {} [.insert (request "first" .least), .insert (request "second" .usual), .popFront,
      .insert (request "third" .least), .insert (request "fourth" .usual), .popFront,
      .popFront, .popFront, .popFront]).1.map Request.payload =
        ["second", "fourth", "first", "third"] := by
  decide

end WaitingList

end KeyedBatching
