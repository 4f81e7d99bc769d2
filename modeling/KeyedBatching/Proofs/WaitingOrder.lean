import KeyedBatching.Proofs.WaitingRoomContents
import Mathlib.Data.List.Induction

/-!
# Who leaves a waiting list first

Among items in the order of their arrival, the next to leave is the one with the
greatest priority, the earliest among equals.  A waiting list keeps its items
arranged so that this one stands at the head: taking the best out of the arrivals
and taking the head off the arranged list are the same, and what is left behind
is arranged again.
-/

namespace KeyedBatching

open Prioritized

/-! ## The best of the arrivals -/

section Arrivals

variable {α : Type} [Prioritized α]

/-- Takes the item with the greatest priority out, the earliest one among equals. -/
def takeBest : List α → Option (α × List α)
  | [] => none
  | item :: later =>
      match takeBest later with
      | none => some (item, later)
      | some (best, others) =>
          if priority item < priority best then some (best, item :: others)
          else some (item, later)

theorem takeBest_eq_none_iff {items : List α} : takeBest items = none ↔ items = [] := by
  cases items with
  | nil => simp [takeBest]
  | cons item later =>
      simp only [takeBest, reduceCtorEq, iff_false]
      split
      · simp
      · split <;> simp

/-- Everything in front of the best item has a lower priority, and nothing behind it has a
higher one. -/
theorem takeBest_split {items others : List α} {best : α}
    (taken : takeBest items = some (best, others)) :
    ∃ before after, items = before ++ best :: after ∧ others = before ++ after ∧
      (∀ item ∈ before, priority item < priority best) ∧
      ∀ item ∈ after, priority item ≤ priority best := by
  induction items generalizing best others with
  | nil => simp [takeBest] at taken
  | cons item later ih =>
      cases found : takeBest later with
      | none =>
          obtain rfl := takeBest_eq_none_iff.mp found
          obtain ⟨rfl, rfl⟩ : item = best ∧ [] = others := by simpa [takeBest] using taken
          exact ⟨[], [], rfl, rfl, by simp, by simp⟩
      | some rest =>
          obtain ⟨second, remaining⟩ := rest
          obtain ⟨before, after, split, left, lower, notHigher⟩ := ih found
          by_cases less : priority item < priority second
          · obtain ⟨rfl, rfl⟩ : second = best ∧ item :: remaining = others := by
              simpa [takeBest, found, less] using taken
            refine ⟨item :: before, after, by simp [split], by simp [left], ?_, notHigher⟩
            simpa [less] using lower
          · obtain ⟨rfl, rfl⟩ : item = best ∧ later = others := by
              simpa [takeBest, found, less] using taken
            refine ⟨[], later, rfl, rfl, by simp, ?_⟩
            intro other member
            have bound : priority second ≤ priority item := by
              simp only [Priority.lt_iff, Priority.le_iff] at less ⊢
              omega
            rw [split] at member
            rcases List.mem_append.mp member with front | rest
            · have := lower other front
              simp only [Priority.lt_iff, Priority.le_iff] at this bound ⊢
              omega
            · rcases List.mem_cons.mp rest with rfl | back
              · exact bound
              · have := notHigher other back
                simp only [Priority.le_iff] at this bound ⊢
                omega

end Arrivals

/-! ## Arranging by priority -/

namespace WaitingList

variable {α : Type} [Prioritized α]

/-- The list of some items that were inserted in the order of their arrival. -/
def arranged (items : List α) : WaitingList α :=
  items.foldl (fun list item => list.insert item) {}

theorem arranged_append_singleton (items : List α) (item : α) :
    arranged (items ++ [item]) = (arranged items).insert item := by
  simp [arranged]

theorem mem_arranged {items : List α} {item : α} :
    item ∈ (arranged items).items ↔ item ∈ items := by
  induction items using List.reverseRecOn with
  | nil => simp [arranged]
  | append_singleton front last ih =>
      rw [arranged_append_singleton, (items_insert_perm last _).mem_iff]
      simp [ih, or_comm]

/-- An item that is more urgent than all others goes to the head. -/
theorem insert_of_lower {list : WaitingList α} {item : α}
    (lower : ∀ other ∈ list.items, priority other < priority item) :
    list.insert item = ⟨item :: list.items⟩ := by
  have front : list.position item = 0 := by
    rw [position_eq_scanPosition]
    cases items : list.items with
    | nil => rfl
    | cons first others =>
        have first_lt : priority first < priority item := lower first (by simp [items])
        simp [scanPosition, List.findIdx_cons, first_lt]
  simp [insert, front]

/-- An item that is not more urgent than the head leaves the head in its place. -/
theorem insert_cons_of_le {first item : α} {others : List α}
    (le : priority item ≤ priority first) :
    (⟨first :: others⟩ : WaitingList α).insert item =
      ⟨first :: ((⟨others⟩ : WaitingList α).insert item).items⟩ := by
  have behind : ¬ priority first < priority item := by
    simp only [Priority.le_iff, Priority.lt_iff] at le ⊢
    omega
  have position : (⟨first :: others⟩ : WaitingList α).position item =
      (⟨others⟩ : WaitingList α).position item + 1 := by
    simp [position_eq_scanPosition, scanPosition, List.findIdx_cons, behind]
  simp [insert, position]

theorem foldl_insert_cons {first : α} {later : List α} (others : List α)
    (le : ∀ item ∈ later, priority item ≤ priority first) :
    later.foldl (fun list item => list.insert item) (⟨first :: others⟩ : WaitingList α) =
      ⟨first :: (later.foldl (fun list item => list.insert item)
        (⟨others⟩ : WaitingList α)).items⟩ := by
  induction later generalizing others with
  | nil => rfl
  | cons item rest ih =>
      simp only [List.mem_cons, forall_eq_or_imp] at le
      rw [List.foldl_cons, insert_cons_of_le le.1, ih _ le.2]
      rfl

/-- An item that is more urgent than all before it and not less urgent than any behind it heads
the arranged list. -/
theorem arranged_of_split {before after : List α} {best : α}
    (lower : ∀ item ∈ before, priority item < priority best)
    (notHigher : ∀ item ∈ after, priority item ≤ priority best) :
    arranged (before ++ best :: after) = ⟨best :: (arranged (before ++ after)).items⟩ := by
  have front : (arranged before).insert best = ⟨best :: (arranged before).items⟩ :=
    insert_of_lower fun other member => lower other (mem_arranged.mp member)
  calc
    arranged (before ++ best :: after)
        = after.foldl (fun list item => list.insert item) ((arranged before).insert best) := by
          simp [arranged]
    _ = after.foldl (fun list item => list.insert item) ⟨best :: (arranged before).items⟩ := by
          rw [front]
    _ = ⟨best :: (arranged (before ++ after)).items⟩ := by
          rw [foldl_insert_cons _ notHigher]
          simp [arranged]

/-- The best of the arrivals heads the arranged list, and the others stand arranged behind
it. -/
theorem arranged_of_takeBest {items others : List α} {best : α}
    (taken : takeBest items = some (best, others)) :
    arranged items = ⟨best :: (arranged others).items⟩ := by
  obtain ⟨before, after, rfl, rfl, lower, notHigher⟩ := takeBest_split taken
  exact arranged_of_split lower notHigher

end WaitingList

/-! ## The waiters of a key -/

namespace WaitingRoom

variable {K P : Type} [DecidableEq K]

/-- The requests that wait for a key, the next to leave first. -/
def waitersOf (room : WaitingRoom K P) (key : K) : List (Request K P) :=
  ((room.lists.get? key).getD {}).items

theorem waitersOf_ne_nil {room : WaitingRoom K P} (sound : room.IsSound) {key : K}
    (held : room.contains key = true) : room.waitersOf key ≠ [] := by
  obtain ⟨list, found⟩ := Option.isSome_iff_exists.mp held
  obtain ⟨before, after, split, _⟩ := KeyTable.find_eq_some_split found
  have within : (key, list) ∈ room.lists.entries := by simp [split]
  rw [waitersOf, found]
  exact sound.listsNonempty _ within

theorem waitersOf_enqueue (room : WaitingRoom K P) (request : Request K P) (key : K) :
    (room.enqueue request).waitersOf key =
      if key = request.key then ((⟨room.waitersOf key⟩ : WaitingList _).insert request).items
      else room.waitersOf key := by
  simp only [waitersOf, enqueue, KeyTable.get?_put]
  by_cases same : key = request.key
  · subst same
    simp
  · simp [same]

/-- The first waiter of the key leaves, if there is one. -/
theorem unblockOne_fst (room : WaitingRoom K P) (key : K) :
    (room.unblockOne key).1 = (room.waitersOf key).head? := by
  cases found : room.lists.get? key with
  | none => simp [unblockOne, waitersOf, found]
  | some list =>
      obtain ⟨items⟩ := list
      cases items <;> simp [unblockOne, waitersOf, found, WaitingList.popFront]

/-- Only the waiters of the key are touched. -/
theorem waitersOf_unblockOne (room : WaitingRoom K P) (key other : K) :
    (room.unblockOne key).2.waitersOf other =
      if other = key then (room.waitersOf key).tail else room.waitersOf other := by
  cases found : room.lists.get? key with
  | none =>
      by_cases same : other = key
      · subst same
        simp [unblockOne, waitersOf, found]
      · simp [unblockOne, found, same]
  | some list =>
      obtain ⟨items⟩ := list
      cases items with
      | nil =>
          by_cases same : other = key <;>
            simp [unblockOne, waitersOf, found, same, WaitingList.popFront,
              WaitingList.isEmpty, KeyTable.get?_erase]
      | cons first others =>
          cases others <;> by_cases same : other = key <;>
            simp [unblockOne, waitersOf, found, same, WaitingList.popFront,
              WaitingList.isEmpty, KeyTable.get?_erase, KeyTable.get?_put]

end WaitingRoom

end KeyedBatching
