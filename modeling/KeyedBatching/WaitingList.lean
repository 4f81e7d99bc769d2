import KeyedBatching.Request

/-!
# Waiting lists

Items by descending priority. An item goes behind every item of its own or a
higher priority, so equal priorities leave in the order of arrival.
-/

namespace KeyedBatching

/-- Items that wait, the next to leave at the head. -/
structure WaitingList (α : Type) where
  items : List α := []
deriving DecidableEq

namespace WaitingList

variable {α : Type}

/-- The next item to leave, and the list without it. -/
def popFront (list : WaitingList α) : Option α × WaitingList α :=
  match list.items with
  | [] => (none, list)
  | first :: rest => (some first, ⟨rest⟩)

/-- The next item to leave. -/
def peek (list : WaitingList α) : Option α :=
  list.items.head?

/-- The number of items. -/
def size (list : WaitingList α) : Nat :=
  list.items.length

/-- No item waits. -/
def isEmpty (list : WaitingList α) : Bool :=
  list.items.isEmpty

variable [Prioritized α]

/-- The number of items in front of the first one with a lower priority. -/
def scanPosition (priority : Priority) (items : List α) : Nat :=
  items.findIdx fun existing => decide (Prioritized.priority existing < priority)

/-- Where a new item goes: an empty list and the least priority need no scan. -/
def position (item : α) (list : WaitingList α) : Nat :=
  if list.items.isEmpty || (Prioritized.priority item).isLeast then list.items.length
  else scanPosition (Prioritized.priority item) list.items

/-- The list with one more item. -/
def insert (item : α) (list : WaitingList α) : WaitingList α :=
  ⟨list.items.take (list.position item) ++ item :: list.items.drop (list.position item)⟩

theorem scanPosition_le_length (priority : Priority) (items : List α) :
    scanPosition priority items ≤ items.length :=
  List.findIdx_le_length

/-- The positions that need no scan are those that a scan would find. -/
theorem position_eq_scanPosition (item : α) (list : WaitingList α) :
    list.position item = scanPosition (Prioritized.priority item) list.items := by
  unfold position
  split
  · rename_i noScan
    rw [Bool.or_eq_true] at noScan
    rcases noScan with empty | isLeast
    · rw [List.isEmpty_iff.1 empty]
      rfl
    · have least : Prioritized.priority item = Priority.least := by
        simpa [Priority.isLeast] using isLeast
      rw [scanPosition, least, List.findIdx_eq_length.2]
      intro existing _
      simpa using Priority.not_lt_least (Prioritized.priority existing)
  · rfl

theorem size_insert (item : α) (list : WaitingList α) :
    (list.insert item).size = list.size + 1 := by
  have := scanPosition_le_length (Prioritized.priority item) list.items
  simp only [size, insert, List.length_append, List.length_take, List.length_cons,
    List.length_drop, position_eq_scanPosition]
  omega

end WaitingList

end KeyedBatching
