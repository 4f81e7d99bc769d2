import KeyedBatching.KeyTable
import KeyedBatching.WaitingList

/-!
# The waiting room

Requests whose key is busy, in one waiting list for each key. A key has a list
only while a request of it waits, and a running total counts all of them.
-/

namespace KeyedBatching

/-- The waiting lists by key, and the number of requests in all of them. -/
structure WaitingRoom (K P : Type) where
  lists : KeyTable K (WaitingList (Request K P)) := {}
  size : Nat := 0
deriving DecidableEq

namespace WaitingRoom

variable {K P : Type}

/-- No request waits. -/
def isEmpty (room : WaitingRoom K P) : Bool :=
  room.size = 0

/-- The number of keys with a waiting request. -/
def keyCount (room : WaitingRoom K P) : Nat :=
  room.lists.size

variable [DecidableEq K]

/-- Parks a request behind the others of its key, by priority. -/
def enqueue (room : WaitingRoom K P) (request : Request K P) : WaitingRoom K P :=
  let list := (room.lists.get? request.key).getD {}
  { lists := room.lists.put request.key (list.insert request), size := room.size + 1 }

/-- Takes the first waiting request of a key; a list that empties leaves with it. -/
def unblockOne (room : WaitingRoom K P) (key : K) :
    Option (Request K P) × WaitingRoom K P :=
  match room.lists.get? key with
  | none => (none, room)
  | some list =>
      let (request, rest) := list.popFront
      let lists := if rest.isEmpty then room.lists.erase key else room.lists.put key rest
      (request, { lists, size := if request.isSome then room.size - 1 else room.size })

/-- The number of waiting requests of a key. -/
def countFor (room : WaitingRoom K P) (key : K) : Nat :=
  ((room.lists.get? key).map WaitingList.size).getD 0

/-- A request of the key waits. -/
def contains (room : WaitingRoom K P) (key : K) : Bool :=
  room.lists.contains key

end WaitingRoom

end KeyedBatching
