/-!
# Batches

Requests leave the active queue into a container. A list is one, and so is a
batch, which also carries the generation of the window that it was taken from.
-/

namespace KeyedBatching

/-- Things that accept items one by one and keep their order. -/
class Container (C : Type) (α : outParam Type) where
  offer : C → α → C
  items : C → List α

namespace Container

variable {C α : Type} [Container C α]

/-- The number of items in a container. -/
def size (container : C) : Nat :=
  (items container).length

/-- The container holds nothing. -/
def isEmpty (container : C) : Bool :=
  size container = 0

/-- Offers the items of a list in order. -/
def offerAll (container : C) (incoming : List α) : C :=
  incoming.foldl offer container

end Container

instance {α : Type} : Container (List α) α :=
  ⟨fun items item => items ++ [item], id⟩

/-- Requests that leave together, and the generation of their window. -/
structure Batch (α : Type) where
  requests : List α := []
  generation : Nat := 0
deriving DecidableEq

namespace Batch

variable {α : Type}

/-- The number of requests in a batch. -/
def size (batch : Batch α) : Nat :=
  batch.requests.length

/-- The batch holds no request. -/
def isEmpty (batch : Batch α) : Bool :=
  batch.requests.isEmpty

end Batch

instance {α : Type} : Container (Batch α) α :=
  ⟨fun batch item => { batch with requests := batch.requests ++ [item] }, Batch.requests⟩

theorem offerAll_list {α : Type} (items incoming : List α) :
    Container.offerAll items incoming = items ++ incoming := by
  induction incoming generalizing items with
  | nil => simp [Container.offerAll]
  | cons item rest ih =>
      have step := ih (items ++ [item])
      simpa [Container.offerAll, Container.offer] using step

theorem offerAll_batch {α : Type} (batch : Batch α) (incoming : List α) :
    Container.offerAll batch incoming =
      { batch with requests := batch.requests ++ incoming } := by
  induction incoming generalizing batch with
  | nil => simp [Container.offerAll]
  | cons item rest ih =>
      have step := ih { batch with requests := batch.requests ++ [item] }
      simpa [Container.offerAll, Container.offer] using step

end KeyedBatching
