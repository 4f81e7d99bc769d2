import KeyedBatching.Batch

/-!
# The active queue

Requests that are ready to leave, in the order of their admission. Items leave
from the head into a container that a factory makes, and the factory is asked
for one only if at least one item moves.
-/

namespace KeyedBatching

/-- Items that are ready to leave, the oldest first. -/
structure ActiveQueue (α : Type) where
  items : List α := []
deriving DecidableEq

namespace ActiveQueue

variable {α : Type}

/-- The number of items. -/
def size (queue : ActiveQueue α) : Nat :=
  queue.items.length

/-- The queue holds no item. -/
def isEmpty (queue : ActiveQueue α) : Bool :=
  queue.items.isEmpty

/-- The queue with one more item at its end. -/
def push (queue : ActiveQueue α) (item : α) : ActiveQueue α :=
  ⟨queue.items ++ [item]⟩

/-- Moves up to `count` items from the head into a container that the factory makes. -/
def popInto {C : Type} {m : Type → Type} [Monad m] [Container C α] (queue : ActiveQueue α)
    (count : Nat) (factory : m C) : m (Option C × ActiveQueue α) :=
  let moved := min count queue.size
  if moved = 0 then pure (none, queue)
  else do
    let container ← factory
    pure (some (Container.offerAll container (queue.items.take moved)),
      ⟨queue.items.drop moved⟩)

@[simp] theorem items_push (queue : ActiveQueue α) (item : α) :
    (queue.push item).items = queue.items ++ [item] :=
  rfl

/-- Nothing to move: no container is made and the queue stays. -/
theorem popInto_nothing {C : Type} {m : Type → Type} [Monad m] [Container C α]
    {queue : ActiveQueue α} {count : Nat} (nothing : min count queue.size = 0) (factory : m C) :
    queue.popInto count factory = pure (none, queue) := by
  simp [popInto, nothing]

end ActiveQueue

end KeyedBatching
