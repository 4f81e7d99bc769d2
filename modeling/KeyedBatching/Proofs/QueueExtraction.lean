import KeyedBatching.ActiveQueue

/-!
# Extraction from the active queue

Items join the queue and leave it into containers of several kinds, which may hold
items of their own.  A pop that moves nothing makes no container; any other makes one
and puts the items at the head of the queue behind what it holds.  So what leaves
depends on the counts alone, and nothing is lost, doubled or overtaken.
-/

namespace KeyedBatching

variable {C D E α : Type}

/-! ## Containers -/

namespace Container

/-- Containers of this kind keep what they hold and put every further item behind it. -/
class IsOrderly (C : Type) (α : outParam Type) [Container C α] : Prop where
  items_offer (container : C) (item : α) :
    items (offer container item) = items container ++ [item]

instance : IsOrderly (List α) α :=
  ⟨fun _ _ => rfl⟩

instance : IsOrderly (Batch α) α :=
  ⟨fun _ _ => rfl⟩

/-- The items that a container has received between two moments. -/
def received [Container C α] (before after : C) : List α :=
  (items after).drop (items before).length

variable [Container C α] [IsOrderly C α]

theorem items_offerAll (container : C) (incoming : List α) :
    items (offerAll container incoming) = items container ++ incoming := by
  induction incoming generalizing container with
  | nil => simp [offerAll]
  | cons item rest ih =>
      have step := ih (offer container item)
      simpa [offerAll, IsOrderly.items_offer] using step

theorem received_offerAll (container : C) (incoming : List α) :
    received container (offerAll container incoming) = incoming := by
  rw [received, items_offerAll, List.drop_left]

end Container

/-! ## Single pops -/

namespace ActiveQueue

variable {queue : ActiveQueue α} {count : Nat}

/-- Some item moves exactly if the count and the queue allow it. -/
theorem min_size_eq_zero_iff : min count queue.size = 0 ↔ count = 0 ∨ queue.isEmpty = true := by
  rw [Nat.min_eq_zero_iff]
  simp [size, isEmpty]

/-- Something to move: the factory is asked once, and nothing else happens on the way. -/
theorem popInto_something {m : Type → Type} [Monad m] [LawfulMonad m] [Container C α]
    (something : min count queue.size ≠ 0) (factory : m C) :
    queue.popInto count factory =
      (fun container =>
        (some (Container.offerAll container (queue.items.take (min count queue.size))),
          ⟨queue.items.drop (min count queue.size)⟩)) <$> factory := by
  simp only [popInto, if_neg something, map_eq_pure_bind]

/-- A factory that counts how often it is asked. -/
def countingFactory (container : C) : StateM Nat C := do
  modify (· + 1)
  pure container

/-- The answer of a pop, the queue after it, and how often its factory was asked. -/
def extract [Container C α] (queue : ActiveQueue α) (count : Nat) (container : C) :
    (Option C × ActiveQueue α) × Nat :=
  (queue.popInto count (countingFactory container)).run 0

theorem extract_eq [Container C α] (queue : ActiveQueue α) (count : Nat) (container : C) :
    queue.extract count container =
      if count = 0 ∨ queue.isEmpty = true then ((none, queue), 0)
      else
        ((some (Container.offerAll container (queue.items.take (min count queue.size))),
          ⟨queue.items.drop (min count queue.size)⟩), 1) := by
  split
  next nothing => rw [extract, popInto_nothing (min_size_eq_zero_iff.mpr nothing)]; rfl
  next something => rw [extract, popInto_something (mt min_size_eq_zero_iff.mp something)]; rfl

end ActiveQueue

/-! ## Runs -/

/-- What happens to an active queue; a pop comes with what its factory makes. -/
inductive QueueOperation (C α : Type) where
  | push (item : α)
  | pop (count : Nat) (container : C)
deriving DecidableEq

namespace QueueOperation

/-- The same operation with a container of another kind. -/
def into (kind : E → C) : QueueOperation E α → QueueOperation C α
  | push item => push item
  | pop count container => pop count (kind container)

/-- The item that an operation adds. -/
def pushed? : QueueOperation C α → Option α
  | push item => some item
  | pop _ _ => none

@[simp] theorem pushed?_into (operation : QueueOperation E α) (kind : E → C) :
    (operation.into kind).pushed? = operation.pushed? := by
  cases operation <;> rfl

end QueueOperation

namespace ActiveQueue

/-- What an operation moves, one list for a pop, and the queue after it. -/
def perform [Container C α] (queue : ActiveQueue α) :
    QueueOperation C α → List (List α) × ActiveQueue α
  | .push item => ([], queue.push item)
  | .pop count container =>
      let outcome := (queue.extract count container).1
      ([(outcome.1.map (Container.received container)).getD []], outcome.2)

/-- What some operations move, one list for each pop, and the queue after them. -/
def run [Container C α] (queue : ActiveQueue α) :
    List (QueueOperation C α) → List (List α) × ActiveQueue α
  | [] => ([], queue)
  | operation :: later =>
      let (moved, next) := queue.perform operation
      let (others, last) := run next later
      (moved ++ others, last)

variable [Container C α] [Container.IsOrderly C α] [Container D α] [Container.IsOrderly D α]

theorem perform_pop (queue : ActiveQueue α) (count : Nat) (container : C) :
    queue.perform (.pop count container) =
      ([queue.items.take (min count queue.size)], ⟨queue.items.drop (min count queue.size)⟩) := by
  simp only [perform, extract_eq]
  split
  next nothing => simp [min_size_eq_zero_iff.mpr nothing]
  next => simp [Container.received_offerAll]

theorem perform_conserves (queue : ActiveQueue α) (operation : QueueOperation C α) :
    (queue.perform operation).1.flatten ++ (queue.perform operation).2.items =
      queue.items ++ operation.pushed?.toList := by
  cases operation with
  | push item => rfl
  | pop count container => simp [perform_pop, QueueOperation.pushed?]

/-- What has left, followed by what waits, is what there was, followed by what came. -/
theorem run_conserves (queue : ActiveQueue α) (operations : List (QueueOperation C α)) :
    (queue.run operations).1.flatten ++ (queue.run operations).2.items =
      queue.items ++ operations.filterMap QueueOperation.pushed? := by
  induction operations generalizing queue with
  | nil => simp [run]
  | cons operation later ih =>
      calc
        _ = (queue.perform operation).1.flatten ++
              (((queue.perform operation).2.run later).1.flatten ++
                ((queue.perform operation).2.run later).2.items) := by
          simp [run]
        _ = ((queue.perform operation).1.flatten ++ (queue.perform operation).2.items) ++
              later.filterMap QueueOperation.pushed? := by
          rw [ih, List.append_assoc]
        _ = _ := by
          rw [perform_conserves]
          cases operation <;> simp [QueueOperation.pushed?, List.filterMap_cons]

theorem perform_into (queue : ActiveQueue α) (operation : QueueOperation E α) (first : E → C)
    (second : E → D) :
    queue.perform (operation.into first) = queue.perform (operation.into second) := by
  cases operation with
  | push item => rfl
  | pop count container => simp only [QueueOperation.into, perform_pop]

/-- The kind of the containers plays no part in what moves. -/
theorem run_into (queue : ActiveQueue α) (operations : List (QueueOperation E α)) (first : E → C)
    (second : E → D) :
    queue.run (operations.map (QueueOperation.into first)) =
      queue.run (operations.map (QueueOperation.into second)) := by
  induction operations generalizing queue with
  | nil => rfl
  | cons operation later ih =>
      simp only [List.map_cons, run, perform_into queue operation first second, ih]

/-- Every history of an active queue, with lists and with batches that may hold items of their own.
Both kinds receive the same items, and these, followed by the queue, are the items that were
pushed, in their order.  At any moment of it, a pop of nothing or from nothing has no answer, asks
for no container and leaves the queue as it is; any other asks once, and moves the items at the
head, as many as there are up to the count, behind those of the container. -/
theorem run_extracts (history : List (QueueOperation (List α × Batch α) α)) :
    let lists := ({} : ActiveQueue α).run (history.map (QueueOperation.into Prod.fst))
    let batches := ({} : ActiveQueue α).run (history.map (QueueOperation.into Prod.snd))
    let queue := lists.2
    batches = lists ∧
      lists.1.flatten ++ queue.items = history.filterMap QueueOperation.pushed? ∧
      ∀ (count : Nat) (list : List α) (batch : Batch α),
        let head := queue.items.take (min count queue.size)
        let rest : ActiveQueue α := ⟨queue.items.drop (min count queue.size)⟩
        (queue.extract count list =
          if count = 0 ∨ queue.isEmpty = true then ((none, queue), 0)
          else ((some (list ++ head), rest), 1)) ∧
        (queue.extract count batch =
          if count = 0 ∨ queue.isEmpty = true then ((none, queue), 0)
          else ((some { batch with requests := batch.requests ++ head }, rest), 1)) := by
  intro lists batches queue
  refine ⟨run_into {} history Prod.snd Prod.fst, ?_, ?_⟩
  · have conserved := run_conserves {} (history.map (QueueOperation.into Prod.fst))
    simpa [List.filterMap_map, Function.comp_def] using conserved
  · intro count list batch head rest
    exact ⟨by rw [extract_eq, offerAll_list], by rw [extract_eq, offerAll_batch]⟩

end ActiveQueue

end KeyedBatching
