/-!
First-in first-out queues that hold no more than a fixed number of items.
-/

namespace MarketFeed

/-- A queue, the oldest item first, and the most items it may hold. -/
structure BoundedQueue (α : Type) where
  limit : Nat
  items : List α
  deriving DecidableEq

namespace BoundedQueue

variable {α : Type}

def empty (limit : Nat) : BoundedQueue α := ⟨limit, []⟩

def size (queue : BoundedQueue α) : Nat := queue.items.length

def isFull (queue : BoundedQueue α) : Bool := queue.limit ≤ queue.size

/-- The queue with one more item behind, unless it is full. -/
def push? (queue : BoundedQueue α) (item : α) : Option (BoundedQueue α) :=
  if queue.isFull then none else some { queue with items := queue.items ++ [item] }

/-- The oldest item and the queue without it. -/
def pop? (queue : BoundedQueue α) : Option (α × BoundedQueue α) :=
  match queue.items with
  | [] => none
  | item :: rest => some (item, { queue with items := rest })

end BoundedQueue

end MarketFeed
