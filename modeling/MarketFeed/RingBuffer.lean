/-!
A ring of slots between one writer and one reader. Each side counts what it has moved in a word that
wraps, and knows the other side's count only from the last time it had to look. One slot always
stays free, so a ring of `n` slots holds `n - 1` items.
-/

namespace MarketFeed

/-- A ring of slots and the four cursors. The capacity is a power of two from 2 on. -/
structure RingBuffer (α : Type) where
  slots : Array (Option α)
  /-- Items written so far, modulo `2 ^ 64`. -/
  write : UInt64
  /-- Items read so far, modulo `2 ^ 64`. -/
  read : UInt64
  /-- The writer's last look at `read`. -/
  seenRead : UInt64
  /-- The reader's last look at `write`. -/
  seenWrite : UInt64

/-- What became of an item that was to be written: it was stored, over an item still in its slot if
there was one, or it was handed back. -/
inductive PushOutcome (α : Type) where
  | stored (overwritten : Option α)
  | full (item : α)
  deriving DecidableEq

/-- What a read gave: an item, nothing because the ring is empty, or nothing because the slot that
was read held no item. -/
inductive PopOutcome (α : Type) where
  | item (item : α)
  | empty
  | vacant
  deriving DecidableEq

namespace RingBuffer

variable {α : Type}

def empty (n : Nat) : RingBuffer α :=
  { slots := Array.replicate n none, write := 0, read := 0, seenRead := 0, seenWrite := 0 }

def capacity (ring : RingBuffer α) : Nat := ring.slots.size - 1

def slot (ring : RingBuffer α) (cursor : UInt64) : Nat := cursor.toNat % ring.slots.size

/-- How many items the ring holds, as either side counts them. -/
def size (ring : RingBuffer α) : Nat := (ring.write - ring.read).toNat

def isEmpty (ring : RingBuffer α) : Bool := ring.size == 0

def isFull (ring : RingBuffer α) : Bool := ring.capacity ≤ ring.size

/-- Whether the ring looks full to the writer. -/
def looksFull (ring : RingBuffer α) : Bool :=
  ring.capacity ≤ (ring.write - ring.seenRead).toNat

/-- The writer looks at the reader's cursor. -/
def lookAtReader (ring : RingBuffer α) : RingBuffer α := { ring with seenRead := ring.read }

/-- The reader looks at the writer's cursor. -/
def lookAtWriter (ring : RingBuffer α) : RingBuffer α := { ring with seenWrite := ring.write }

/-- Writes an item, unless the ring still looks full after a look at the reader's cursor. -/
def push (ring : RingBuffer α) (item : α) : PushOutcome α × RingBuffer α :=
  let ring := if ring.looksFull then ring.lookAtReader else ring
  if ring.looksFull then (.full item, ring)
  else
    let slot := ring.slot ring.write
    (.stored ring.slots[slot]?.join,
      { ring with
        slots := ring.slots.setIfInBounds slot (some item)
        write := ring.write + 1 })

/-- Reads the oldest item, unless the ring still looks empty after a look at the writer's cursor. -/
def pop (ring : RingBuffer α) : PopOutcome α × RingBuffer α :=
  let ring := if ring.read = ring.seenWrite then ring.lookAtWriter else ring
  if ring.read = ring.seenWrite then (.empty, ring)
  else
    let slot := ring.slot ring.read
    let after :=
      { ring with slots := ring.slots.setIfInBounds slot none, read := ring.read + 1 }
    match ring.slots[slot]?.join with
    | some item => (.item item, after)
    | none => (.vacant, after)

end RingBuffer

end MarketFeed
