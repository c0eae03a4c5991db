/-!
A fixed pool of values, lent out slot by slot. A search for a free slot starts one slot further each
time and goes round once; a slot keeps its value from one holder to the next.
-/

namespace MarketFeed

/-- A value and whether it is lent out. -/
structure PoolSlot (α : Type) where
  inUse : Bool
  value : α
  deriving DecidableEq

/-- The slots, and how often a slot was asked for, modulo `2 ^ 64`. -/
structure SlotPool (α : Type) where
  slots : Array (PoolSlot α)
  cursor : UInt64

namespace SlotPool

variable {α : Type}

/-- A pool of `n` free slots with given values. -/
def ofFn (n : Nat) (value : Nat → α) : SlotPool α :=
  { slots := Array.ofFn fun i : Fin n => ⟨false, value i⟩, cursor := 0 }

def capacity (pool : SlotPool α) : Nat := pool.slots.size

def available (pool : SlotPool α) : Nat := (pool.slots.toList.filter (!·.inUse)).length

def isFree (pool : SlotPool α) (index : Nat) : Bool :=
  pool.slots[index]?.any (!·.inUse)

def value? (pool : SlotPool α) (index : Nat) : Option α := pool.slots[index]?.map (·.value)

/-- The slots in the order in which a search looks at them. The sum wraps before the remainder. -/
def probes (pool : SlotPool α) : List Nat :=
  (List.range pool.capacity).map fun offset =>
    (pool.cursor + UInt64.ofNat offset).toNat % pool.capacity

/-- Lends out or takes back a slot. -/
def mark (pool : SlotPool α) (index : Nat) (inUse : Bool) : SlotPool α :=
  { pool with slots := pool.slots.modify index fun slot => { slot with inUse } }

def write (pool : SlotPool α) (index : Nat) (value : α) : SlotPool α :=
  { pool with slots := pool.slots.modify index fun slot => { slot with value } }

/-- Lends out the first free slot of a search. The next search starts one slot further, also when
this one finds nothing. -/
def acquire (pool : SlotPool α) : Option Nat × SlotPool α :=
  let advanced := { pool with cursor := pool.cursor + 1 }
  match pool.probes.find? pool.isFree with
  | some index => (some index, advanced.mark index true)
  | none => (none, advanced)

def release (pool : SlotPool α) (index : Nat) : SlotPool α := pool.mark index false

end SlotPool

/-- A pool and the slots held at the moment, each under the number of the grant it was held by. -/
structure Leases (α : Type) where
  pool : SlotPool α
  granted : Nat
  held : List (Nat × Nat)

namespace Leases

variable {α : Type}

def start (pool : SlotPool α) : Leases α := ⟨pool, 0, []⟩

/-- The slot held under a grant. -/
def slot? (leases : Leases α) (grant : Nat) : Option Nat := leases.held.lookup grant

/-- Asks for a slot: the grant and the slot, if one is free. -/
def acquire (leases : Leases α) : Option (Nat × Nat) × Leases α :=
  match leases.pool.acquire with
  | (some index, pool) =>
      (some (leases.granted, index),
        { pool, granted := leases.granted + 1, held := (leases.granted, index) :: leases.held })
  | (none, pool) => (none, { leases with pool })

def read? (leases : Leases α) (grant : Nat) : Option α :=
  (leases.slot? grant).bind leases.pool.value?

/-- Writes through a grant, if it is held. -/
def write? (leases : Leases α) (grant : Nat) (value : α) : Option (Leases α) :=
  (leases.slot? grant).map fun index => { leases with pool := leases.pool.write index value }

/-- Gives a slot back, if it is held. -/
def release? (leases : Leases α) (grant : Nat) : Option (Leases α) :=
  (leases.slot? grant).map fun index =>
    { leases with
      pool := leases.pool.release index
      held := leases.held.filter (·.1 != grant) }

end Leases

end MarketFeed
