import MarketFeed.BoundedQueue
import MarketFeed.RingBuffer
import Mathlib.Data.Nat.ModEq

/-! A ring is a queue. The items lie in the slots from the reader's cursor on, as many as the writer is
ahead of it, and the other slots are empty. Each side knows less than the truth about the other: the
writer takes the ring for no emptier than it is, the reader for no fuller, so that what either does
without looking again is right. Slots repeat after as many steps as there are slots and cursors after
`UInt64.size`; since the one number divides the other, nothing happens where a cursor wraps. -/

namespace MarketFeed

namespace RingBuffer

/-- What the writer and the reader ask of a ring. -/
inductive Call (α : Type) where
  | push (item : α)
  | pop

/-- What a call is answered. -/
inductive Answer (α : Type) where
  | pushed (outcome : PushOutcome α)
  | popped (outcome : PopOutcome α)
  deriving DecidableEq

variable {α : Type}

def answer (ring : RingBuffer α) : Call α → Answer α × RingBuffer α
  | .push item => (ring.push item).map .pushed id
  | .pop => ring.pop.map .popped id

def run (ring : RingBuffer α) : List (Call α) → List (Answer α) × RingBuffer α
  | [] => ([], ring)
  | call :: calls =>
      let (answer, ring) := ring.answer call
      let (answers, ring) := ring.run calls
      (answer :: answers, ring)

end RingBuffer

namespace BoundedQueue

open RingBuffer (Call Answer)

variable {α : Type}

/-- What a queue answers. Nothing of it is ever overwritten and no item of it is ever vacant. -/
def answer (queue : BoundedQueue α) : Call α → Answer α × BoundedQueue α
  | .push item =>
      match queue.push? item with
      | some longer => (.pushed (.stored none), longer)
      | none => (.pushed (.full item), queue)
  | .pop =>
      match queue.pop? with
      | some (item, shorter) => (.popped (.item item), shorter)
      | none => (.popped .empty, queue)

def run (queue : BoundedQueue α) : List (Call α) → List (Answer α) × BoundedQueue α
  | [] => ([], queue)
  | call :: calls =>
      let (answer, queue) := queue.answer call
      let (answers, queue) := queue.run calls
      (answer :: answers, queue)

theorem limit_answer (queue : BoundedQueue α) (call : Call α) :
    (queue.answer call).2.limit = queue.limit := by
  cases call with
  | push item =>
      rw [BoundedQueue.answer, BoundedQueue.push?]
      cases queue.isFull <;> rfl
  | pop =>
      rw [BoundedQueue.answer, BoundedQueue.pop?]
      cases queue.items <;> rfl

theorem limit_run (queue : BoundedQueue α) (calls : List (Call α)) :
    (queue.run calls).2.limit = queue.limit := by
  induction calls generalizing queue with
  | nil => rfl
  | cons call calls ih => exact (ih _).trans (limit_answer queue call)

end BoundedQueue

namespace RingBuffer

variable {α : Type} {ring : RingBuffer α} {queue : BoundedQueue α} {item : α}

theorem toNat_succ_sub {a b : UInt64} (h : (a - b).toNat + 1 < UInt64.size) :
    (a + 1 - b).toNat = (a - b).toNat + 1 := by
  have ha := a.toNat_lt
  have hb := b.toNat_lt
  rw [UInt64.size] at h
  simp only [UInt64.toNat_sub, UInt64.toNat_add, UInt64.toNat_one] at *
  omega

theorem toNat_sub_succ {a b : UInt64} (h : 0 < (a - b).toNat) :
    (a - (b + 1)).toNat = (a - b).toNat - 1 := by
  have ha := a.toNat_lt
  have hb := b.toNat_lt
  simp only [UInt64.toNat_sub, UInt64.toNat_add, UInt64.toNat_one] at *
  omega

theorem toNat_sub_eq_zero_iff {a b : UInt64} : (a - b).toNat = 0 ↔ a = b := by
  have ha := a.toNat_lt
  have hb := b.toNat_lt
  rw [UInt64.toNat_sub, ← UInt64.toNat_inj]
  omega

/-- The slot so many steps behind a cursor, also where the cursor wraps on the way. -/
theorem slot_add (hdivides : ring.slots.size ∣ UInt64.size) (cursor : UInt64) (steps : Nat) :
    ring.slot (cursor + UInt64.ofNat steps) = (cursor.toNat + steps) % ring.slots.size := by
  have hsteps : (UInt64.ofNat steps).toNat = steps % UInt64.size := UInt64.toNat_ofNat'
  calc ring.slot (cursor + UInt64.ofNat steps)
      = (cursor.toNat + steps % UInt64.size) % UInt64.size % ring.slots.size := by
        rw [slot, UInt64.toNat_add, hsteps]
    _ = (cursor.toNat + steps) % UInt64.size % ring.slots.size := by rw [Nat.add_mod_mod]
    _ = (cursor.toNat + steps) % ring.slots.size := Nat.mod_mod_of_dvd _ hdivides

theorem slot_add_eq_iff (hdivides : ring.slots.size ∣ UInt64.size) (cursor : UInt64) {i j : Nat}
    (hi : i < ring.slots.size) (hj : j < ring.slots.size) :
    ring.slot (cursor + UInt64.ofNat i) = ring.slot (cursor + UInt64.ofNat j) ↔ i = j := by
  rw [slot_add hdivides, slot_add hdivides]
  constructor
  · intro heq
    have hsame : i ≡ j [MOD ring.slots.size] := Nat.ModEq.add_left_cancel' cursor.toNat heq
    exact hsame.eq_of_lt_of_lt hi hj
  · rintro rfl
    rfl

/-- The item in the slot of a cursor. -/
def at? (ring : RingBuffer α) (cursor : UInt64) : Option α := ring.slots[ring.slot cursor]?.join

/-- The ring as its writer knows it when it is about to write. -/
def toWriter (ring : RingBuffer α) : RingBuffer α :=
  if ring.looksFull then ring.lookAtReader else ring

/-- The ring as its reader knows it when it is about to read. -/
def toReader (ring : RingBuffer α) : RingBuffer α :=
  if ring.read = ring.seenWrite then ring.lookAtWriter else ring

/-- The ring with an item in the writer's slot. -/
def put (ring : RingBuffer α) (item : α) : RingBuffer α :=
  { ring with
    slots := ring.slots.setIfInBounds (ring.slot ring.write) (some item)
    write := ring.write + 1 }

/-- The ring without the item in the reader's slot. -/
def take (ring : RingBuffer α) : RingBuffer α :=
  { ring with
    slots := ring.slots.setIfInBounds (ring.slot ring.read) none
    read := ring.read + 1 }

theorem push_eq (ring : RingBuffer α) (item : α) :
    ring.push item =
      if ring.toWriter.looksFull then (.full item, ring.toWriter)
      else (.stored (ring.toWriter.at? ring.toWriter.write), ring.toWriter.put item) := rfl

theorem pop_eq (ring : RingBuffer α) :
    ring.pop =
      if ring.toReader.read = ring.toReader.seenWrite then (.empty, ring.toReader)
      else
        match ring.toReader.at? ring.toReader.read with
        | some item => (.item item, ring.toReader.take)
        | none => (.vacant, ring.toReader.take) := rfl

theorem size_slots_put (ring : RingBuffer α) (item : α) :
    (ring.put item).slots.size = ring.slots.size := Array.size_setIfInBounds

theorem size_slots_take (ring : RingBuffer α) : ring.take.slots.size = ring.slots.size :=
  Array.size_setIfInBounds

theorem slot_put (ring : RingBuffer α) (item : α) (cursor : UInt64) :
    (ring.put item).slot cursor = ring.slot cursor := by
  rw [slot, slot, size_slots_put]

theorem slot_take (ring : RingBuffer α) (cursor : UInt64) :
    ring.take.slot cursor = ring.slot cursor := by
  rw [slot, slot, size_slots_take]

/-- Of the slots one alone is written. -/
theorem join_getElem?_setIfInBounds {slots : Array (Option α)} {slot : Nat} (hslot : slot < slots.size)
    (value : Option α) (other : Nat) :
    (slots.setIfInBounds slot value)[other]?.join =
      if other = slot then value else slots[other]?.join := by
  rw [Array.getElem?_setIfInBounds]
  by_cases heq : other = slot
  · rw [if_pos heq, if_pos heq.symm, if_pos hslot]
    rfl
  · rw [if_neg heq, if_neg (Ne.symm heq)]

theorem at?_put (hslots : 0 < ring.slots.size) (item : α) (cursor : UInt64) :
    (ring.put item).at? cursor =
      if ring.slot cursor = ring.slot ring.write then some item else ring.at? cursor := by
  rw [at?, slot_put]
  exact join_getElem?_setIfInBounds (Nat.mod_lt _ hslots) (some item) (ring.slot cursor)

theorem at?_take (hslots : 0 < ring.slots.size) (cursor : UInt64) :
    ring.take.at? cursor =
      if ring.slot cursor = ring.slot ring.read then none else ring.at? cursor := by
  rw [at?, slot_take]
  exact join_getElem?_setIfInBounds (Nat.mod_lt _ hslots) none (ring.slot cursor)

/-! ### What a ring holds -/

/-- Whether a ring holds what a queue holds. -/
structure Holds (ring : RingBuffer α) (queue : BoundedQueue α) : Prop where
  divides : ring.slots.size ∣ UInt64.size
  limit : ring.slots.size = queue.limit + 1
  bounded : queue.size ≤ queue.limit
  size_eq : ring.size = queue.size
  at?_eq : ∀ i ≤ queue.limit, ring.at? (ring.read + UInt64.ofNat i) = queue.items[i]?
  seenRead : queue.size ≤ (ring.write - ring.seenRead).toNat
  seenWrite : (ring.seenWrite - ring.read).toNat ≤ queue.size

namespace Holds

theorem capacity (h : ring.Holds queue) : ring.capacity = queue.limit := by
  rw [RingBuffer.capacity, h.limit, Nat.add_sub_cancel]

theorem limit_lt (h : ring.Holds queue) : queue.limit < UInt64.size := by
  have hle := Nat.le_of_dvd (by decide) h.divides
  rwa [h.limit] at hle

theorem slots_pos (h : ring.Holds queue) : 0 < ring.slots.size := by
  rw [h.limit]
  exact Nat.succ_pos _

theorem write_eq (h : ring.Holds queue) : ring.write = ring.read + UInt64.ofNat queue.size := by
  rw [← h.size_eq, RingBuffer.size, UInt64.ofNat_toNat, UInt64.add_comm, UInt64.sub_add_cancel]

theorem slot_eq_iff (h : ring.Holds queue) {i j : Nat} (hi : i ≤ queue.limit)
    (hj : j ≤ queue.limit) :
    ring.slot (ring.read + UInt64.ofNat i) = ring.slot (ring.read + UInt64.ofNat j) ↔ i = j := by
  have hlimit := h.limit
  exact slot_add_eq_iff h.divides ring.read (by omega) (by omega)

theorem empty {n : Nat} (hdivides : n ∣ UInt64.size) :
    (RingBuffer.empty n : RingBuffer α).Holds (.empty (n - 1)) := by
  have hpos : 0 < n := Nat.pos_of_dvd_of_pos hdivides (by decide)
  have hsize : (RingBuffer.empty n : RingBuffer α).slots.size = n := Array.size_replicate
  constructor
  case divides => rwa [hsize]
  case limit =>
    rw [hsize]
    exact (Nat.sub_add_cancel hpos).symm
  case bounded => exact Nat.zero_le _
  case size_eq =>
    show ((0 : UInt64) - 0).toNat = 0
    decide
  case at?_eq =>
    intro i _
    show (Array.replicate n none)[_]?.join = none
    rw [Array.getElem?_replicate]
    split <;> rfl
  case seenRead => exact Nat.zero_le _
  case seenWrite =>
    show ((0 : UInt64) - 0).toNat ≤ 0
    decide

/-- Once the writer has looked where it had to, the ring looks full to it just when the queue is. -/
theorem toWriter (h : ring.Holds queue) :
    ring.toWriter.Holds queue ∧ ring.toWriter.looksFull = queue.isFull := by
  have hcapacity := h.capacity
  have hsize := h.size_eq
  have hseen := h.seenRead
  unfold RingBuffer.toWriter
  by_cases hlooks : ring.looksFull
  · rw [if_pos hlooks]
    refine ⟨⟨h.divides, h.limit, h.bounded, h.size_eq, h.at?_eq, Nat.le_of_eq hsize.symm,
      h.seenWrite⟩, ?_⟩
    show decide (ring.capacity ≤ ring.size) = decide (queue.limit ≤ queue.size)
    rw [hcapacity, hsize]
  · rw [if_neg hlooks]
    refine ⟨h, ?_⟩
    have hroom : ¬ring.capacity ≤ (ring.write - ring.seenRead).toNat := by
      simpa [looksFull] using hlooks
    rw [Bool.eq_false_iff.2 hlooks, BoundedQueue.isFull]
    exact (decide_eq_false (by omega)).symm

/-- Once the reader has looked where it had to, its cursors meet just when the queue is empty. -/
theorem toReader (h : ring.Holds queue) :
    ring.toReader.Holds queue ∧
      (ring.toReader.read = ring.toReader.seenWrite ↔ queue.items = []) := by
  have hsize : (ring.write - ring.read).toNat = queue.items.length := h.size_eq
  have hseen : (ring.seenWrite - ring.read).toNat ≤ queue.items.length := h.seenWrite
  unfold RingBuffer.toReader
  by_cases hmeet : ring.read = ring.seenWrite
  · rw [if_pos hmeet]
    refine ⟨⟨h.divides, h.limit, h.bounded, h.size_eq, h.at?_eq, h.seenRead,
      Nat.le_of_eq h.size_eq⟩, ?_⟩
    show ring.read = ring.write ↔ queue.items = []
    rw [← List.length_eq_zero_iff, ← hsize, toNat_sub_eq_zero_iff]
    exact eq_comm
  · rw [if_neg hmeet]
    refine ⟨h, iff_of_false hmeet fun hnil => hmeet ?_⟩
    rw [hnil, List.length_nil, Nat.le_zero, toNat_sub_eq_zero_iff] at hseen
    exact hseen.symm

/-- The writer's slot is empty. -/
theorem at?_write (h : ring.Holds queue) : ring.at? ring.write = none := by
  rw [h.write_eq, h.at?_eq _ h.bounded]
  exact List.getElem?_eq_none (Nat.le_refl _)

/-- The reader's slot has the oldest item. -/
theorem at?_read (h : ring.Holds queue) : ring.at? ring.read = queue.items.head? := by
  have hfirst := h.at?_eq 0 (Nat.zero_le _)
  have hread : ring.read + UInt64.ofNat 0 = ring.read := UInt64.add_zero _
  rwa [hread, ← List.head?_eq_getElem?] at hfirst

/-- An item put behind the others, while there is room, is the queue's last. -/
theorem put (h : ring.Holds queue) (hroom : queue.size < queue.limit)
    (hseen : (ring.write - ring.seenRead).toNat < queue.limit) (item : α) :
    (ring.put item).Holds { queue with items := queue.items ++ [item] } := by
  have hlt := h.limit_lt
  have hsize : (ring.write - ring.read).toNat = queue.size := h.size_eq
  have hlength : BoundedQueue.size { queue with items := queue.items ++ [item] } = queue.size + 1 :=
    List.length_append
  constructor
  case divides =>
    rw [size_slots_put]
    exact h.divides
  case limit =>
    rw [size_slots_put]
    exact h.limit
  case bounded =>
    rw [hlength]
    exact hroom
  case size_eq =>
    show (ring.write + 1 - ring.read).toNat = _
    rw [hlength, toNat_succ_sub (by omega), hsize]
  case at?_eq =>
    intro i hi
    show (ring.put item).at? (ring.read + UInt64.ofNat i) = (queue.items ++ [item])[i]?
    rw [at?_put h.slots_pos, h.write_eq]
    by_cases heq : i = queue.size
    · rw [if_pos ((h.slot_eq_iff hi h.bounded).2 heq), heq]
      exact List.getElem?_concat_length.symm
    · rw [if_neg fun hslot => heq ((h.slot_eq_iff hi h.bounded).1 hslot), h.at?_eq i hi]
      rcases Nat.lt_or_gt_of_ne heq with hlt | hgt
      · exact (List.getElem?_append_left hlt).symm
      · have hbehind : (queue.items ++ [item]).length ≤ i := by
          rw [List.length_append]
          exact hgt
        rw [List.getElem?_eq_none (Nat.le_of_lt hgt), List.getElem?_eq_none hbehind]
  case seenRead =>
    have hseen' := h.seenRead
    show _ ≤ (ring.write + 1 - ring.seenRead).toNat
    rw [hlength, toNat_succ_sub (by omega)]
    exact Nat.succ_le_succ hseen'
  case seenWrite =>
    rw [hlength]
    exact Nat.le_succ_of_le h.seenWrite

/-- Once the oldest item is taken the rest of the queue is left. -/
theorem take {rest : List α} (h : ring.Holds queue) (hitems : queue.items = item :: rest)
    (hseen : ring.read ≠ ring.seenWrite) :
    ring.take.Holds { queue with items := rest } := by
  have hbounded := h.bounded
  have hlength : queue.size = rest.length + 1 := by
    rw [BoundedQueue.size, hitems, List.length_cons]
  have hsize : (ring.write - ring.read).toNat = queue.size := h.size_eq
  constructor
  case divides =>
    rw [size_slots_take]
    exact h.divides
  case limit =>
    rw [size_slots_take]
    exact h.limit
  case bounded =>
    show rest.length ≤ queue.limit
    omega
  case size_eq =>
    show (ring.write - (ring.read + 1)).toNat = rest.length
    rw [toNat_sub_succ (by omega), hsize, hlength, Nat.add_sub_cancel]
  case at?_eq =>
    intro i hi
    have hnext : ring.read + 1 + UInt64.ofNat i = ring.read + UInt64.ofNat (i + 1) := by
      rw [UInt64.ofNat_add, UInt64.add_assoc, UInt64.add_comm 1]
      rfl
    show ring.take.at? (ring.read + 1 + UInt64.ofNat i) = rest[i]?
    rw [at?_take h.slots_pos, hnext]
    by_cases hlast : i = queue.limit
    · -- All the way round the ring the cursor is back at the slot that was just read.
      have hround : ring.slot (ring.read + UInt64.ofNat (i + 1)) = ring.slot ring.read := by
        rw [slot_add h.divides, hlast, ← h.limit, Nat.add_mod_right, slot]
      rw [if_pos hround]
      exact (List.getElem?_eq_none (by omega)).symm
    · have hlt : i + 1 ≤ queue.limit := Nat.lt_of_le_of_ne hi hlast
      have hother : ring.slot (ring.read + UInt64.ofNat (i + 1)) ≠ ring.slot ring.read := by
        have hread : ring.slot ring.read = ring.slot (ring.read + UInt64.ofNat 0) :=
          congrArg ring.slot (UInt64.add_zero _).symm
        rw [hread, Ne, h.slot_eq_iff hlt (Nat.zero_le _)]
        exact Nat.succ_ne_zero i
      rw [if_neg hother, h.at?_eq (i + 1) hlt, hitems]
      rfl
  case seenRead =>
    have hseen' := h.seenRead
    show rest.length ≤ (ring.write - ring.seenRead).toNat
    omega
  case seenWrite =>
    have hseen' := h.seenWrite
    have hpos : 0 < (ring.seenWrite - ring.read).toNat :=
      Nat.pos_of_ne_zero fun hzero => hseen (toNat_sub_eq_zero_iff.1 hzero).symm
    show (ring.seenWrite - (ring.read + 1)).toNat ≤ rest.length
    rw [toNat_sub_succ hpos]
    omega

/-- The writer's item is handed back when the queue is full, and otherwise goes into an empty slot. -/
theorem push (h : ring.Holds queue) (item : α) :
    (queue.limit ≤ queue.size ∧ (ring.push item).1 = .full item ∧ (ring.push item).2.Holds queue) ∨
    (queue.size < queue.limit ∧ (ring.push item).1 = .stored none ∧
      (ring.push item).2.Holds { queue with items := queue.items ++ [item] }) := by
  obtain ⟨hseen, hlooks⟩ := h.toWriter
  rw [push_eq]
  rcases Nat.lt_or_ge queue.size queue.limit with hroom | hfull
  · have hlooks' : ring.toWriter.looksFull = false :=
      hlooks.trans (decide_eq_false (Nat.not_le.2 hroom))
    rw [if_neg (Bool.eq_false_iff.1 hlooks'), hseen.at?_write]
    rw [looksFull, hseen.capacity, decide_eq_false_iff_not, Nat.not_le] at hlooks'
    exact Or.inr ⟨hroom, rfl, hseen.put hroom hlooks' item⟩
  · rw [if_pos (hlooks.trans (decide_eq_true hfull))]
    exact Or.inl ⟨hfull, rfl, hseen⟩

/-- The reader gets the queue's oldest item, if there is one. -/
theorem pop (h : ring.Holds queue) :
    (queue.items = [] ∧ ring.pop.1 = .empty ∧ ring.pop.2.Holds queue) ∨
    ∃ item rest, queue.items = item :: rest ∧ ring.pop.1 = .item item ∧
      ring.pop.2.Holds { queue with items := rest } := by
  obtain ⟨hseen, hmeet⟩ := h.toReader
  have holdest := hseen.at?_read
  rw [pop_eq]
  cases hitems : queue.items with
  | nil =>
      rw [if_pos (hmeet.2 hitems)]
      exact Or.inl ⟨rfl, rfl, hseen⟩
  | cons item rest =>
      have hapart : ring.toReader.read ≠ ring.toReader.seenWrite := by
        rw [Ne, hmeet, hitems]
        exact List.cons_ne_nil item rest
      rw [hitems, List.head?_cons] at holdest
      rw [if_neg hapart, holdest]
      exact Or.inr ⟨item, rest, rfl, rfl, hseen.take hitems hapart⟩

/-- A ring answers what the queue answers, and goes on holding what the queue holds. -/
theorem answer (h : ring.Holds queue) (call : Call α) :
    (ring.answer call).1 = (queue.answer call).1 ∧
      (ring.answer call).2.Holds (queue.answer call).2 := by
  cases call with
  | push item =>
      show Answer.pushed (ring.push item).1 = _ ∧ (ring.push item).2.Holds _
      rw [BoundedQueue.answer, BoundedQueue.push?, BoundedQueue.isFull]
      rcases h.push item with ⟨hfull, houtcome, hafter⟩ | ⟨hroom, houtcome, hafter⟩
      · rw [houtcome, decide_eq_true hfull]
        exact ⟨rfl, hafter⟩
      · rw [houtcome, decide_eq_false (Nat.not_le.2 hroom)]
        exact ⟨rfl, hafter⟩
  | pop =>
      show Answer.popped ring.pop.1 = _ ∧ ring.pop.2.Holds _
      rw [BoundedQueue.answer, BoundedQueue.pop?]
      rcases h.pop with ⟨hitems, houtcome, hafter⟩ | ⟨item, rest, hitems, houtcome, hafter⟩
      · rw [houtcome, hitems]
        exact ⟨rfl, hafter⟩
      · rw [houtcome, hitems]
        exact ⟨rfl, hafter⟩

theorem run (h : ring.Holds queue) (calls : List (Call α)) :
    (ring.run calls).1 = (queue.run calls).1 ∧ (ring.run calls).2.Holds (queue.run calls).2 := by
  induction calls generalizing ring queue with
  | nil => exact ⟨rfl, h⟩
  | cons call calls ih =>
      obtain ⟨hanswer, hafter⟩ := h.answer call
      obtain ⟨hanswers, hfinal⟩ := ih hafter
      refine ⟨?_, hfinal⟩
      show (ring.answer call).1 :: ((ring.answer call).2.run calls).1 =
        (queue.answer call).1 :: ((queue.answer call).2.run calls).1
      rw [hanswer, hanswers]

theorem isEmpty (h : ring.Holds queue) : ring.isEmpty = queue.items.isEmpty := by
  rw [RingBuffer.isEmpty, h.size_eq, BoundedQueue.size]
  cases queue.items <;> rfl

theorem isFull (h : ring.Holds queue) : ring.isFull = queue.isFull := by
  rw [RingBuffer.isFull, BoundedQueue.isFull, h.capacity, h.size_eq]

end Holds

/-- A ring that has no room for an item is left as it is, but for the writer's look at it. -/
theorem push_of_full {refused : α} (hfull : (ring.push item).1 = .full refused) :
    (ring.push item).2 = { ring with seenRead := ring.read } := by
  rw [push_eq, toWriter] at hfull ⊢
  by_cases hlooks : ring.looksFull
  · rw [if_pos hlooks] at hfull ⊢
    by_cases hlooks' : ring.lookAtReader.looksFull
    · rw [if_pos hlooks']
      rfl
    · rw [if_neg hlooks'] at hfull
      cases hfull
  · rw [if_neg hlooks, if_neg hlooks] at hfull
    cases hfull

/-- The same of a ring that has no item to give. -/
theorem pop_of_empty (hempty : ring.pop.1 = .empty) :
    ring.pop.2 = { ring with seenWrite := ring.write } := by
  have htaken (seen : RingBuffer α) (item? : Option α) :
      (match item? with
        | some item => ((.item item : PopOutcome α), seen)
        | none => (.vacant, seen)).1 ≠ .empty := by
    cases item? <;> nofun
  rw [pop_eq, toReader] at hempty ⊢
  by_cases hmeet : ring.read = ring.seenWrite
  · rw [if_pos hmeet] at hempty ⊢
    by_cases hmeet' : ring.lookAtWriter.read = ring.lookAtWriter.seenWrite
    · rw [if_pos hmeet']
      rfl
    · rw [if_neg hmeet'] at hempty
      exact absurd hempty (htaken _ _)
  · rw [if_neg hmeet, if_neg hmeet] at hempty
    exact absurd hempty (htaken _ _)

theorem dvd_size_of_isPowerOfTwo {n : Nat} (hpower : n.isPowerOfTwo) (hword : n < UInt64.size) :
    n ∣ UInt64.size := by
  obtain ⟨k, rfl⟩ := hpower
  have hk : k < 64 := (Nat.pow_lt_pow_iff_right (by decide)).1 hword
  exact Nat.pow_dvd_pow 2 (Nat.le_of_lt hk)

/-- **A ring is a first-in first-out queue with room for one item less than there are slots.** Of a
power of two of slots, whatever is asked of it and however often the cursors wrap, it answers what the
queue answers: an item is stored just when there is room, never over another one, and the oldest item
is read just when there is one. Either side counts the items of the queue. An item without room is
handed back, and nothing but the writer's look at the reader comes of it. -/
theorem run_empty_eq_queue (n : Nat) (hpower : n.isPowerOfTwo) (hword : n < UInt64.size)
    (calls : List (Call α)) :
    let ring := ((empty n : RingBuffer α).run calls).2
    let queue := ((BoundedQueue.empty (n - 1) : BoundedQueue α).run calls).2
    ((empty n).run calls).1 = ((BoundedQueue.empty (n - 1)).run calls).1 ∧
    (∀ item, (ring.push item).1 = if queue.size < n - 1 then .stored none else .full item) ∧
    ring.pop.1 = queue.items.head?.elim .empty .item ∧
    ring.size = queue.size ∧ ring.isEmpty = queue.items.isEmpty ∧
    ring.isFull = decide (n - 1 ≤ queue.size) ∧
    (∀ item refused, (ring.push item).1 = .full refused →
      (ring.push item).2 = { ring with seenRead := ring.read }) ∧
    (ring.pop.1 = .empty → ring.pop.2 = { ring with seenWrite := ring.write }) := by
  intro ring queue
  have hempty : (empty n : RingBuffer α).Holds (.empty (n - 1)) :=
    .empty (dvd_size_of_isPowerOfTwo hpower hword)
  obtain ⟨hanswers, hholds⟩ := hempty.run calls
  have hlimit : queue.limit = n - 1 := BoundedQueue.limit_run _ calls
  refine ⟨hanswers, fun item => ?_, ?_, hholds.size_eq, hholds.isEmpty, ?_,
    fun item refused => push_of_full, pop_of_empty⟩
  · rcases hholds.push item with ⟨hfull, houtcome, -⟩ | ⟨hroom, houtcome, -⟩
    · rw [houtcome, if_neg (Nat.not_lt.2 (hlimit ▸ hfull))]
    · rw [houtcome, if_pos (hlimit ▸ hroom)]
  · rcases hholds.pop with ⟨hitems, houtcome, -⟩ | ⟨item, rest, hitems, houtcome, -⟩
    · rw [houtcome, hitems]
      rfl
    · rw [houtcome, hitems]
      rfl
  · rw [← hlimit]
    exact hholds.isFull

/-- What is asked of a ring of four slots: it is filled, and one item more has room only once the
oldest has been read. -/
def fullAndOver : List (Call Nat) :=
  [.push 1, .push 2, .push 3, .push 4, .pop, .push 4, .pop, .pop, .pop, .pop]

theorem run_empty_eq_queue_fullAndOver :
    (4 : Nat).isPowerOfTwo ∧ 4 < UInt64.size ∧
      ((empty 4).run fullAndOver).1 =
        [.pushed (.stored none), .pushed (.stored none), .pushed (.stored none),
          .pushed (.full 4), .popped (.item 1), .pushed (.stored none), .popped (.item 2),
          .popped (.item 3), .popped (.item 4), .popped .empty] := by
  have hpower : (4 : Nat).isPowerOfTwo := ⟨2, rfl⟩
  have hword : 4 < UInt64.size := by decide
  refine ⟨hpower, hword, ?_⟩
  rw [(run_empty_eq_queue 4 hpower hword fullAndOver).1]
  rfl

end RingBuffer

end MarketFeed
