import Mathlib.Data.List.Nodup
import Mathlib.Data.List.Perm.Subperm
import MarketFeed.SlotPool

/-! Slots lent out one holder at a time. A slot is free exactly when nobody holds it, so whoever is
lent a slot is its only holder until it is given back, and what is read through a grant is what was last
written to its slot, by the holder or by those before. -/

namespace MarketFeed

namespace SlotPool

variable {α : Type} {pool : SlotPool α} {index other : Nat} {inUse : Bool} {value : α}

/-- A pool whose next search starts one slot further. -/
def advance (pool : SlotPool α) : SlotPool α := { pool with cursor := pool.cursor + 1 }

@[simp] theorem capacity_mark : (pool.mark index inUse).capacity = pool.capacity :=
  Array.size_modify

@[simp] theorem capacity_write : (pool.write index value).capacity = pool.capacity :=
  Array.size_modify

theorem lt_of_isFree (hfree : pool.isFree index = true) : index < pool.capacity := by
  by_contra hlarge
  rw [isFree, Array.getElem?_eq_none (Nat.le_of_not_lt hlarge)] at hfree
  cases hfree

/-- A slot that is marked is free as the mark says. -/
theorem isFree_mark_self (hindex : index < pool.capacity) :
    (pool.mark index inUse).isFree index = !inUse := by
  rw [isFree, mark, Array.getElem?_modify, if_pos rfl, Array.getElem?_eq_getElem hindex]
  rfl

theorem isFree_mark_of_ne (hne : index ≠ other) :
    (pool.mark index inUse).isFree other = pool.isFree other := by
  rw [isFree, mark, Array.getElem?_modify, if_neg hne, isFree]

@[simp] theorem isFree_write : (pool.write index value).isFree other = pool.isFree other := by
  rw [isFree, write, Array.getElem?_modify]
  split
  · rw [Option.any_map]
    rfl
  · rfl

@[simp] theorem value?_mark : (pool.mark index inUse).value? other = pool.value? other := by
  rw [value?, mark, Array.getElem?_modify]
  split
  · rw [Option.map_map]
    rfl
  · rfl

theorem value?_write : (pool.write index value).value? other =
    if index = other then (pool.value? other).map fun _ => value else pool.value? other := by
  rw [value?, write, Array.getElem?_modify]
  split
  · rw [Option.map_map, value?, Option.map_map]
    rfl
  · rfl

/-- How many slots are free, slot by slot. -/
theorem available_eq (pool : SlotPool α) :
    pool.available = (List.range pool.capacity).countP pool.isFree := by
  have hcount (slots : List (PoolSlot α)) : slots.countP (!·.inUse) =
      (List.range slots.length).countP fun index => slots[index]?.any (!·.inUse) := by
    induction slots with
    | nil => rfl
    | cons slot slots ih =>
        rw [List.length_cons, List.range_succ_eq_map, List.countP_cons, List.countP_cons,
          List.countP_map, ih]
        rfl
  rw [available, ← List.countP_eq_length_filter, hcount, Array.length_toList]
  exact List.countP_congr fun index _ => by rw [isFree, Array.getElem?_toList]

/-- A search finds a free slot, which is lent out then, or nothing; it changes no slot besides. -/
theorem acquire_cases (pool : SlotPool α) :
    (∃ index, pool.isFree index = true ∧
      pool.acquire = (some index, pool.advance.mark index true)) ∨
    pool.acquire = (none, pool.advance) := by
  rw [acquire]
  cases hfind : pool.probes.find? pool.isFree with
  | none => exact Or.inr rfl
  | some index => exact Or.inl ⟨index, List.find?_some hfind, rfl⟩

/-- Of a new pool every slot is free and has the value made for it. -/
theorem isFree_ofFn (n : Nat) (made : Nat → α) (index : Nat) :
    (ofFn n made).isFree index = decide (index < n) := by
  rw [isFree, ofFn, Array.getElem?_ofFn]
  split
  · rename_i hindex
    rw [decide_eq_true hindex]
    rfl
  · rename_i hindex
    rw [decide_eq_false hindex]
    rfl

theorem value?_ofFn {n : Nat} (made : Nat → α) (hindex : index < n) :
    (ofFn n made).value? index = some (made index) := by
  rw [value?, ofFn, Array.getElem?_ofFn, dif_pos hindex]
  rfl

end SlotPool

namespace Leases

/-- What is asked of a pool by those who hold its slots. -/
inductive Use (α : Type) where
  | acquire
  | write (grant : Nat) (value : α)
  | release (grant : Nat)

variable {α : Type} {leases after : Leases α} {grant slot : Nat} {value : α}

/-- What is left after a use. One through a grant that is not held leaves everything as it is. -/
def perform (leases : Leases α) : Use α → Leases α
  | .acquire => leases.acquire.2
  | .write grant value => (leases.write? grant value).getD leases
  | .release grant => (leases.release? grant).getD leases

def run (leases : Leases α) (uses : List (Use α)) : Leases α := uses.foldl perform leases

/-- The slot that a use writes to, and what it writes there. -/
def written? (leases : Leases α) : Use α → Option (Nat × α)
  | .write grant value => (leases.slot? grant).map (·, value)
  | _ => none

/-- What is written in a run, in the order in which it is. -/
def writes (leases : Leases α) : List (Use α) → List (Nat × α)
  | [] => []
  | use :: uses => (leases.written? use).toList ++ (leases.perform use).writes uses

/-- The value written to a slot last, or the one made for it when nothing was. -/
def lastWritten (made : Nat → α) (writes : List (Nat × α)) (slot : Nat) : α :=
  (writes.reverse.lookup slot).getD (made slot)

/-- Somebody is lent a free slot, or there is none to lend and no slot changes. -/
theorem acquire_cases (leases : Leases α) :
    (∃ slot, leases.pool.isFree slot = true ∧ leases.acquire = (some (leases.granted, slot),
      { pool := leases.pool.advance.mark slot true
        granted := leases.granted + 1
        held := (leases.granted, slot) :: leases.held })) ∨
    leases.acquire = (none, { leases with pool := leases.pool.advance }) := by
  rcases leases.pool.acquire_cases with ⟨slot, hfree, hacquire⟩ | hacquire
  · refine Or.inl ⟨slot, hfree, ?_⟩
    rw [acquire, hacquire]
  · refine Or.inr ?_
    rw [acquire, hacquire]

theorem acquire_none (hacquire : leases.acquire = (none, after)) :
    after.pool.slots = leases.pool.slots ∧ after.held = leases.held := by
  rcases leases.acquire_cases with ⟨lent, -, hlent⟩ | hnone
  · rw [hlent] at hacquire
    cases hacquire
  · rw [hnone] at hacquire
    cases hacquire
    exact ⟨rfl, rfl⟩

/-! ### Who holds what -/

def slots (leases : Leases α) : List Nat := leases.held.map (·.2)

/-- Whether every slot has one holder at most and is free exactly when it has none. Grants are not
used twice. -/
structure Exclusive (leases : Leases α) : Prop where
  grants_nodup : (leases.held.map (·.1)).Nodup
  grants_lt : ∀ lease ∈ leases.held, lease.1 < leases.granted
  slots_nodup : leases.slots.Nodup
  slots_lt : ∀ slot ∈ leases.slots, slot < leases.pool.capacity
  isFree_iff : ∀ slot < leases.pool.capacity, leases.pool.isFree slot = true ↔ slot ∉ leases.slots

theorem mem_held_of_slot? (hslot : leases.slot? grant = some slot) :
    (grant, slot) ∈ leases.held := by
  obtain ⟨before, behind, heq, -⟩ := List.lookup_eq_some_iff.1 hslot
  rw [heq]
  exact List.mem_append_right _ List.mem_cons_self

namespace Exclusive

theorem slot?_of_mem (h : leases.Exclusive) (hmem : (grant, slot) ∈ leases.held) :
    leases.slot? grant = some slot := by
  cases hslot : leases.slot? grant with
  | none =>
      have hother := List.lookup_eq_none_iff.1 hslot _ hmem
      simp at hother
  | some other =>
      have hsame := List.inj_on_of_nodup_map h.grants_nodup (mem_held_of_slot? hslot) hmem rfl
      exact congrArg (fun lease => some lease.2) hsame

/-- Different grants are of different slots. -/
theorem slot_ne (h : leases.Exclusive) {other : Nat} (hne : grant ≠ other)
    (hslot : leases.slot? grant = some slot) : leases.slot? other ≠ some slot := by
  intro hother
  have hsame := List.inj_on_of_nodup_map h.slots_nodup (mem_held_of_slot? hslot)
    (mem_held_of_slot? hother) rfl
  exact hne (congrArg Prod.fst hsame)

theorem lt_of_slot? (h : leases.Exclusive) (hslot : leases.slot? grant = some slot) :
    slot < leases.pool.capacity :=
  h.slots_lt slot (List.mem_map_of_mem (mem_held_of_slot? hslot))

/-- What is free and what is held make up the pool. -/
theorem available_add (h : leases.Exclusive) :
    leases.pool.available + leases.held.length = leases.pool.capacity := by
  have hheld : ((List.range leases.pool.capacity).filter (!leases.pool.isFree ·)).Perm leases.slots := by
    rw [List.perm_ext_iff_of_nodup (List.nodup_range.filter _) h.slots_nodup]
    intro slot
    rw [List.mem_filter, List.mem_range, Bool.not_eq_true', ← Bool.not_eq_true]
    constructor
    · rintro ⟨hlt, htaken⟩
      by_contra hslot
      exact htaken ((h.isFree_iff slot hlt).2 hslot)
    · intro hslot
      have hlt := h.slots_lt slot hslot
      exact ⟨hlt, fun hfree => (h.isFree_iff slot hlt).1 hfree hslot⟩
  have hlength : leases.held.length =
      (List.range leases.pool.capacity).countP (!leases.pool.isFree ·) := by
    rw [List.countP_eq_length_filter, hheld.length_eq, slots, List.length_map]
  have hsplit := List.length_eq_countP_add_countP leases.pool.isFree (l := List.range leases.pool.capacity)
  rw [List.length_range] at hsplit
  rw [SlotPool.available_eq, hlength]
  simpa only [Bool.not_eq_true, Bool.decide_eq_false] using hsplit.symm

theorem start (n : Nat) (made : Nat → α) : (start (.ofFn n made)).Exclusive where
  grants_nodup := List.nodup_nil
  grants_lt := by
    intro lease hlease
    cases hlease
  slots_nodup := List.nodup_nil
  slots_lt := by
    intro slot hslot
    cases hslot
  isFree_iff := by
    intro slot hslot
    rw [Leases.start, SlotPool.capacity, SlotPool.ofFn, Array.size_ofFn] at hslot
    rw [Leases.start, SlotPool.isFree_ofFn, decide_eq_true hslot]
    exact iff_of_true rfl List.not_mem_nil

theorem lend (h : leases.Exclusive) (hfree : leases.pool.isFree slot = true) :
    Exclusive ⟨leases.pool.advance.mark slot true, leases.granted + 1,
      (leases.granted, slot) :: leases.held⟩ := by
  have hlt : slot < leases.pool.capacity := SlotPool.lt_of_isFree hfree
  have hunheld : slot ∉ leases.slots := (h.isFree_iff slot hlt).1 hfree
  refine ⟨?_, ?_, List.nodup_cons.2 ⟨hunheld, h.slots_nodup⟩, ?_, ?_⟩
  · refine List.nodup_cons.2 ⟨?_, h.grants_nodup⟩
    intro hmem
    obtain ⟨lease, hlease, heq⟩ := List.mem_map.1 hmem
    exact Nat.ne_of_lt (h.grants_lt lease hlease) heq
  · intro lease hlease
    rcases List.mem_cons.1 hlease with rfl | hlease
    · exact Nat.lt_succ_self _
    · exact Nat.lt_succ_of_lt (h.grants_lt lease hlease)
  · intro other hother
    rw [SlotPool.capacity_mark]
    rcases List.mem_cons.1 hother with rfl | hother
    · exact hlt
    · exact h.slots_lt other hother
  · intro other hother
    rw [SlotPool.capacity_mark] at hother
    rw [slots, List.map_cons, List.mem_cons, not_or]
    rcases eq_or_ne slot other with rfl | hne
    · rw [SlotPool.isFree_mark_self hother]
      simp
    · rw [SlotPool.isFree_mark_of_ne hne]
      exact (h.isFree_iff other hother).trans (iff_and_self.2 fun _ => hne.symm)

theorem acquire (h : leases.Exclusive) : leases.acquire.2.Exclusive := by
  rcases leases.acquire_cases with ⟨slot, hfree, hacquire⟩ | hacquire
  · rw [hacquire]
    exact h.lend hfree
  · rw [hacquire]
    exact ⟨h.grants_nodup, h.grants_lt, h.slots_nodup, h.slots_lt, h.isFree_iff⟩

/-- Nobody held the slot that is lent. -/
theorem acquire_some (h : leases.Exclusive) (hacquire : leases.acquire = (some (grant, slot), after)) :
    slot ∉ leases.slots ∧ after.held = (grant, slot) :: leases.held := by
  rcases leases.acquire_cases with ⟨lent, hfree, hlent⟩ | hnone
  · rw [hlent] at hacquire
    cases hacquire
    exact ⟨(h.isFree_iff slot (SlotPool.lt_of_isFree hfree)).1 hfree, rfl⟩
  · rw [hnone] at hacquire
    cases hacquire

theorem write (h : leases.Exclusive) (hwrite : leases.write? grant value = some after) :
    after.Exclusive := by
  obtain ⟨slot, -, rfl⟩ := Option.map_eq_some_iff.1 hwrite
  refine ⟨h.grants_nodup, h.grants_lt, h.slots_nodup, ?_, ?_⟩
  · intro other hother
    rw [SlotPool.capacity_write]
    exact h.slots_lt other hother
  · intro other hother
    rw [SlotPool.capacity_write] at hother
    rw [SlotPool.isFree_write]
    exact h.isFree_iff other hother

theorem read?_write_self (h : leases.Exclusive) (hwrite : leases.write? grant value = some after) :
    after.read? grant = some value := by
  obtain ⟨slot, hslot, rfl⟩ := Option.map_eq_some_iff.1 hwrite
  have hlt := h.lt_of_slot? hslot
  show (leases.slot? grant).bind _ = some value
  rw [hslot, Option.bind_some, SlotPool.value?_write, if_pos rfl, SlotPool.value?,
    Array.getElem?_eq_getElem hlt]
  rfl

theorem read?_write_of_ne (h : leases.Exclusive) (hwrite : leases.write? grant value = some after)
    {other : Nat} (hne : other ≠ grant) : after.read? other = leases.read? other := by
  obtain ⟨slot, hslot, rfl⟩ := Option.map_eq_some_iff.1 hwrite
  show (leases.slot? other).bind _ = (leases.slot? other).bind _
  apply Option.bind_congr
  intro read hread
  rw [SlotPool.value?_write, if_neg]
  rintro rfl
  exact h.slot_ne hne hread hslot

/-- A slot given back is the only one that is not held any longer. -/
theorem mem_slots_release (h : leases.Exclusive) (hslot : leases.slot? grant = some slot) (other : Nat) :
    other ∈ (leases.held.filter (·.1 != grant)).map (·.2) ↔ other ∈ leases.slots ∧ other ≠ slot := by
  rw [slots, List.mem_map, List.mem_map]
  constructor
  · rintro ⟨lease, hlease, rfl⟩
    obtain ⟨hheld, hgrant⟩ := List.mem_filter.1 hlease
    refine ⟨⟨lease, hheld, rfl⟩, ?_⟩
    intro heq
    refine h.slot_ne (bne_iff_ne.1 hgrant) (h.slot?_of_mem hheld) ?_
    rw [hslot, heq]
  · rintro ⟨⟨lease, hheld, rfl⟩, hne⟩
    refine ⟨lease, List.mem_filter.2 ⟨hheld, ?_⟩, rfl⟩
    rw [bne_iff_ne]
    intro heq
    have hsame := h.slot?_of_mem hheld
    rw [heq, hslot] at hsame
    exact hne (Option.some.inj hsame).symm

theorem release (h : leases.Exclusive) (hrelease : leases.release? grant = some after) :
    after.Exclusive := by
  obtain ⟨slot, hslot, rfl⟩ := Option.map_eq_some_iff.1 hrelease
  have hlt := h.lt_of_slot? hslot
  have hfewer : (leases.held.filter (·.1 != grant)).Sublist leases.held := List.filter_sublist
  refine ⟨h.grants_nodup.sublist (hfewer.map _), ?_, h.slots_nodup.sublist (hfewer.map _), ?_, ?_⟩
  · intro lease hlease
    exact h.grants_lt lease (hfewer.subset hlease)
  · intro other hother
    rw [SlotPool.release, SlotPool.capacity_mark]
    exact h.slots_lt other ((h.mem_slots_release hslot other).1 hother).1
  · intro other hother
    rw [SlotPool.release, SlotPool.capacity_mark] at hother
    rw [slots, h.mem_slots_release hslot, SlotPool.release]
    rcases eq_or_ne slot other with rfl | hne
    · rw [SlotPool.isFree_mark_self hlt]
      simp
    · rw [SlotPool.isFree_mark_of_ne hne, h.isFree_iff other hother]
      exact not_congr (iff_self_and.2 fun _ => hne.symm)

theorem perform (h : leases.Exclusive) (use : Use α) : (leases.perform use).Exclusive := by
  cases use with
  | acquire => exact h.acquire
  | write grant value =>
      rw [Leases.perform]
      cases hwrite : leases.write? grant value with
      | none => exact h
      | some after => exact h.write hwrite
  | release grant =>
      rw [Leases.perform]
      cases hrelease : leases.release? grant with
      | none => exact h
      | some after => exact h.release hrelease

theorem run (h : leases.Exclusive) (uses : List (Use α)) : (leases.run uses).Exclusive := by
  induction uses generalizing leases with
  | nil => exact h
  | cons use uses ih => exact ih (h.perform use)

end Exclusive

theorem capacity_perform (leases : Leases α) (use : Use α) :
    (leases.perform use).pool.capacity = leases.pool.capacity := by
  cases use with
  | acquire =>
      rw [perform]
      rcases leases.acquire_cases with ⟨slot, -, hacquire⟩ | hacquire
      · rw [hacquire, SlotPool.capacity_mark]
        rfl
      · rw [hacquire]
        rfl
  | write grant value =>
      rw [perform, write?]
      cases leases.slot? grant with
      | none => rfl
      | some slot => exact SlotPool.capacity_write
  | release grant =>
      rw [perform, release?]
      cases leases.slot? grant with
      | none => rfl
      | some slot => exact SlotPool.capacity_mark

theorem capacity_run (leases : Leases α) (uses : List (Use α)) :
    (leases.run uses).pool.capacity = leases.pool.capacity := by
  induction uses generalizing leases with
  | nil => rfl
  | cons use uses ih => exact (ih _).trans (leases.capacity_perform use)

/-- A use changes the value in the slot it writes to, and in no other. -/
theorem value?_perform (leases : Leases α) (use : Use α) (slot : Nat) :
    (leases.perform use).pool.value? slot = (leases.pool.value? slot).map fun value =>
      ((leases.written? use).toList.lookup slot).getD value := by
  cases use with
  | acquire =>
      refine Eq.trans ?_ Option.map_id'.symm
      rw [perform]
      rcases leases.acquire_cases with ⟨lent, -, hacquire⟩ | hacquire
      · rw [hacquire, SlotPool.value?_mark]
        rfl
      · rw [hacquire]
        rfl
  | write grant value =>
      rw [perform, write?, written?]
      cases leases.slot? grant with
      | none => exact Option.map_id'.symm
      | some target =>
          refine SlotPool.value?_write.trans ?_
          rcases eq_or_ne target slot with rfl | hne
          · simp
          · simp [hne, List.lookup_cons, beq_false_of_ne hne.symm]
  | release grant =>
      refine Eq.trans ?_ Option.map_id'.symm
      rw [perform, release?]
      cases leases.slot? grant with
      | none => rfl
      | some given => exact SlotPool.value?_mark

theorem lastWritten_append (made : Nat → α) (earlier later : List (Nat × α)) (slot : Nat) :
    lastWritten made (earlier ++ later) slot = lastWritten (lastWritten made earlier) later slot := by
  rw [lastWritten, List.reverse_append, List.lookup_append, Option.getD_or]
  rfl

/-- Whatever is done with a pool, a slot has the value written to it last, or still the one it had. -/
theorem value?_run (leases : Leases α) (uses : List (Use α)) {made : Nat → α}
    (hmade : leases.pool.value? slot = some (made slot)) :
    (leases.run uses).pool.value? slot = some (lastWritten made (leases.writes uses) slot) := by
  induction uses generalizing leases made with
  | nil => exact hmade
  | cons use uses ih =>
      rw [writes, lastWritten_append]
      apply ih
      rw [value?_perform, hmade]
      cases leases.written? use <;> rfl

/-- **No two holders share a slot.** After any uses of a pool of `n` slots, no two grants that are held
are of one slot, and as many slots are free as nobody holds. Whoever is lent a slot gets one that
nobody held, and where there is none to lend no slot changes. Through a grant one reads what was written
last to its slot, by whomever, and what is written through it is read through it and no other. -/
theorem handles_exclusive (n : Nat) (made : Nat → α) (uses : List (Use α)) :
    let leases := (start (.ofFn n made)).run uses
    leases.slots.Nodup ∧ (∀ slot ∈ leases.slots, slot < n) ∧
    leases.held.length ≤ n ∧ leases.pool.available = n - leases.held.length ∧
    (∀ grant slot after, leases.acquire = (some (grant, slot), after) →
      slot ∉ leases.slots ∧ after.held = (grant, slot) :: leases.held) ∧
    (∀ after, leases.acquire = (none, after) →
      after.pool.slots = leases.pool.slots ∧ after.held = leases.held) ∧
    (∀ lease ∈ leases.held, leases.read? lease.1 =
      some (lastWritten made ((start (.ofFn n made)).writes uses) lease.2)) ∧
    ∀ lease ∈ leases.held, ∀ value, ∃ after, leases.write? lease.1 value = some after ∧
      after.read? lease.1 = some value ∧
      ∀ other, other ≠ lease.1 → after.read? other = leases.read? other := by
  intro leases
  have hexclusive : leases.Exclusive := (Exclusive.start n made).run uses
  have hcapacity : leases.pool.capacity = n := by
    rw [capacity_run]
    exact Array.size_ofFn
  have hslots : ∀ slot ∈ leases.slots, slot < n := by
    rw [← hcapacity]
    exact hexclusive.slots_lt
  have havailable := hexclusive.available_add
  rw [hcapacity] at havailable
  refine ⟨hexclusive.slots_nodup, hslots, by omega, by omega, fun _ _ _ => hexclusive.acquire_some,
    fun _ => acquire_none, ?_, ?_⟩
  · intro lease hlease
    rw [read?, hexclusive.slot?_of_mem hlease]
    exact value?_run _ uses
      (SlotPool.value?_ofFn made (hslots lease.2 (List.mem_map_of_mem hlease)))
  · intro lease hlease value
    have hwrite := congrArg (Option.map fun slot => { leases with pool := leases.pool.write slot value })
      (hexclusive.slot?_of_mem hlease)
    exact ⟨_, hwrite, hexclusive.read?_write_self hwrite, fun _ => hexclusive.read?_write_of_ne hwrite⟩

/-- Two slots are lent out, the first one is written to, given back and lent again with what was written,
and then there is none to lend. -/
example :
    let leases := (start (.ofFn 2 id)).run [.acquire, .write 0 7, .acquire, .release 0, .acquire]
    leases.held = [(2, 0), (1, 1)] ∧ leases.read? 2 = some 7 ∧ leases.read? 1 = some 1 ∧
      leases.read? 0 = none ∧ leases.acquire.1 = none := by
  decide

end Leases

end MarketFeed
