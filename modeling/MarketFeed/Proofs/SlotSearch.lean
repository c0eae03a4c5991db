import MarketFeed.Proofs.SlotLeases

/-! Looking for a free slot. A search begins at the slot that the count of searches gives and looks at as
many slots as there are. The count is a word: where it wraps while a search is under way, the search
goes on at slot 0, which is the next slot only if the number of slots divides the number of words.
Otherwise the search looks at some slots twice and at others not at all, and it may end with nothing
although a slot is free. -/

namespace MarketFeed

namespace SlotPool

variable {α : Type} {pool : SlotPool α} {slot : Nat}

/-- Whether the count of searches does not wrap during a search, or makes no jump where it does. -/
def GoesRound (pool : SlotPool α) : Prop :=
  pool.cursor.toNat + pool.capacity ≤ UInt64.size ∨ pool.capacity ∣ UInt64.size

theorem mem_probes_iff : slot ∈ pool.probes ↔
    ∃ offset < pool.capacity, (pool.cursor.toNat + offset) % UInt64.size % pool.capacity = slot := by
  have hsum (offset : Nat) : (pool.cursor + UInt64.ofNat offset).toNat =
      (pool.cursor.toNat + offset) % UInt64.size := by
    rw [UInt64.toNat_add, UInt64.toNat_ofNat']
    exact Nat.add_mod_mod _ _ _
  simp only [probes, List.mem_map, List.mem_range, hsum]

theorem lt_of_mem_probes (hslot : slot ∈ pool.probes) : slot < pool.capacity := by
  obtain ⟨offset, hoffset, rfl⟩ := mem_probes_iff.1 hslot
  exact Nat.mod_lt _ (Nat.zero_lt_of_lt hoffset)

/-- Steps of one from anywhere reach every remainder. -/
theorem exists_offset {n slot : Nat} (start : Nat) (hslot : slot < n) :
    ∃ offset < n, (start + offset) % n = slot := by
  have hpos : 0 < n := Nat.zero_lt_of_lt hslot
  refine ⟨(slot + (n - start % n)) % n, Nat.mod_lt _ hpos, ?_⟩
  have hstart := Nat.div_add_mod start n
  have hrest := Nat.mod_lt start hpos
  calc (start + (slot + (n - start % n)) % n) % n
      = (start + (slot + (n - start % n))) % n := Nat.add_mod_mod _ _ _
    _ = (slot + n + n * (start / n)) % n := by congr 1; omega
    _ = slot := by rw [Nat.add_mul_mod_self_left, Nat.add_mod_right, Nat.mod_eq_of_lt hslot]

theorem GoesRound.mem_probes (h : pool.GoesRound) (hslot : slot < pool.capacity) :
    slot ∈ pool.probes := by
  obtain ⟨offset, hoffset, hreached⟩ := exists_offset pool.cursor.toNat hslot
  refine mem_probes_iff.2 ⟨offset, hoffset, ?_⟩
  rcases h with hbefore | hdivides
  · have hsmall : pool.cursor.toNat + offset < UInt64.size := by omega
    rw [Nat.mod_eq_of_lt hsmall, hreached]
  · rw [Nat.mod_mod_of_dvd _ hdivides, hreached]

/-- A remainder that is not reached by steps of one from `start` which begin again at 0 when they come
to `size`. Before that they come as far as the remainder of `size`, behind which they would have to go
on; this is the last remainder that would have been reached then, or the last of all. -/
theorem ne_of_jump {size start n offset : Nat} (hstart : start < size) (hwraps : size < start + n)
    (hdivides : ¬n ∣ size) (hle : n ≤ size) (hoffset : offset < n) :
    (start + offset) % size % n ≠ n - 1 - (size - start - size % n) := by
  have hrest : 0 < size % n := Nat.emod_pos_of_not_dvd hdivides
  have hlt : size % n < n := Nat.mod_lt _ (by omega)
  obtain ⟨rounds, hrounds⟩ := Nat.exists_eq_add_of_lt (Nat.div_pos hle (by omega))
  have hsize := Nat.div_add_mod' size n
  rw [hrounds, Nat.zero_add, Nat.succ_mul] at hsize
  generalize size % n = rest at *
  rcases Nat.lt_or_ge (start + offset) size with hbefore | hbehind
  · rw [Nat.mod_eq_of_lt hbefore]
    rcases Nat.lt_or_ge (start + offset) (rounds * n + n) with hearlier | hlast
    · obtain ⟨inRound, hinRound⟩ := Nat.exists_eq_add_of_le (show rounds * n ≤ start + offset by omega)
      have hmod : (rounds * n + inRound) % n = inRound := Nat.mul_add_mod_of_lt (by omega)
      rw [hinRound, hmod]
      omega
    · obtain ⟨inRound, hinRound⟩ := Nat.exists_eq_add_of_le hlast
      have hmod : (rounds * n + n + inRound) % n = inRound := by
        rw [← Nat.succ_mul]
        exact Nat.mul_add_mod_of_lt (by omega)
      rw [hinRound, hmod]
      omega
  · have hagain : (start + offset) % size = start + offset - size := by
      rw [Nat.mod_eq_sub_mod hbehind, Nat.mod_eq_of_lt (by omega)]
    have hmod : (start + offset - size) % n = start + offset - size := Nat.mod_eq_of_lt (by omega)
    rw [hagain, hmod]
    omega

theorem notMem_probes (pool : SlotPool α) (hwraps : UInt64.size < pool.cursor.toNat + pool.capacity)
    (hdivides : ¬pool.capacity ∣ UInt64.size) (hword : pool.capacity ≤ UInt64.size) :
    pool.capacity - 1 - (UInt64.size - pool.cursor.toNat - UInt64.size % pool.capacity) ∉
      pool.probes := by
  intro hmem
  obtain ⟨offset, hoffset, hreached⟩ := mem_probes_iff.1 hmem
  exact ne_of_jump (UInt64.toNat_lt_size _) hwraps hdivides hword hoffset hreached

theorem goesRound_iff (pool : SlotPool α) (hword : pool.capacity ≤ UInt64.size) :
    pool.GoesRound ↔ ∀ slot < pool.capacity, slot ∈ pool.probes := by
  refine ⟨fun h slot hslot => h.mem_probes hslot, fun h => ?_⟩
  by_contra hjumps
  obtain ⟨hwraps, hdivides⟩ := not_or.1 hjumps
  rcases Nat.eq_zero_or_pos pool.capacity with hempty | hpos
  · have hcursor : pool.cursor.toNat < UInt64.size := UInt64.toNat_lt_size _
    omega
  · exact pool.notMem_probes (Nat.lt_of_not_le hwraps) hdivides hword (h _ (by omega))

theorem acquire_eq_none_iff :
    pool.acquire.1 = none ↔ ∀ slot ∈ pool.probes, pool.isFree slot = false := by
  have hfind : pool.acquire.1 = none ↔ pool.probes.find? pool.isFree = none := by
    rw [acquire]
    cases pool.probes.find? pool.isFree with
    | none => exact iff_of_true rfl rfl
    | some slot => exact iff_of_false (Option.some_ne_none slot) (Option.some_ne_none slot)
  rw [hfind, List.find?_eq_none]
  simp only [Bool.not_eq_true]

theorem available_eq_zero_iff :
    pool.available = 0 ↔ ∀ slot < pool.capacity, pool.isFree slot = false := by
  rw [available_eq, List.countP_eq_zero]
  simp only [List.mem_range, Bool.not_eq_true]

theorem GoesRound.acquire_eq_none_iff (h : pool.GoesRound) :
    pool.acquire.1 = none ↔ pool.available = 0 := by
  rw [SlotPool.acquire_eq_none_iff, available_eq_zero_iff]
  exact ⟨fun hlooked slot hslot => hlooked slot (h.mem_probes hslot),
    fun htaken slot hslot => htaken slot (lt_of_mem_probes hslot)⟩

/-- A search ends at its first slot if that is free. -/
theorem acquire_of_isFree (hfree : pool.isFree (pool.cursor.toNat % pool.capacity) = true) :
    pool.acquire = (some (pool.cursor.toNat % pool.capacity),
      pool.advance.mark (pool.cursor.toNat % pool.capacity) true) := by
  obtain ⟨further, hcapacity⟩ := Nat.exists_eq_succ_of_ne_zero (Nat.ne_zero_of_lt (lt_of_isFree hfree))
  have hfirst : pool.cursor + UInt64.ofNat 0 = pool.cursor := UInt64.add_zero _
  have hfound : pool.probes.find? pool.isFree = some (pool.cursor.toNat % pool.capacity) := by
    rw [probes]
    conv in List.range _ => rw [hcapacity]
    rw [List.range_succ_eq_map, List.map_cons, hfirst, List.find?_cons_of_pos hfree]
  rw [acquire, hfound]
  rfl

end SlotPool

namespace Leases

variable {α : Type} {leases : Leases α} {n : Nat}

theorem acquire_eq_none_iff : leases.acquire.1 = none ↔ leases.pool.acquire.1 = none := by
  rw [acquire]
  rcases leases.pool.acquire with ⟨_ | slot, pool⟩
  · exact iff_of_true rfl rfl
  · exact iff_of_false (Option.some_ne_none _) (Option.some_ne_none _)

def Use.isAcquire : Use α → Bool
  | .acquire => true
  | _ => false

theorem cursor_perform (leases : Leases α) (use : Use α) : (leases.perform use).pool.cursor =
    leases.pool.cursor + UInt64.ofNat (if use.isAcquire then 1 else 0) := by
  have hsame : leases.pool.cursor = leases.pool.cursor + UInt64.ofNat 0 := (UInt64.add_zero _).symm
  cases use with
  | acquire =>
      rw [perform]
      rcases leases.acquire_cases with ⟨slot, -, hacquire⟩ | hacquire
      · rw [hacquire]
        rfl
      · rw [hacquire]
        rfl
  | write grant value =>
      rw [perform, write?]
      cases leases.slot? grant with
      | none => exact hsame
      | some slot => exact hsame
  | release grant =>
      rw [perform, release?]
      cases leases.slot? grant with
      | none => exact hsame
      | some slot => exact hsame

theorem cursor_run (leases : Leases α) (uses : List (Use α)) : (leases.run uses).pool.cursor =
    leases.pool.cursor + UInt64.ofNat (uses.countP Use.isAcquire) := by
  induction uses generalizing leases with
  | nil => exact (UInt64.add_zero _).symm
  | cons use uses ih =>
      rw [run, List.foldl_cons, ← run, ih, cursor_perform, List.countP_cons, UInt64.add_assoc,
        ← UInt64.ofNat_add, Nat.add_comm (uses.countP Use.isAcquire)]

theorem toNat_cursor_run_start (n : Nat) (made : Nat → α) (uses : List (Use α)) :
    ((start (.ofFn n made)).run uses).pool.cursor.toNat =
      uses.countP Use.isAcquire % UInt64.size := by
  have hstart : (start (SlotPool.ofFn n made)).pool.cursor = 0 := rfl
  rw [cursor_run, hstart, UInt64.zero_add, UInt64.toNat_ofNat']

/-! ### A search that misses a slot -/

theorem run_append (leases : Leases α) (uses later : List (Use α)) :
    leases.run (uses ++ later) = (leases.run uses).run later := List.foldl_append

theorem countP_replicate_acquire (count : Nat) :
    (List.replicate count (Use.acquire : Use α)).countP Use.isAcquire = count :=
  List.countP_replicate

/-- While slots are only asked for, they are lent in their order. -/
theorem held_run_acquire (made : Nat → α) (hword : n < UInt64.size) {count : Nat} (hcount : count ≤ n) :
    let leases := (start (.ofFn n made)).run (List.replicate count .acquire)
    leases.granted = count ∧ leases.held = ((List.range count).map fun slot => (slot, slot)).reverse := by
  induction count with
  | zero => exact ⟨rfl, rfl⟩
  | succ count ih =>
      obtain ⟨hgranted, hheld⟩ := ih (Nat.le_of_succ_le hcount)
      rw [List.replicate_succ', run_append]
      set leases := (start (SlotPool.ofFn n made)).run (List.replicate count .acquire) with hleases
      have hexclusive : leases.Exclusive := (Exclusive.start n made).run _
      have hcapacity : leases.pool.capacity = n := (capacity_run _ _).trans Array.size_ofFn
      have hcursor : leases.pool.cursor.toNat % leases.pool.capacity = count := by
        rw [hleases, toNat_cursor_run_start, countP_replicate_acquire, ← hleases, hcapacity,
          Nat.mod_eq_of_lt (Nat.lt_trans hcount hword), Nat.mod_eq_of_lt hcount]
      have hunheld : count ∉ leases.slots := by
        rw [slots, hheld, List.map_reverse, List.map_map, List.mem_reverse]
        simp
      have hfree : leases.pool.isFree (leases.pool.cursor.toNat % leases.pool.capacity) = true := by
        rw [hcursor]
        exact (hexclusive.isFree_iff count (by omega)).2 hunheld
      have hlent := SlotPool.acquire_of_isFree hfree
      rw [hcursor] at hlent
      show (leases.acquire.2).granted = _ ∧ (leases.acquire.2).held = _
      rw [acquire, hlent]
      refine ⟨congrArg (· + 1) hgranted, ?_⟩
      show (leases.granted, count) :: leases.held = _
      rw [hgranted, hheld, List.range_succ, List.map_append, List.reverse_append]
      rfl

/-- Where all slots are taken, asking for one only counts. -/
theorem run_acquire_of_full (hfull : leases.pool.available = 0) (count : Nat) :
    (leases.run (List.replicate count .acquire)).held = leases.held := by
  induction count generalizing leases with
  | zero => rfl
  | succ count ih =>
      have htaken := SlotPool.available_eq_zero_iff.1 hfull
      rcases leases.acquire_cases with ⟨slot, hfree, -⟩ | hnone
      · rw [htaken slot (SlotPool.lt_of_isFree hfree)] at hfree
        cases hfree
      · rw [List.replicate_succ, run, List.foldl_cons, ← run, perform, hnone]
        have hadvanced : ({ leases with pool := leases.pool.advance } : Leases α).pool.available = 0 := hfull
        exact ih hadvanced

theorem held_run_acquire_of_le (made : Nat → α) (hword : n < UInt64.size) {count : Nat}
    (hcount : n ≤ count) : ((start (.ofFn n made)).run (List.replicate count .acquire)).held =
      ((List.range n).map fun slot => (slot, slot)).reverse := by
  obtain ⟨further, rfl⟩ := Nat.exists_eq_add_of_le hcount
  obtain ⟨-, hheld⟩ := held_run_acquire made hword (Nat.le_refl n)
  have hexclusive : Exclusive ((start (.ofFn n made)).run (List.replicate n .acquire)) :=
    (Exclusive.start n made).run _
  have hfull := hexclusive.available_add
  rw [hheld, capacity_run, List.length_reverse, List.length_map, List.length_range] at hfull
  have hcapacity : (start (SlotPool.ofFn n made)).pool.capacity = n := Array.size_ofFn
  rw [List.replicate_add, run_append, run_acquire_of_full (by omega), hheld]

/-- Slots are asked for so many times, and then the one that was lent as number `last`, counted from 0, is
given back. -/
def leavingLast (count last : Nat) : List (Use α) := List.replicate count .acquire ++ [.release last]

theorem held_run_leavingLast {made : Nat → α} {count last : Nat} (hword : last + 1 < UInt64.size)
    (hcount : last + 1 ≤ count) : ((start (.ofFn (last + 1) made)).run (leavingLast count last)).held =
      ((List.range last).map fun slot => (slot, slot)).reverse := by
  have hheld := held_run_acquire_of_le made hword hcount
  rw [List.range_succ, List.map_append, List.reverse_append] at hheld
  rw [leavingLast, run_append]
  generalize (start (SlotPool.ofFn (last + 1) made)).run (List.replicate count .acquire) = leases at *
  have hslot : leases.slot? last = some last := by
    rw [slot?, hheld]
    exact List.lookup_cons_self
  have hothers : ∀ lease ∈ ((List.range last).map fun slot => (slot, slot)).reverse,
      (lease.1 != last) = true := by
    intro lease hlease
    obtain ⟨slot, hslot, rfl⟩ := List.mem_map.1 (List.mem_reverse.1 hlease)
    exact bne_iff_ne.2 (Nat.ne_of_lt (List.mem_range.1 hslot))
  show (leases.perform (.release last)).held = _
  rw [perform, release?, hslot]
  show leases.held.filter (·.1 != last) = _
  rw [hheld, List.map_singleton, List.reverse_singleton, List.singleton_append,
    List.filter_cons_of_neg (by simp), List.filter_eq_self.2 hothers]

/-- The last slot alone is free, and the search that begins just before the count wraps misses it. -/
theorem misses_last {last : Nat} (h : leases.Exclusive) (hcapacity : leases.pool.capacity = last + 1)
    (hheld : leases.held = ((List.range last).map fun slot => (slot, slot)).reverse)
    (hcursor : leases.pool.cursor.toNat = UInt64.size - 1) (hword : last + 1 < UInt64.size)
    (hdivides : ¬last + 1 ∣ UInt64.size) :
    leases.pool.available = 1 ∧ leases.acquire.1 = none := by
  constructor
  · have htotal := h.available_add
    rw [hheld, hcapacity, List.length_reverse, List.length_map, List.length_range] at htotal
    omega
  · have hrest : 0 < UInt64.size % (last + 1) := Nat.emod_pos_of_not_dvd hdivides
    have hmissed : last ∉ leases.pool.probes := by
      have hpos : last ≠ 0 := by
        rintro rfl
        exact hdivides (Nat.one_dvd _)
      have hjump := leases.pool.notMem_probes (by omega) (by rwa [hcapacity]) (by omega)
      rw [hcapacity, hcursor] at hjump
      have hlast : last + 1 - 1 - (UInt64.size - (UInt64.size - 1) - UInt64.size % (last + 1)) = last := by
        omega
      rwa [hlast] at hjump
    rw [acquire_eq_none_iff, SlotPool.acquire_eq_none_iff]
    intro slot hslot
    have hlt := SlotPool.lt_of_mem_probes hslot
    have hne : slot ≠ last := fun heq => hmissed (heq ▸ hslot)
    have htaken : slot ∈ leases.slots := by
      rw [slots, hheld, List.map_reverse, List.map_map, List.mem_reverse]
      exact List.mem_map.2 ⟨slot, List.mem_range.2 (by omega), rfl⟩
    rw [← Bool.not_eq_true, h.isFree_iff slot hlt]
    exact not_not_intro htaken

/-- A pool in which the count makes a jump comes to miss a free slot. -/
theorem leavingLast_misses (made : Nat → α) {last : Nat} (hword : last + 1 < UInt64.size)
    (hdivides : ¬last + 1 ∣ UInt64.size) :
    ((start (.ofFn (last + 1) made)).run (leavingLast (UInt64.size - 1) last)).pool.available = 1 ∧
      ((start (.ofFn (last + 1) made)).run (leavingLast (UInt64.size - 1) last)).acquire.1 = none := by
  refine misses_last ((Exclusive.start _ made).run _) ((capacity_run _ _).trans Array.size_ofFn)
    (held_run_leavingLast hword (Nat.le_sub_one_of_lt hword)) ?_ hword hdivides
  have hasked (count : Nat) : (leavingLast (α := α) count last).countP Use.isAcquire = count := by
    rw [leavingLast, List.countP_append, countP_replicate_acquire]
    rfl
  rw [toNat_cursor_run_start, hasked]
  exact Nat.mod_eq_of_lt (by omega)

/-- **A pool lends a slot whenever one is free, as long as the count of searches makes no jump.** After
any uses, a search fails exactly when every slot that it looks at is taken. It looks at every slot exactly
when the count does not wrap on the way or the number of slots divides the number of words, and then it
fails exactly when every slot is taken. So it is throughout the life of a pool of `n` slots exactly when
`n` divides the number of words. -/
theorem lends_while_free_iff (n : Nat) (made : Nat → α) (hpos : 0 < n) (hword : n < UInt64.size) :
    (∀ uses : List (Use α),
      let leases := (start (.ofFn n made)).run uses
      let asked := uses.countP Use.isAcquire
      (leases.acquire.1 = none ↔ ∀ slot ∈ leases.pool.probes, leases.pool.isFree slot = false) ∧
      ((∀ slot < n, slot ∈ leases.pool.probes) ↔
        asked % UInt64.size + n ≤ UInt64.size ∨ n ∣ UInt64.size) ∧
      (asked % UInt64.size + n ≤ UInt64.size ∨ n ∣ UInt64.size →
        (leases.acquire.1 = none ↔ leases.pool.available = 0))) ∧
    ((∀ uses : List (Use α),
      let leases := (start (.ofFn n made)).run uses
      leases.acquire.1 = none ↔ leases.pool.available = 0) ↔ n ∣ UInt64.size) := by
  have hcapacity (uses : List (Use α)) : ((start (.ofFn n made)).run uses).pool.capacity = n :=
    (capacity_run _ _).trans Array.size_ofFn
  have hround (uses : List (Use α)) : let leases := (start (.ofFn n made)).run uses
      leases.pool.GoesRound ↔
        uses.countP Use.isAcquire % UInt64.size + n ≤ UInt64.size ∨ n ∣ UInt64.size := by
    show _ ∨ _ ↔ _
    rw [hcapacity, toNat_cursor_run_start]
  have hlends (uses : List (Use α)) : let leases := (start (.ofFn n made)).run uses
      leases.pool.GoesRound → (leases.acquire.1 = none ↔ leases.pool.available = 0) :=
    fun h => acquire_eq_none_iff.trans h.acquire_eq_none_iff
  refine ⟨fun uses => ⟨acquire_eq_none_iff.trans SlotPool.acquire_eq_none_iff, ?_, ?_⟩, ?_, ?_⟩
  · have hcover := ((start (.ofFn n made)).run uses).pool.goesRound_iff
    rw [hcapacity] at hcover
    exact (hcover (Nat.le_of_lt hword)).symm.trans (hround uses)
  · exact fun h => hlends uses ((hround uses).2 h)
  · intro hlends
    by_contra hdivides
    obtain ⟨last, rfl⟩ := Nat.exists_eq_succ_of_ne_zero (Nat.ne_of_gt hpos)
    obtain ⟨hfree, hnone⟩ := leavingLast_misses made hword hdivides
    rw [(hlends _).1 hnone] at hfree
    cases hfree
  · exact fun hdivides uses => hlends uses ((hround uses).2 (Or.inr hdivides))

/-- Three slots are lent, a fourth is asked for, and the middle one is given back. -/
def middleReturned : List (Use Nat) := List.replicate 4 .acquire ++ [.release 1]

theorem lends_while_free_iff_middleReturned :
    0 < 3 ∧ 3 < UInt64.size ∧
    let leases := (start (.ofFn 3 id)).run middleReturned
    (∀ slot < 3, slot ∈ leases.pool.probes) ∧ leases.pool.available = 1 ∧ leases.acquire.1 ≠ none := by
  have hpos : 0 < 3 := by decide
  have hword : 3 < UInt64.size := by decide
  have hearly : middleReturned.countP Use.isAcquire % UInt64.size + 3 ≤ UInt64.size := by decide
  obtain ⟨-, hcovers, hlends⟩ := (lends_while_free_iff 3 id hpos hword).1 middleReturned
  have hfree : ((start (.ofFn 3 id)).run middleReturned).pool.available = 1 := by decide
  refine ⟨hpos, hword, hcovers.2 (Or.inl hearly), hfree, ?_⟩
  intro hnone
  rw [(hlends (Or.inl hearly)).1 hnone] at hfree
  cases hfree

/-- Three slots are asked for until the count is about to wrap, and the last one is given back: nobody
is lent it. -/
theorem three_slots_miss_a_free_one :
    let leases := (start (.ofFn 3 id)).run (leavingLast (UInt64.size - 1) 2)
    leases.pool.available = 1 ∧ leases.acquire.1 = none :=
  leavingLast_misses id (by decide) (by decide)

end Leases

end MarketFeed
