/-!
Finite tables from numbers to values, kept by ascending key. Two tables with the same look-ups are
equal, whatever was done to build them.
-/

namespace MarketFeed

/-- A finite table; its entries are ascending in their keys. -/
structure Table (α : Type) where
  entries : List (Nat × α)
  ascending : entries.Pairwise fun a b => a.1 < b.1

namespace Table

variable {α : Type}

def empty : Table α := ⟨[], .nil⟩

/-- The keys, ascending. -/
def keys (table : Table α) : List Nat := table.entries.map (·.1)

/-- The values, by ascending key. -/
def values (table : Table α) : List α := table.entries.map (·.2)

def size (table : Table α) : Nat := table.entries.length

def lookup (key : Nat) : List (Nat × α) → Option α
  | [] => none
  | (k, a) :: rest => if k = key then some a else lookup key rest

def find? (table : Table α) (key : Nat) : Option α := lookup key table.entries

/-- Entries with a value put under a key, in place of the one there. -/
def putEntry (key : Nat) (value : α) : List (Nat × α) → List (Nat × α)
  | [] => [(key, value)]
  | (k, a) :: rest =>
      if key < k then (key, value) :: (k, a) :: rest
      else if k = key then (key, value) :: rest
      else (k, a) :: putEntry key value rest

/-- Entries without the one under a key. -/
def dropEntry (key : Nat) : List (Nat × α) → List (Nat × α)
  | [] => []
  | (k, a) :: rest => if k = key then rest else (k, a) :: dropEntry key rest

theorem mem_putEntry {key : Nat} {value : α} {entries : List (Nat × α)} {x : Nat × α}
    (h : x ∈ putEntry key value entries) : x = (key, value) ∨ x ∈ entries := by
  induction entries with
  | nil => simpa [putEntry] using h
  | cons first rest ih =>
      obtain ⟨k, a⟩ := first
      unfold putEntry at h
      split at h
      · simpa using h
      · split at h
        · rcases List.mem_cons.1 h with rfl | h
          · exact .inl rfl
          · exact .inr (List.mem_cons_of_mem _ h)
        · rcases List.mem_cons.1 h with rfl | h
          · exact .inr List.mem_cons_self
          · exact (ih h).imp_right (List.mem_cons_of_mem _)

theorem mem_of_mem_dropEntry {key : Nat} {entries : List (Nat × α)} {x : Nat × α}
    (h : x ∈ dropEntry key entries) : x ∈ entries := by
  induction entries with
  | nil => simp [dropEntry] at h
  | cons first rest ih =>
      obtain ⟨k, a⟩ := first
      unfold dropEntry at h
      split at h
      · exact List.mem_cons_of_mem _ h
      · rcases List.mem_cons.1 h with rfl | h
        · exact List.mem_cons_self
        · exact List.mem_cons_of_mem _ (ih h)

theorem ascending_putEntry {key : Nat} {value : α} {entries : List (Nat × α)}
    (h : entries.Pairwise fun a b => a.1 < b.1) :
    (putEntry key value entries).Pairwise fun a b => a.1 < b.1 := by
  induction entries with
  | nil => simp [putEntry]
  | cons first rest ih =>
      obtain ⟨k, a⟩ := first
      obtain ⟨hfirst, hrest⟩ := List.pairwise_cons.1 h
      unfold putEntry
      split
      · rename_i hlt
        refine List.pairwise_cons.2 ⟨fun x hx => ?_, h⟩
        rcases List.mem_cons.1 hx with rfl | hx
        · exact hlt
        · exact Nat.lt_trans hlt (hfirst x hx)
      · split
        · rename_i heq
          exact List.pairwise_cons.2 ⟨fun x hx => heq ▸ hfirst x hx, hrest⟩
        · refine List.pairwise_cons.2 ⟨fun x hx => ?_, ih hrest⟩
          rcases mem_putEntry hx with rfl | hx
          · simp only; omega
          · exact hfirst x hx

theorem ascending_dropEntry {key : Nat} {entries : List (Nat × α)}
    (h : entries.Pairwise fun a b => a.1 < b.1) :
    (dropEntry key entries).Pairwise fun a b => a.1 < b.1 := by
  induction entries with
  | nil => exact h
  | cons first rest ih =>
      obtain ⟨k, a⟩ := first
      obtain ⟨hfirst, hrest⟩ := List.pairwise_cons.1 h
      unfold dropEntry
      split
      · exact hrest
      · exact List.pairwise_cons.2 ⟨fun x hx => hfirst x (mem_of_mem_dropEntry hx), ih hrest⟩

/-- Puts a value under a key, in place of the one there. -/
def insert (table : Table α) (key : Nat) (value : α) : Table α :=
  ⟨putEntry key value table.entries, ascending_putEntry table.ascending⟩

def erase (table : Table α) (key : Nat) : Table α :=
  ⟨dropEntry key table.entries, ascending_dropEntry table.ascending⟩

/-! ### Look-ups -/

theorem lookup_eq_none {key : Nat} {entries : List (Nat × α)} (h : ∀ x ∈ entries, x.1 ≠ key) :
    lookup key entries = none := by
  induction entries with
  | nil => rfl
  | cons first rest ih =>
      obtain ⟨k, a⟩ := first
      rw [lookup, if_neg (h _ List.mem_cons_self)]
      exact ih fun x hx => h x (List.mem_cons_of_mem _ hx)

@[simp] theorem find?_empty (key : Nat) : (empty : Table α).find? key = none := rfl

theorem lookup_putEntry (key other : Nat) (value : α) (entries : List (Nat × α)) :
    lookup other (putEntry key value entries) =
      if key = other then some value else lookup other entries := by
  induction entries with
  | nil => simp [putEntry, lookup]
  | cons first rest ih =>
      obtain ⟨k, a⟩ := first
      unfold putEntry
      split
      · simp [lookup]
      · split
        · rename_i heq
          subst heq
          simp only [lookup]
          split <;> simp_all
        · simp only [lookup, ih]
          split <;> split <;> simp_all

theorem find?_insert (table : Table α) (key other : Nat) (value : α) :
    (table.insert key value).find? other = if key = other then some value else table.find? other :=
  lookup_putEntry key other value table.entries

theorem lookup_dropEntry {entries : List (Nat × α)} (h : entries.Pairwise fun a b => a.1 < b.1)
    (key other : Nat) :
    lookup other (dropEntry key entries) = if key = other then none else lookup other entries := by
  induction entries with
  | nil => simp [dropEntry, lookup]
  | cons first rest ih =>
      obtain ⟨k, a⟩ := first
      obtain ⟨hfirst, hrest⟩ := List.pairwise_cons.1 h
      unfold dropEntry
      split
      · rename_i heq
        subst heq
        split
        · rename_i heq
          subst heq
          exact lookup_eq_none fun x hx => Nat.ne_of_gt (hfirst x hx)
        · rename_i hne
          rw [lookup, if_neg hne]
      · simp only [lookup, ih hrest]
        split <;> split <;> simp_all

theorem find?_erase (table : Table α) (key other : Nat) :
    (table.erase key).find? other = if key = other then none else table.find? other :=
  lookup_dropEntry table.ascending key other

theorem entries_eq_of_lookup {entries others : List (Nat × α)}
    (h : entries.Pairwise fun a b => a.1 < b.1) (h' : others.Pairwise fun a b => a.1 < b.1)
    (same : ∀ key, lookup key entries = lookup key others) : entries = others := by
  induction entries generalizing others with
  | nil =>
      cases others with
      | nil => rfl
      | cons first rest => simpa [lookup] using same first.1
  | cons first rest ih =>
      cases others with
      | nil => simpa [lookup] using same first.1
      | cons first' rest' =>
          obtain ⟨k, a⟩ := first
          obtain ⟨k', a'⟩ := first'
          obtain ⟨hfirst, hrest⟩ := List.pairwise_cons.1 h
          obtain ⟨hfirst', hrest'⟩ := List.pairwise_cons.1 h'
          have below {key : Nat} {l : List (Nat × α)} {bound : Nat}
              (hl : ∀ x ∈ l, bound < x.1) (hk : key ≤ bound) : lookup key l = none :=
            lookup_eq_none fun x hx => by have := hl x hx; omega
          have hk : k = k' := by
            rcases Nat.lt_trichotomy k k' with hlt | heq | hgt
            · have := same k
              rw [lookup, if_pos rfl, lookup, if_neg (by omega),
                below hfirst' (Nat.le_of_lt hlt)] at this
              cases this
            · exact heq
            · have := same k'
              rw [lookup, if_neg (by omega), below hfirst (Nat.le_of_lt hgt), lookup, if_pos rfl] at this
              cases this
          subst hk
          have ha : a = a' := by simpa [lookup] using same k
          subst ha
          congr 1
          refine ih hrest hrest' fun key => ?_
          by_cases hkey : k = key
          · subst hkey
            rw [below hfirst (Nat.le_refl _), below hfirst' (Nat.le_refl _)]
          · simpa [lookup, hkey] using same key

/-- A table is its look-ups. -/
theorem ext_find? {table other : Table α} (same : ∀ key, table.find? key = other.find? key) :
    table = other := by
  obtain ⟨entries, h⟩ := table
  obtain ⟨others, h'⟩ := other
  have : entries = others := entries_eq_of_lookup h h' same
  subst this
  rfl

end Table

end MarketFeed
