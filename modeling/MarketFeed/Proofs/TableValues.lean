import MarketFeed.Table

/-! The values of a table, in whatever order the keys stand. Putting a value under a free key adds
it to them; taking out a key takes its value out; putting a value under a key in use exchanges the
two. -/

namespace MarketFeed.Table

variable {α : Type} {table : Table α} {key : Nat} {value old : α}

theorem lookup_eq_some_iff {entries : List (Nat × α)}
    (hasc : entries.Pairwise fun a b => a.1 < b.1) :
    lookup key entries = some value ↔ (key, value) ∈ entries := by
  induction entries with
  | nil => simp [lookup]
  | cons first rest ih =>
      obtain ⟨k, a⟩ := first
      obtain ⟨hfirst, hrest⟩ := List.pairwise_cons.1 hasc
      rw [lookup, List.mem_cons, Prod.mk.injEq]
      by_cases hk : k = key
      · subst hk
        have hnot : (k, value) ∉ rest := fun hmem =>
          Nat.lt_irrefl _ (hfirst (k, value) hmem)
        rw [if_pos rfl, Option.some.injEq]
        exact ⟨fun h => Or.inl ⟨rfl, h.symm⟩, fun h => (h.resolve_right hnot).2.symm⟩
      · rw [if_neg hk, ih hrest]
        exact ⟨Or.inr, fun h => h.resolve_left fun heq => hk heq.1.symm⟩

theorem mem_values_iff : value ∈ table.values ↔ ∃ key, table.find? key = some value := by
  rw [values, List.mem_map]
  constructor
  · rintro ⟨⟨key, a⟩, hmem, rfl⟩
    exact ⟨key, (lookup_eq_some_iff table.ascending).2 hmem⟩
  · rintro ⟨key, hfind⟩
    exact ⟨(key, value), (lookup_eq_some_iff table.ascending).1 hfind, rfl⟩

theorem values_dropEntry {entries : List (Nat × α)} (hfind : lookup key entries = some value) :
    (entries.map (·.2)).Perm (value :: (dropEntry key entries).map (·.2)) := by
  induction entries with
  | nil => cases hfind
  | cons first rest ih =>
      obtain ⟨k, a⟩ := first
      rw [lookup] at hfind
      rw [dropEntry]
      by_cases hk : k = key
      · rw [if_pos hk] at hfind ⊢
        cases hfind
        exact List.Perm.refl _
      · rw [if_neg hk] at hfind ⊢
        exact ((ih hfind).cons a).trans (List.Perm.swap _ _ _)

/-- A value that stands under a key is one of the values, next to those left without the key. -/
theorem values_erase (hfind : table.find? key = some value) :
    table.values.Perm (value :: (table.erase key).values) :=
  values_dropEntry hfind

/-- A value put under a key joins the values left without the key. -/
theorem values_insert : (table.insert key value).values.Perm (value :: (table.erase key).values) := by
  have hback : (table.insert key value).erase key = table.erase key := by
    refine ext_find? fun other => ?_
    rw [find?_erase, find?_erase, find?_insert]
    split <;> rfl
  rw [← hback]
  exact values_erase (by rw [find?_insert, if_pos rfl])

theorem erase_of_find?_eq_none (hfind : table.find? key = none) : table.erase key = table := by
  refine ext_find? fun other => ?_
  rw [find?_erase]
  split
  · rename_i heq
    rw [← heq, hfind]
  · rfl

theorem size_eq_length_values : table.size = table.values.length := by
  rw [size, values, List.length_map]

theorem size_erase_le (table : Table α) (key : Nat) : (table.erase key).size ≤ table.size := by
  cases hfind : table.find? key with
  | none => exact Nat.le_of_eq (congrArg size (erase_of_find?_eq_none hfind))
  | some value =>
      have := (values_erase hfind).length_eq
      rw [List.length_cons] at this
      rw [size_eq_length_values, size_eq_length_values]
      omega

theorem size_insert_le (table : Table α) (key : Nat) (value : α) :
    (table.insert key value).size ≤ table.size + 1 := by
  rw [size_eq_length_values, values_insert.length_eq, List.length_cons, ← size_eq_length_values]
  exact Nat.succ_le_succ (table.size_erase_le key)

/-- Tables whose values stand under keys of their own are equal when these keys look up the same. -/
theorem ext_of_own_keys {other : Table α} {own : α → Nat}
    (h : ∀ key value, table.find? key = some value → own value = key)
    (h' : ∀ key value, other.find? key = some value → own value = key)
    (hsame : ∀ value, table.find? (own value) = other.find? (own value)) : table = other := by
  refine ext_find? fun key => ?_
  cases hfind : table.find? key with
  | some value =>
      have hkey := h key value hfind
      rw [← hkey, ← hsame, hkey, hfind]
  | none =>
      cases hother : other.find? key with
      | none => rfl
      | some value =>
          have hkey := h' key value hother
          have := hsame value
          rw [hkey, hfind, hother] at this
          cases this

end MarketFeed.Table
