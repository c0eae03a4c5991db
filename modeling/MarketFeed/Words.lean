/-!
Sums and differences of 64-bit words that do not wrap: some stop at the ends of the range, and a count
that passes the largest word is refused.

Whether a plain sum that passes its word is refused or wraps depends on how a program is built, with
overflow checks or without. The count of numbers given up can pass its word after two messages, and the
number of messages in a draft after `2 ^ 16`, so these follow the build with checks. All other plain
sums, those of the books above all, need `2 ^ 32` messages or more. They wrap, as without checks, which
keeps changes of books total; and what is proved of those sums keeps below that bound, where both builds
agree. The counters of a feed wrap in either build.
-/

namespace MarketFeed

/-- The sum of two words, held at the largest word. -/
def saturatingAdd (a b : UInt64) : UInt64 :=
  if a.toNat + b.toNat < UInt64.size then a + b else UInt64.ofNat (UInt64.size - 1)

/-- The difference of two words, held at 0. -/
def saturatingSub (a b : UInt64) : UInt64 := if b ≤ a then a - b else 0

inductive CountError where
  /-- The sum is too large for its word. -/
  | overflow
  deriving DecidableEq, Repr

def CountError.message : CountError → String
  | .overflow => "attempt to add with overflow"

/-- The sum of two words, if a word can hold it. -/
def addChecked (a b : UInt64) : Except CountError UInt64 :=
  if a.toNat + b.toNat < UInt64.size then .ok (a + b) else .error .overflow

/-- A checked sum is the exact one. -/
theorem toNat_of_addChecked {a b c : UInt64} (h : addChecked a b = .ok c) :
    c.toNat = a.toNat + b.toNat := by
  unfold addChecked at h
  split at h
  · rename_i small
    cases h
    rw [UInt64.toNat_add]
    exact Nat.mod_eq_of_lt small
  · cases h

theorem toNat_saturatingAdd (a b : UInt64) :
    (saturatingAdd a b).toNat = min (a.toNat + b.toNat) (UInt64.size - 1) := by
  have size : UInt64.size = 18446744073709551616 := rfl
  unfold saturatingAdd
  split
  · rename_i small
    rw [UInt64.toNat_add, Nat.mod_eq_of_lt small]
    omega
  · rw [size] at *
    simp
    omega

theorem toNat_saturatingSub (a b : UInt64) : (saturatingSub a b).toNat = a.toNat - b.toNat := by
  unfold saturatingSub
  split
  · rename_i h
    rw [UInt64.toNat_sub_of_le _ _ h]
  · rename_i h
    have : a.toNat ≤ b.toNat := Nat.le_of_not_le fun h' => h (UInt64.le_iff_toNat_le.2 h')
    simp; omega

end MarketFeed
