/-!
Bytes as they travel on the wire. A whole number takes a fixed count of bytes, the lowest first, so
writing keeps the number modulo the count of such runs, and reading a word from the front gives back the word
that was written there together with the bytes behind it.
-/

namespace MarketFeed

abbrev Bytes := List UInt8

namespace Bytes

/-- The lowest `width` bytes of `n`, the lowest first. -/
def ofNat : Nat → Nat → Bytes
  | 0, _ => []
  | width + 1, n => UInt8.ofNat n :: ofNat width (n / 256)

/-- How many runs of `width` bytes there are. -/
def runCount : Nat → Nat
  | 0 => 1
  | width + 1 => 256 * runCount width

/-- The number whose digits to the base 256 are the bytes, the lowest first. -/
def toNat : Bytes → Nat
  | [] => 0
  | b :: rest => b.toNat + 256 * toNat rest

@[simp] theorem length_ofNat (width n : Nat) : (ofNat width n).length = width := by
  induction width generalizing n with
  | zero => rfl
  | succ width ih => simp [ofNat, ih]

@[simp] theorem toNat_ofNat (width n : Nat) : toNat (ofNat width n) = n % runCount width := by
  induction width generalizing n with
  | zero => simp [ofNat, toNat, runCount, Nat.mod_one]
  | succ width ih =>
      have lowest : (UInt8.ofNat n).toNat = n % 256 := by simp
      rw [ofNat, toNat, ih, lowest, runCount, Nat.mod_mul]

/-- The first `n` bytes and those behind them, when there are that many. -/
def split? (n : Nat) (bytes : Bytes) : Option (Bytes × Bytes) :=
  let front := bytes.take n
  if front.length = n then some (front, bytes.drop n) else none

theorem split?_append {n : Nat} {front rest : Bytes} (h : front.length = n) :
    split? n (front ++ rest) = some (front, rest) := by
  subst h
  simp [split?]

theorem split?_eq_none_iff {n : Nat} {bytes : Bytes} : split? n bytes = none ↔ bytes.length < n := by
  simp only [split?, List.length_take]
  split <;> simp <;> omega

/-- The 16-bit word in front, and what is behind it. -/
def word16? (bytes : Bytes) : Option (UInt16 × Bytes) :=
  (split? 2 bytes).map fun (front, rest) => (UInt16.ofNat (toNat front), rest)

def word32? (bytes : Bytes) : Option (UInt32 × Bytes) :=
  (split? 4 bytes).map fun (front, rest) => (UInt32.ofNat (toNat front), rest)

def word64? (bytes : Bytes) : Option (UInt64 × Bytes) :=
  (split? 8 bytes).map fun (front, rest) => (UInt64.ofNat (toNat front), rest)

def byte? : Bytes → Option (UInt8 × Bytes)
  | [] => none
  | b :: rest => some (b, rest)

def ofWord16 (w : UInt16) : Bytes := ofNat 2 w.toNat

def ofWord32 (w : UInt32) : Bytes := ofNat 4 w.toNat

def ofWord64 (w : UInt64) : Bytes := ofNat 8 w.toNat

@[simp] theorem word16?_append (w : UInt16) (rest : Bytes) :
    word16? (ofWord16 w ++ rest) = some (w, rest) := by
  have small : w.toNat < runCount 2 := w.toNat_lt
  rw [word16?, ofWord16, split?_append (length_ofNat 2 _)]
  simp [Nat.mod_eq_of_lt small]

@[simp] theorem word32?_append (w : UInt32) (rest : Bytes) :
    word32? (ofWord32 w ++ rest) = some (w, rest) := by
  have small : w.toNat < runCount 4 := w.toNat_lt
  rw [word32?, ofWord32, split?_append (length_ofNat 4 _)]
  simp [Nat.mod_eq_of_lt small]

@[simp] theorem word64?_append (w : UInt64) (rest : Bytes) :
    word64? (ofWord64 w ++ rest) = some (w, rest) := by
  have small : w.toNat < runCount 8 := w.toNat_lt
  rw [word64?, ofWord64, split?_append (length_ofNat 8 _)]
  simp [Nat.mod_eq_of_lt small]

/-- The bytes followed by zeros up to `size`; longer runs stay as they are. -/
def padTo (size : Nat) (bytes : Bytes) : Bytes :=
  bytes ++ List.replicate (size - bytes.length) 0

theorem length_padTo (size : Nat) (bytes : Bytes) (h : bytes.length ≤ size) :
    (bytes.padTo size).length = size := by
  simp [padTo]
  omega

end Bytes

end MarketFeed
