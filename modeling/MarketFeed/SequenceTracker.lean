import MarketFeed.SequenceMissing
import MarketFeed.Words

/-!
Following the sequence numbers of one stream. The tracker knows the number it expects next and the
numbers it has passed over; a number before the expected one is either one of those or a duplicate.
The number after the largest word is 0. Numbers that are too many to be looked for are only counted; a
stretch of them that a word can no longer count is refused, as a sum with overflow checks is.
-/

namespace MarketFeed

/-- What a received number means. -/
inductive SequenceOutcome where
  /-- The expected number, or the first one ever seen. -/
  | inOrder
  /-- The numbers from `first` to `last` were passed over. -/
  | gap (first last : UInt64)
  /-- A number passed over earlier has come after all. -/
  | recovered
  /-- Seen before, or no longer looked for. -/
  | duplicate
  deriving DecidableEq, Repr

/-- Where a stream stands. -/
structure SequenceTracker where
  /-- The number expected next; unknown until the first one is seen. -/
  expected : Option UInt64
  /-- The last number that moved the expected one. -/
  lastReceived : Option UInt64
  /-- The numbers passed over and still looked for, ascending. -/
  missing : List Nat
  /-- How often numbers were passed over. -/
  gapEvents : UInt64
  /-- Numbers passed over that were too many to be looked for. -/
  untracked : UInt64
  /-- The most numbers that are looked for at once. -/
  maxMissing : Nat
  deriving DecidableEq

namespace SequenceTracker

/-- The cap on missing numbers unless another one is asked for. -/
def defaultMaxMissing : Nat := 100000

/-- A tracker that takes the first number seen as its start. -/
def unsynchronised (maxMissing : Nat) : SequenceTracker :=
  { expected := none, lastReceived := none, missing := [], gapEvents := 0, untracked := 0, maxMissing }

/-- A tracker that expects `next` first. -/
def startingAt (next : UInt64) (maxMissing : Nat) : SequenceTracker :=
  { unsynchronised maxMissing with expected := some next }

def advance (tracker : SequenceTracker) (n : UInt64) : SequenceTracker :=
  { tracker with expected := some (n + 1), lastReceived := some n }

/-- One received number: what it means, and the tracker after it. -/
def receive (tracker : SequenceTracker) (n : UInt64) :
    Except CountError (SequenceOutcome × SequenceTracker) :=
  match tracker.expected with
  | none => .ok (.inOrder, tracker.advance n)
  | some expected =>
      if n = expected then .ok (.inOrder, tracker.advance n)
      else if expected < n then
        let (missing, left) :=
          Missing.skip tracker.missing tracker.maxMissing expected.toNat (n.toNat - expected.toNat)
        (addChecked tracker.untracked (UInt64.ofNat left)).map fun untracked =>
          (.gap expected (n - 1),
            { tracker.advance n with missing, untracked, gapEvents := tracker.gapEvents + 1 })
      else if n.toNat ∈ tracker.missing then
        .ok (.recovered, { tracker with missing := tracker.missing.erase n.toNat })
      else .ok (.duplicate, tracker)

/-- Starts over at the number `next`, with nothing missing. The count of gaps goes on. -/
def reset (tracker : SequenceTracker) (next : UInt64) : SequenceTracker :=
  { tracker with expected := some next, lastReceived := none, missing := [], untracked := 0 }

def isMissing (tracker : SequenceTracker) (n : UInt64) : Bool := tracker.missing.contains n.toNat

/-- The earliest run of missing numbers, cut to `limit` numbers but never to less than one. -/
def firstMissingRange? (tracker : SequenceTracker) (limit : UInt64) : Option (UInt64 × UInt64) :=
  (Missing.firstRun? tracker.missing limit.toNat).map fun (first, last) =>
    (UInt64.ofNat first, UInt64.ofNat last)

end SequenceTracker

end MarketFeed
