/-!
The numbers a stream has skipped and not yet delivered, as an ascending list. Skipping a stretch
adds its numbers in order while there is room; the earliest run is the list's longest stretch of
neighbours at the front.
-/

namespace MarketFeed.Missing

/-- Adds `count` numbers from `next` on to numbers that are all at least `next`, while there is room
for new ones, and tells how many numbers were not reached. A number that is there already takes no
room, but none is looked at once there is no room. -/
def fill : (count next room : Nat) → List Nat → List Nat × Nat
  | 0, _, _, later => (later, 0)
  | count + 1, _, 0, later => (later, count + 1)
  | count + 1, next, room + 1, later =>
      if later.head? = some next then
        let (filled, left) := fill count (next + 1) (room + 1) later.tail
        (next :: filled, left)
      else
        let (filled, left) := fill count (next + 1) room later
        (next :: filled, left)

/-- Adds `count` numbers from `next` on to the missing numbers, while these are fewer than `limit`,
and tells how many numbers were not reached. -/
def skip (missing : List Nat) (limit next count : Nat) : List Nat × Nat :=
  let (earlier, later) := missing.span (· < next)
  let (filled, left) := fill count next (limit - missing.length) later
  (earlier ++ filled, left)

/-- The last number of the run that `last` is in, going on over at most `room` of the numbers. -/
def runEnd (last : Nat) : (room : Nat) → List Nat → Nat
  | 0, _ => last
  | _ + 1, [] => last
  | room + 1, n :: rest => if n = last + 1 then runEnd n room rest else last

/-- The earliest run of missing numbers, cut to `limit` numbers but never to less than one. -/
def firstRun? (missing : List Nat) (limit : Nat) : Option (Nat × Nat) :=
  match missing with
  | [] => none
  | start :: rest => some (start, runEnd start (max limit 1 - 1) rest)

end MarketFeed.Missing
