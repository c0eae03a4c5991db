import MarketFeed.SequenceTracker

/-!
Asking for missing numbers. A scheduler asks for the earliest run, and asks for a run with the same
start again only after a pause. Times are nanoseconds from some origin; a clock that goes back has
let no time pass.
-/

namespace MarketFeed

/-- A request for the numbers from `first` to `last`. -/
structure GapRequest where
  first : UInt64
  last : UInt64
  deriving DecidableEq, Repr

/-- When to ask again, how much to ask for, and what was asked for last and when. -/
structure GapFillScheduler where
  retryInterval : Nat
  maxRange : UInt64
  lastRequest : Option (GapRequest × Nat)
  deriving DecidableEq

namespace GapFillScheduler

def start (retryInterval : Nat) (maxRange : UInt64) : GapFillScheduler :=
  { retryInterval, maxRange, lastRequest := none }

/-- Whether the last request had this start and is too recent to be repeated. -/
def holdsBack (scheduler : GapFillScheduler) (first : UInt64) (now : Nat) : Bool :=
  match scheduler.lastRequest with
  | some (request, since) => request.first = first ∧ now - since < scheduler.retryInterval
  | none => false

/-- The request due now, if there is one. -/
def poll (scheduler : GapFillScheduler) (tracker : SequenceTracker) (now : Nat) :
    Option GapRequest × GapFillScheduler :=
  match tracker.firstMissingRange? scheduler.maxRange with
  | none => (none, scheduler)
  | some (first, last) =>
      if scheduler.holdsBack first now then (none, scheduler)
      else
        let request : GapRequest := ⟨first, last⟩
        (some request, { scheduler with lastRequest := some (request, now) })

def clear (scheduler : GapFillScheduler) : GapFillScheduler :=
  { scheduler with lastRequest := none }

end GapFillScheduler

end MarketFeed
