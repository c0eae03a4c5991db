/-!
Which instruments are of interest: all but a few, or only a few.
-/

namespace MarketFeed

/-- A choice of instruments. -/
inductive Subscriptions where
  | allBut (excluded : List UInt32)
  | only (included : List UInt32)
  deriving DecidableEq

namespace Subscriptions

def all : Subscriptions := .allBut []

def none : Subscriptions := .only []

/-- Unless another choice is made, every instrument. -/
instance : Inhabited Subscriptions := ⟨all⟩

def subscribe (id : UInt32) : Subscriptions → Subscriptions
  | .allBut excluded => .allBut (excluded.filter (· != id))
  | .only included => .only (included.insert id)

def unsubscribe (id : UInt32) : Subscriptions → Subscriptions
  | .allBut excluded => .allBut (excluded.insert id)
  | .only included => .only (included.filter (· != id))

def contains (subscriptions : Subscriptions) (id : UInt32) : Bool :=
  match subscriptions with
  | .allBut excluded => !excluded.contains id
  | .only included => included.contains id

/-- The calls that change a choice. -/
inductive Call where
  | subscribe (id : UInt32)
  | unsubscribe (id : UInt32)
  | subscribeAll
  | subscribeNone
  deriving DecidableEq

def apply (subscriptions : Subscriptions) : Call → Subscriptions
  | .subscribe id => subscriptions.subscribe id
  | .unsubscribe id => subscriptions.unsubscribe id
  | .subscribeAll => all
  | .subscribeNone => none

end Subscriptions

end MarketFeed
