/-!
The notice that a connection is gone. Any worker may raise it with a reason; the first reason stays,
until it is taken.
-/

namespace MarketFeed

/-- Whether the connection is gone, and why, as long as the reason has not been taken. -/
structure DisconnectSignal where
  raised : Bool
  reason : Option String
  deriving DecidableEq

namespace DisconnectSignal

def clear : DisconnectSignal := ⟨false, none⟩

/-- Raises the notice; a later reason does not replace an earlier one. -/
def raise (signal : DisconnectSignal) (reason : String) : DisconnectSignal :=
  if signal.raised then signal else ⟨true, some reason⟩

/-- The signal once its reason has been taken. -/
def taken (signal : DisconnectSignal) : DisconnectSignal := { signal with reason := none }

@[simp] theorem raised_raise (signal : DisconnectSignal) (reason : String) :
    (signal.raise reason).raised = true := by
  unfold raise
  split <;> simp_all

theorem raise_of_raised {signal : DisconnectSignal} (h : signal.raised = true) (reason : String) :
    signal.raise reason = signal := by
  simp [raise, h]

end DisconnectSignal

end MarketFeed
