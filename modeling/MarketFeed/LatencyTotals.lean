import MarketFeed.Words

/-!
Latency totals: how many messages were timed, and the sum of their latencies in nanoseconds.
-/

namespace MarketFeed

/-- A sum of latencies and the number of samples in it. -/
structure LatencyTotals where
  sum : UInt64
  samples : UInt64
  deriving DecidableEq

namespace LatencyTotals

def zero : LatencyTotals := ⟨0, 0⟩

/-- One more sample; the sum stops at the largest word. -/
def record (totals : LatencyTotals) (latency : UInt64) : LatencyTotals :=
  ⟨saturatingAdd totals.sum latency, totals.samples + 1⟩

def mean? (totals : LatencyTotals) : Option Float :=
  if totals.samples = 0 then none else some (totals.sum.toFloat / totals.samples.toFloat)

end LatencyTotals

end MarketFeed
