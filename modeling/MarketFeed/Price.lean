/-!
Prices. On the wire a price is a whole number of ticks, one tick being a hundred-millionth; a reader
may want it as a double instead.
-/

namespace MarketFeed.Price

/-- Ticks to a unit of price. -/
def scale : Float := 100000000

/-- The double nearest to the ticks, divided by the scale. -/
def ofTicks (ticks : UInt64) : Float := ticks.toFloat / scale

/-- The ticks nearest to the scaled price, a half going away from zero. What is below zero or not a
number gives no ticks, and what is too large gives the most there can be. -/
def toTicks (price : Float) : UInt64 := (price * scale).round.toUInt64

end MarketFeed.Price
