import MarketFeed.WireMessage
import MarketFeed.Words

/-!
Price levels of one side of a book, the best price first. Bids are best when highest, asks when
lowest. A level that loses all its quantity or all its orders goes. The sums of a level wrap, though
not before `2 ^ 32` orders rest at its price.
-/

namespace MarketFeed

/-- The resting orders at one price: their quantity in all and their number. -/
structure PriceLevel where
  price : UInt64
  quantity : UInt64
  orderCount : UInt32
  deriving DecidableEq

/-- Whether one price comes strictly before another on a side. -/
def Side.isBetter (side : Side) (price other : UInt64) : Bool :=
  match side with
  | .bid => other < price
  | .ask => price < other

namespace PriceLevel

def isEmpty (level : PriceLevel) : Bool := level.quantity == 0 || level.orderCount == 0

/-- The level after some of its quantity has gone, and with it one of its orders if `orderGone`. -/
def reduce (level : PriceLevel) (quantity : UInt64) (orderGone : Bool) : PriceLevel :=
  { level with
    quantity := saturatingSub level.quantity quantity
    orderCount := if orderGone ∧ level.orderCount ≠ 0 then level.orderCount - 1 else level.orderCount }

end PriceLevel

namespace Levels

/-- One more order of some quantity at a price. -/
def add (side : Side) (price quantity : UInt64) : List PriceLevel → List PriceLevel
  | [] => [⟨price, quantity, 1⟩]
  | level :: rest =>
      if side.isBetter level.price price then level :: add side price quantity rest
      else if level.price = price then
        { level with
          quantity := level.quantity + quantity, orderCount := level.orderCount + 1 } :: rest
      else ⟨price, quantity, 1⟩ :: level :: rest

/-- Some quantity less at a price, and one order less if `orderGone`. -/
def remove (price quantity : UInt64) (orderGone : Bool) : List PriceLevel → List PriceLevel
  | [] => []
  | level :: rest =>
      if level.price = price then
        let reduced := level.reduce quantity orderGone
        if reduced.isEmpty then rest else reduced :: rest
      else level :: remove price quantity orderGone rest

/-- An order at a price whose quantity changes from `old` to `new`. -/
def adjust (price old new : UInt64) : List PriceLevel → List PriceLevel
  | [] => []
  | level :: rest =>
      if level.price = price then
        let quantity := saturatingAdd (saturatingSub level.quantity old) new
        if quantity = 0 then rest else { level with quantity } :: rest
      else level :: adjust price old new rest

end Levels

end MarketFeed
