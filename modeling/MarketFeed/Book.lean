import MarketFeed.BookLevels

/-!
The book of one instrument: its price levels, what has been traded, and what has been announced
about it. A snapshot is a book cut to so many levels a side. The totals of trades wrap, though not
before `2 ^ 32` trades.
-/

namespace MarketFeed

structure Book where
  instrument : UInt32
  symbol : Option String
  lotSize : Option UInt32
  bids : List PriceLevel
  asks : List PriceLevel
  lastTradePrice : Option UInt64
  lastTradeQuantity : UInt32
  totalVolume : UInt64
  turnover : BitVec 128
  tradeCount : UInt64
  statistics : Option (MessageHeader × DayFigures)
  deriving DecidableEq

namespace Book

def blank (instrument : UInt32) : Book :=
  { instrument, symbol := none, lotSize := none, bids := [], asks := [], lastTradePrice := none,
    lastTradeQuantity := 0, totalVolume := 0, turnover := 0, tradeCount := 0, statistics := none }

def levels (book : Book) : Side → List PriceLevel
  | .bid => book.bids
  | .ask => book.asks

def changeLevels (book : Book) (change : List PriceLevel → List PriceLevel) : Side → Book
  | .bid => { book with bids := change book.bids }
  | .ask => { book with asks := change book.asks }

/-- An order of some quantity comes to rest. -/
def addLiquidity (book : Book) (side : Side) (price quantity : UInt64) : Book :=
  book.changeLevels (Levels.add side price quantity) side

/-- Some quantity stops resting, and with it its order if `orderGone`. -/
def removeLiquidity (book : Book) (side : Side) (price quantity : UInt64) (orderGone : Bool) : Book :=
  book.changeLevels (Levels.remove price quantity orderGone) side

/-- A resting order's quantity changes from `old` to `new`. -/
def adjustLiquidity (book : Book) (side : Side) (price old new : UInt64) : Book :=
  book.changeLevels (Levels.adjust price old new) side

def recordTrade (book : Book) (price : UInt64) (quantity : UInt32) : Book :=
  { book with
    lastTradePrice := some price
    lastTradeQuantity := quantity
    totalVolume := book.totalVolume + quantity.toUInt64
    turnover := book.turnover + BitVec.ofNat 128 (price.toNat * quantity.toNat)
    tradeCount := book.tradeCount + 1 }

def best? (book : Book) (side : Side) : Option PriceLevel := (book.levels side).head?

/-- From the best bid to the best ask, unless a side is empty or the two do not lie apart. -/
def spread? (book : Book) : Option UInt64 :=
  match book.best? .bid, book.best? .ask with
  | some bid, some ask => if bid.price < ask.price then some (ask.price - bid.price) else none
  | _, _ => none

/-- The book with no more than `depth` levels a side. -/
def snapshot (book : Book) (depth : Nat) : Book :=
  { book with bids := book.bids.take depth, asks := book.asks.take depth }

end Book

end MarketFeed
