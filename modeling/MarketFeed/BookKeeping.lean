import MarketFeed.Book
import MarketFeed.Table

/-!
Keeping the books. Next to the book of every instrument named so far stands one table of the orders
that rest in any of them; each order event changes the table and the levels of one book together.
An event that cannot be applied says why and changes nothing.
-/

namespace MarketFeed

/-- Why an order event cannot be applied. -/
inductive BookError where
  | duplicateOrder (orderId : UInt64)
  | unknownOrder (orderId : UInt64)
  | zeroQuantity (orderId : UInt64)
  | instrumentMismatch (orderId : UInt64) (tracked received : UInt32)
  deriving DecidableEq, Repr

def BookError.message : BookError → String
  | .duplicateOrder id => "duplicate order id " ++ toString id
  | .unknownOrder id => "order not found: " ++ toString id
  | .zeroQuantity id => "order " ++ toString id ++ " added with zero quantity"
  | .instrumentMismatch id tracked received =>
      "order " ++ toString id ++ " belongs to instrument " ++ toString tracked ++
        ", message names " ++ toString received

/-- An order that rests in a book. -/
structure TrackedOrder where
  orderId : UInt64
  instrument : UInt32
  side : Side
  originalQuantity : UInt32
  remainingQuantity : UInt32
  price : UInt64
  addTimestamp : UInt64
  deriving DecidableEq

/-- The books by instrument, the resting orders by id, and the depth of snapshots. -/
structure Books where
  books : Table Book
  orders : Table TrackedOrder
  maxDepth : Nat

namespace Books

def defaultMaxDepth : Nat := 10

def blank (maxDepth : Nat) : Books := ⟨.empty, .empty, maxDepth⟩

def book? (books : Books) (instrument : UInt32) : Option Book := books.books.find? instrument.toNat

def order? (books : Books) (orderId : UInt64) : Option TrackedOrder :=
  books.orders.find? orderId.toNat

/-- The book of an instrument cut to the depth of snapshots. -/
def snapshot? (books : Books) (instrument : UInt32) : Option Book :=
  (books.book? instrument).map (·.snapshot books.maxDepth)

/-- Changes the book of an instrument, which is begun if there is none yet. -/
def changeBook (books : Books) (instrument : UInt32) (change : Book → Book) : Books :=
  let book := (books.book? instrument).getD (.blank instrument)
  { books with books := books.books.insert instrument.toNat (change book) }

def track (books : Books) (order : TrackedOrder) : Books :=
  { books with orders := books.orders.insert order.orderId.toNat order }

def untrack (books : Books) (orderId : UInt64) : Books :=
  { books with orders := books.orders.erase orderId.toNat }

def add (books : Books) (header : MessageHeader) (terms : OrderTerms) : Books × Option BookError :=
  if (books.order? terms.orderId).isSome then (books, some (.duplicateOrder terms.orderId))
  else if terms.quantity = 0 then (books, some (.zeroQuantity terms.orderId))
  else
    let order : TrackedOrder :=
      { orderId := terms.orderId, instrument := header.instrument, side := terms.side,
        originalQuantity := terms.quantity, remainingQuantity := terms.quantity,
        price := terms.price, addTimestamp := header.sendTime }
    (((books.changeBook header.instrument fun book =>
        book.addLiquidity terms.side terms.price terms.quantity.toUInt64).track order), none)

/-- The book after one of its orders has got a new price and a new quantity above 0. -/
def moveOrder (book : Book) (order : TrackedOrder) (price : UInt64) (quantity : UInt32) : Book :=
  let remaining := order.remainingQuantity.toUInt64
  if price = order.price then
    book.adjustLiquidity order.side order.price remaining quantity.toUInt64
  else
    (book.removeLiquidity order.side order.price remaining true).addLiquidity order.side price
      quantity.toUInt64

/-- New terms for an order; its side stays, and with no quantity it goes. -/
def modify (books : Books) (header : MessageHeader) (terms : OrderTerms) : Books × Option BookError :=
  match books.order? terms.orderId with
  | none => (books, some (.unknownOrder terms.orderId))
  | some order =>
      if order.instrument ≠ header.instrument then
        (books, some (.instrumentMismatch terms.orderId order.instrument header.instrument))
      else if terms.quantity = 0 then
        ((books.changeBook order.instrument fun book =>
            book.removeLiquidity order.side order.price order.remainingQuantity.toUInt64
              true).untrack terms.orderId, none)
      else
        ((books.changeBook order.instrument fun book =>
            moveOrder book order terms.price terms.quantity).track
          { order with price := terms.price, remainingQuantity := terms.quantity }, none)

/-- The end of an order. The instrument that the message names is not looked at. -/
def delete (books : Books) (orderId : UInt64) : Books × Option BookError :=
  match books.order? orderId with
  | none => (books, some (.unknownOrder orderId))
  | some order =>
      ((books.untrack orderId).changeBook order.instrument fun book =>
        book.removeLiquidity order.side order.price order.remainingQuantity.toUInt64 true, none)

/-- Takes what a trade has executed off the resting order it names, if that order rests in the
book of the same instrument. -/
def execute (books : Books) (instrument : UInt32) (report : TradeReport) : Books :=
  if report.orderId = 0 then books
  else match books.order? report.orderId with
    | none => books
    | some order =>
        if order.instrument ≠ instrument then books
        else
          let executed := min report.quantity order.remainingQuantity
          let remaining := order.remainingQuantity - executed
          let tracked :=
            if remaining = 0 then books.untrack report.orderId
            else books.track { order with remainingQuantity := remaining }
          tracked.changeBook instrument fun book =>
            book.removeLiquidity order.side order.price executed.toUInt64 (remaining == 0)

/-- A trade: it counts in the book of its instrument, whatever order it names. -/
def trade (books : Books) (instrument : UInt32) (report : TradeReport) : Books :=
  (books.changeBook instrument fun book => book.recordTrade report.price report.quantity).execute
    instrument report

/-- Applies a message. Messages that say nothing about books are accepted and change nothing. -/
def apply (books : Books) (message : Message) : Books × Option BookError :=
  let instrument := message.header.instrument
  match message.body with
  | .addOrder terms => books.add message.header terms
  | .modifyOrder terms => books.modify message.header terms
  | .deleteOrder orderId _ => books.delete orderId
  | .trade report => (books.trade instrument report, none)
  | .securityDefinition terms =>
      (books.changeBook instrument fun book =>
        { book with symbol := some terms.symbol.text, lotSize := some terms.lotSize }, none)
  | .statistics figures =>
      (books.changeBook instrument fun book =>
        { book with statistics := some (message.header, figures) }, none)
  | .heartbeat | .sequenceReset _ | .tradeCancel _ => (books, none)

def clear (books : Books) : Books := blank books.maxDepth

end Books

end MarketFeed
