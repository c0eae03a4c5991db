import MarketFeed.Bytes
import MarketFeed.TextUtf8

/-!
The messages of the feed: nine kinds, each with a type code and a size on the wire, a common header,
and the fields of the kind.
-/

namespace MarketFeed

/-- The kinds of message a packet can carry. -/
inductive MessageKind where
  | heartbeat
  | sequenceReset
  | securityDefinition
  | addOrder
  | modifyOrder
  | deleteOrder
  | trade
  | tradeCancel
  | statistics
  deriving DecidableEq, Repr

namespace MessageKind

/-- Every kind, in the order of the codes. -/
def all : List MessageKind :=
  [.heartbeat, .sequenceReset, .securityDefinition, .addOrder, .modifyOrder, .deleteOrder, .trade,
    .tradeCancel, .statistics]

def code : MessageKind → UInt16
  | .heartbeat => 1
  | .sequenceReset => 2
  | .securityDefinition => 11
  | .addOrder => 30
  | .modifyOrder => 31
  | .deleteOrder => 32
  | .trade => 50
  | .tradeCancel => 51
  | .statistics => 60

/-- The kind with a type code; other codes are unknown. -/
def ofCode? (code : UInt16) : Option MessageKind := all.find? (·.code == code)

theorem ofCode?_code (kind : MessageKind) : ofCode? kind.code = some kind := by
  cases kind <;> rfl

/-- The bytes a message of the kind takes, its header included. -/
def wireSize : MessageKind → Nat
  | .heartbeat => 24
  | .sequenceReset => 32
  | .securityDefinition => 48
  | .addOrder => 48
  | .modifyOrder => 48
  | .deleteOrder => 40
  | .trade => 56
  | .tradeCancel => 32
  | .statistics => 56

/-- Administrative messages concern no instrument and use up no sequence number. -/
def isAdministrative : MessageKind → Bool
  | .heartbeat | .sequenceReset => true
  | _ => false

/-- Where in the message the side byte lies, for the kinds that have one. -/
def sideOffset? : MessageKind → Option Nat
  | .addOrder | .modifyOrder => some 44
  | .deleteOrder => some 32
  | .trade => some 52
  | _ => none

end MessageKind

/-- The side of the book an order rests on. -/
inductive Side where
  | bid
  | ask
  deriving DecidableEq, Repr

namespace Side

def toByte : Side → UInt8
  | .bid => 0
  | .ask => 1

/-- The side for a byte; only 0 and 1 name one. -/
def ofByte? (b : UInt8) : Option Side :=
  if b = 0 then some .bid else if b = 1 then some .ask else none

theorem ofByte?_toByte (side : Side) : ofByte? side.toByte = some side := by
  cases side <;> rfl

end Side

/-- An instrument's symbol as sent: sixteen bytes, padded behind. -/
structure Symbol where
  bytes : Bytes
  length_eq : bytes.length = 16
  deriving DecidableEq

namespace Symbol

/-- The first sixteen of the bytes, with zeros where there are fewer. -/
def ofBytes (bytes : Bytes) : Symbol :=
  ⟨(bytes ++ List.replicate 16 0).take 16, by simp⟩

theorem ofBytes_bytes (symbol : Symbol) : ofBytes symbol.bytes = symbol := by
  obtain ⟨bytes, h⟩ := symbol
  simp [ofBytes, h]

/-- The characters that pad a symbol. -/
def isPadding (c : Char) : Bool := c == '\x00' || c == ' '

/-- The symbol as text, without the padding behind it. -/
def text (symbol : Symbol) : String :=
  String.ofList (((Utf8.readLossy symbol.bytes).toList.reverse.dropWhile isPadding).reverse)

end Symbol

/-- What every message starts with. Size and type are those found on the wire. -/
structure MessageHeader where
  size : UInt16
  type : UInt16
  instrument : UInt32
  sequence : UInt64
  sendTime : UInt64
  deriving DecidableEq

/-- An order as added, or as it is to be from now on. -/
structure OrderTerms where
  orderId : UInt64
  price : UInt64
  quantity : UInt32
  side : Side
  deriving DecidableEq

/-- An execution. Order id 0 means that no resting order is concerned. -/
structure TradeReport where
  orderId : UInt64
  tradeId : UInt64
  price : UInt64
  quantity : UInt32
  side : Side
  deriving DecidableEq

/-- The name and the trading units of an instrument. -/
structure SecurityTerms where
  symbol : Symbol
  lotSize : UInt32
  priceDecimals : UInt8
  deriving DecidableEq

/-- The figures of the day so far. -/
structure DayFigures where
  high : UInt64
  low : UInt64
  sharesTraded : UInt64
  turnover : UInt64
  deriving DecidableEq

/-- What a message says, by kind. -/
inductive MessageBody where
  | heartbeat
  | sequenceReset (next : UInt64)
  | securityDefinition (terms : SecurityTerms)
  | addOrder (terms : OrderTerms)
  | modifyOrder (terms : OrderTerms)
  | deleteOrder (orderId : UInt64) (side : Side)
  | trade (report : TradeReport)
  | tradeCancel (tradeId : UInt64)
  | statistics (figures : DayFigures)
  deriving DecidableEq

def MessageBody.kind : MessageBody → MessageKind
  | .heartbeat => .heartbeat
  | .sequenceReset _ => .sequenceReset
  | .securityDefinition _ => .securityDefinition
  | .addOrder _ => .addOrder
  | .modifyOrder _ => .modifyOrder
  | .deleteOrder .. => .deleteOrder
  | .trade _ => .trade
  | .tradeCancel _ => .tradeCancel
  | .statistics _ => .statistics

structure Message where
  header : MessageHeader
  body : MessageBody
  deriving DecidableEq

namespace Message

def kind (message : Message) : MessageKind := message.body.kind

/-- The header a message has once it is on the wire: size and type follow from its kind. -/
def wireHeader (message : Message) : MessageHeader :=
  { message.header with size := UInt16.ofNat message.kind.wireSize, type := message.kind.code }

/-- The message as a reader of its encoding sees it. -/
def onWire (message : Message) : Message := { message with header := message.wireHeader }

end Message

end MarketFeed
