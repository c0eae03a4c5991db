import MarketFeed.WireMessage
import MarketFeed.Words

/-!
Writing messages and packets. A message is its header and its fields with zeros behind them up to
the size of its kind. A packet draft collects messages; finishing it puts the packet header in
front. Every size field holds the size modulo `2 ^ 16`, but messages that 16 bits cannot count make no
packet.
-/

namespace MarketFeed

/-- The bytes of a packet header and of a message header alike. -/
def headerSize : Nat := 24

def MessageHeader.encode (header : MessageHeader) : Bytes :=
  Bytes.ofWord16 header.size ++ Bytes.ofWord16 header.type ++ Bytes.ofWord32 header.instrument ++
    Bytes.ofWord64 header.sequence ++ Bytes.ofWord64 header.sendTime

namespace MessageBody

def encodeOrder (terms : OrderTerms) : Bytes :=
  Bytes.ofWord64 terms.orderId ++ Bytes.ofWord64 terms.price ++ Bytes.ofWord32 terms.quantity ++
    [terms.side.toByte]

def encodeFields : MessageBody → Bytes
  | .heartbeat => []
  | .sequenceReset next => Bytes.ofWord64 next
  | .securityDefinition terms =>
      terms.symbol.bytes ++ Bytes.ofWord32 terms.lotSize ++ [terms.priceDecimals]
  | .addOrder terms => encodeOrder terms
  | .modifyOrder terms => encodeOrder terms
  | .deleteOrder orderId side => Bytes.ofWord64 orderId ++ [side.toByte]
  | .trade report =>
      Bytes.ofWord64 report.orderId ++ Bytes.ofWord64 report.tradeId ++ Bytes.ofWord64 report.price ++
        Bytes.ofWord32 report.quantity ++ [report.side.toByte]
  | .tradeCancel tradeId => Bytes.ofWord64 tradeId
  | .statistics figures =>
      Bytes.ofWord64 figures.high ++ Bytes.ofWord64 figures.low ++
        Bytes.ofWord64 figures.sharesTraded ++ Bytes.ofWord64 figures.turnover

end MessageBody

/-- The bytes of a message. The size and the type in its own header are not looked at. -/
def Message.encode (message : Message) : Bytes :=
  (message.wireHeader.encode ++ message.body.encodeFields).padTo message.kind.wireSize

/-- What every packet starts with. `sequence` is the number of its first message. -/
structure PacketHeader where
  size : UInt16
  messageCount : UInt16
  channel : UInt32
  sequence : UInt64
  sendTime : UInt64
  deriving DecidableEq

def PacketHeader.encode (header : PacketHeader) : Bytes :=
  Bytes.ofWord16 header.size ++ Bytes.ofWord16 header.messageCount ++
    Bytes.ofWord32 header.channel ++ Bytes.ofWord64 header.sequence ++
    Bytes.ofWord64 header.sendTime

/-- A packet being put together: its header fields and the messages so far. -/
structure PacketDraft where
  channel : UInt32
  sequence : UInt64
  sendTime : UInt64
  /-- The bytes of every message, the last one first. -/
  records : List Bytes

namespace PacketDraft

def start (channel : UInt32) (sequence sendTime : UInt64) : PacketDraft :=
  { channel, sequence, sendTime, records := [] }

/-- Adds the bytes of a message. -/
def pushRecord (draft : PacketDraft) (record : Bytes) : PacketDraft :=
  { draft with records := record :: draft.records }

def push (draft : PacketDraft) (message : Message) : PacketDraft := draft.pushRecord message.encode

/-- The least multiple of eight that is not below `n`. -/
def roundUp (n : Nat) : Nat := (n + 7) / 8 * 8

/-- Adds a message of any type with any fields; the fields are padded to a multiple of eight. -/
def pushRaw (draft : PacketDraft) (type : UInt16) (instrument : UInt32) (sequence sendTime : UInt64)
    (fields : Bytes) : PacketDraft :=
  let size := headerSize + roundUp fields.length
  let header : MessageHeader :=
    { size := UInt16.ofNat size, type, instrument, sequence, sendTime }
  draft.pushRecord ((header.encode ++ fields).padTo size)

def messageCount (draft : PacketDraft) : Nat := draft.records.length

/-- The bytes of the messages, one after the other. -/
def body (draft : PacketDraft) : Bytes := draft.records.reverse.flatten

@[simp] theorem messageCount_pushRecord (draft : PacketDraft) (record : Bytes) :
    (draft.pushRecord record).messageCount = draft.messageCount + 1 := rfl

@[simp] theorem body_pushRecord (draft : PacketDraft) (record : Bytes) :
    (draft.pushRecord record).body = draft.body ++ record := by
  simp [pushRecord, body]

def length (draft : PacketDraft) : Nat := headerSize + draft.body.length

def isEmpty (draft : PacketDraft) : Bool := draft.messageCount == 0

/-- The draft itself, if 16 bits can count its messages. -/
def checked (draft : PacketDraft) : Except CountError PacketDraft :=
  if draft.messageCount < UInt16.size then .ok draft else .error .overflow

def header (draft : PacketDraft) : PacketHeader :=
  { size := UInt16.ofNat draft.length, messageCount := UInt16.ofNat draft.messageCount,
    channel := draft.channel, sequence := draft.sequence, sendTime := draft.sendTime }

def finish (draft : PacketDraft) : Bytes := draft.header.encode ++ draft.body

end PacketDraft

/-- The packet by which a session shows that it is alive. -/
def heartbeatPacket (now : UInt64) : Bytes :=
  let header : MessageHeader := { size := 0, type := 0, instrument := 0, sequence := 0, sendTime := now }
  ((PacketDraft.start 0 0 now).push { header, body := .heartbeat }).finish

end MarketFeed
