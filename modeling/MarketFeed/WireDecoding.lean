import MarketFeed.WireEncoding

/-!
Reading messages and packets. A packet is walked twice: the first walk checks the size of every
record and every side byte, the second reads the records of known kind. A packet that fails the
first walk is refused as a whole, and nothing of it is read.
-/

namespace MarketFeed

/-- Why bytes are not a packet or not a message. Indices count the records of a packet from 0. -/
inductive DecodeError where
  | bufferTooSmall (need available : Nat)
  | sizeMismatch (declared actual : Nat)
  | truncatedMessage (index declared remaining : Nat)
  | messageTooShort (index : Nat) (type : UInt16) (declared need : Nat)
  | invalidSide (byte : UInt8)
  | invalidMessageType (type : UInt16)
  /-- A record or a field would lie behind the end of the bytes it is in; the size checks leave no
  room for this. -/
  | fieldOverrun
  deriving DecidableEq

namespace DecodeError

def message : DecodeError → String
  | .bufferTooSmall need available =>
      "buffer too small: need " ++ toString need ++ " bytes, have " ++ toString available
  | .sizeMismatch declared actual =>
      "packet size mismatch: header declares " ++ toString declared ++ " bytes, received " ++
        toString actual
  | .truncatedMessage index declared remaining =>
      "truncated message " ++ toString index ++ ": declared length " ++ toString declared ++
        " exceeds remaining " ++ toString remaining
  | .messageTooShort index type declared need =>
      "message " ++ toString index ++ " of type " ++ toString type ++ " is " ++ toString declared ++
        " bytes, needs " ++ toString need
  | .invalidSide byte => "invalid side " ++ toString byte
  | .invalidMessageType type => "invalid message type: " ++ toString type
  | .fieldOverrun => "field runs past the end of its message"

end DecodeError

def PacketHeader.read (bytes : Bytes) : Except DecodeError PacketHeader :=
  let header? : Option PacketHeader := do
    let (size, bytes) ← bytes.word16?
    let (messageCount, bytes) ← bytes.word16?
    let (channel, bytes) ← bytes.word32?
    let (sequence, bytes) ← bytes.word64?
    let (sendTime, _) ← bytes.word64?
    pure { size, messageCount, channel, sequence, sendTime }
  header?.elim (.error (.bufferTooSmall headerSize bytes.length)) .ok

def MessageHeader.read (bytes : Bytes) : Except DecodeError MessageHeader :=
  let header? : Option MessageHeader := do
    let (size, bytes) ← bytes.word16?
    let (type, bytes) ← bytes.word16?
    let (instrument, bytes) ← bytes.word32?
    let (sequence, bytes) ← bytes.word64?
    let (sendTime, _) ← bytes.word64?
    pure { size, type, instrument, sequence, sendTime }
  header?.elim (.error (.bufferTooSmall headerSize bytes.length)) .ok

namespace MessageBody

/-- A field that must be there. -/
def need {α : Type} (field? : Option α) : Except DecodeError α :=
  field?.elim (.error .fieldOverrun) .ok

def readSide (bytes : Bytes) : Except DecodeError Side := do
  let (byte, _) ← need bytes.byte?
  (Side.ofByte? byte).elim (.error (.invalidSide byte)) .ok

def readOrder (bytes : Bytes) : Except DecodeError OrderTerms := do
  let (orderId, bytes) ← need bytes.word64?
  let (price, bytes) ← need bytes.word64?
  let (quantity, bytes) ← need bytes.word32?
  let side ← readSide bytes
  pure { orderId, price, quantity, side }

/-- The fields of a message of the kind, from the bytes behind its header. Bytes behind the last
field are not looked at. -/
def readFields (kind : MessageKind) (bytes : Bytes) : Except DecodeError MessageBody :=
  match kind with
  | .heartbeat => .ok .heartbeat
  | .sequenceReset => do
      let (next, _) ← need bytes.word64?
      pure (.sequenceReset next)
  | .securityDefinition => do
      let (symbol, bytes) ← need (bytes.split? 16)
      let (lotSize, bytes) ← need bytes.word32?
      let (priceDecimals, _) ← need bytes.byte?
      pure (.securityDefinition { symbol := Symbol.ofBytes symbol, lotSize, priceDecimals })
  | .addOrder => MessageBody.addOrder <$> readOrder bytes
  | .modifyOrder => MessageBody.modifyOrder <$> readOrder bytes
  | .deleteOrder => do
      let (orderId, bytes) ← need bytes.word64?
      let side ← readSide bytes
      pure (.deleteOrder orderId side)
  | .trade => do
      let (orderId, bytes) ← need bytes.word64?
      let (tradeId, bytes) ← need bytes.word64?
      let (price, bytes) ← need bytes.word64?
      let (quantity, bytes) ← need bytes.word32?
      let side ← readSide bytes
      pure (.trade { orderId, tradeId, price, quantity, side })
  | .tradeCancel => do
      let (tradeId, _) ← need bytes.word64?
      pure (.tradeCancel tradeId)
  | .statistics => do
      let (high, bytes) ← need bytes.word64?
      let (low, bytes) ← need bytes.word64?
      let (sharesTraded, bytes) ← need bytes.word64?
      let (turnover, _) ← need bytes.word64?
      pure (.statistics { high, low, sharesTraded, turnover })

end MessageBody

namespace Message

/-- Whether a record may take `declared` bytes when `remaining` are left. -/
def checkExtent (index declared remaining : Nat) : Except DecodeError Unit :=
  if declared < headerSize ∨ remaining < declared then
    .error (.truncatedMessage index declared remaining)
  else .ok ()

/-- Whether a record of the kind is long enough for its fields. -/
def checkFit (index : Nat) (kind : MessageKind) (declared : Nat) : Except DecodeError Unit :=
  if declared < kind.wireSize then
    .error (.messageTooShort index kind.code declared kind.wireSize)
  else .ok ()

/-- The message in a record whose header has been read; `none` when its type is unknown. -/
def ofRecord (header : MessageHeader) (record : Bytes) : Except DecodeError (Option Message) :=
  match MessageKind.ofCode? header.type with
  | none => .ok none
  | some kind => do
      let body ← MessageBody.readFields kind (record.drop headerSize)
      pure (some { header, body })

/-- The message in front of the bytes and the bytes it takes. -/
def decode (bytes : Bytes) : Except DecodeError (Message × Nat) := do
  let header ← MessageHeader.read bytes
  let declared := header.size.toNat
  checkExtent 0 declared bytes.length
  let kind ← (MessageKind.ofCode? header.type).elim
    (.error (.invalidMessageType header.type)) .ok
  checkFit 0 kind declared
  match ← ofRecord header (bytes.take declared) with
  | some message => pure (message, declared)
  | none => .error (.invalidMessageType header.type)

end Message

namespace Packet

/-- The checks on the record in front of the bytes; its header when it passes. -/
def checkRecord (index : Nat) (bytes : Bytes) : Except DecodeError MessageHeader := do
  let header ← MessageHeader.read bytes
  Message.checkExtent index header.size.toNat bytes.length
  match MessageKind.ofCode? header.type with
  | none => pure header
  | some kind =>
      Message.checkFit index kind header.size.toNat
      match kind.sideOffset? with
      | none => pure header
      | some offset =>
          let _ ← MessageBody.readSide (bytes.drop offset)
          pure header

/-- The first walk: `count` records from the front of the bytes, numbered from `index`. -/
def checkFraming : (count index : Nat) → Bytes → Except DecodeError Unit
  | 0, _, _ => .ok ()
  | count + 1, index, bytes => do
      let header ← checkRecord index bytes
      checkFraming count (index + 1) (bytes.drop header.size.toNat)

/-- What a walk has read: the messages of known kind in order, how many records were of unknown
type, and the error that ended it, if one did. -/
structure Reading where
  messages : List Message
  unknown : Nat
  error? : Option DecodeError

/-- The second walk: reads `count` records from the front of the bytes. -/
def readRecords : (count : Nat) → Bytes → Reading
  | 0, _ => ⟨[], 0, none⟩
  | count + 1, bytes =>
      match MessageHeader.read bytes with
      | .error e => ⟨[], 0, some e⟩
      | .ok header =>
          match bytes.split? header.size.toNat with
          | none => ⟨[], 0, some .fieldOverrun⟩
          | some (record, bytes) =>
              match Message.ofRecord header record with
              | .error e => ⟨[], 0, some e⟩
              | .ok none =>
                  let rest := readRecords count bytes
                  { rest with unknown := rest.unknown + 1 }
              | .ok (some message) =>
                  let rest := readRecords count bytes
                  { rest with messages := message :: rest.messages }

/-- What an accepted packet held. -/
structure Summary where
  header : PacketHeader
  dispatched : Nat
  unknown : Nat
  deriving DecidableEq

/-- The messages handed over while a packet was read, and how that ended. -/
structure Decoded where
  messages : List Message
  result : Except DecodeError Summary

/-- Reads a packet: header, declared size, framing, records. -/
def decode (packet : Bytes) : Decoded :=
  let checked : Except DecodeError PacketHeader := do
    let header ← PacketHeader.read packet
    if header.size.toNat = packet.length then pure () else
      .error (.sizeMismatch header.size.toNat packet.length)
    checkFraming header.messageCount.toNat 0 (packet.drop headerSize)
    pure header
  match checked with
  | .error e => ⟨[], .error e⟩
  | .ok header =>
      let reading := readRecords header.messageCount.toNat (packet.drop headerSize)
      let result := match reading.error? with
        | some e => .error e
        | none => .ok ⟨header, reading.messages.length, reading.unknown⟩
      ⟨reading.messages, result⟩

end Packet

end MarketFeed
