import MarketFeed.WireDecoding

/-! Where the fields of a packet and of a message lie. A field is the number in so many bytes from its
offset on; reading field after field from the front finds the same fields as long as the bytes
reach that far. -/

namespace MarketFeed

namespace Bytes

/-- The number in `width` bytes from an offset on, the lowest byte first. -/
def numberAt (bytes : Bytes) (offset width : Nat) : Nat := toNat ((bytes.drop offset).take width)

def word16At (bytes : Bytes) (offset : Nat) : UInt16 := UInt16.ofNat (bytes.numberAt offset 2)

def word32At (bytes : Bytes) (offset : Nat) : UInt32 := UInt32.ofNat (bytes.numberAt offset 4)

def word64At (bytes : Bytes) (offset : Nat) : UInt64 := UInt64.ofNat (bytes.numberAt offset 8)

def byteAt (bytes : Bytes) (offset : Nat) : UInt8 := bytes.getD offset 0

theorem split?_drop (bytes : Bytes) (offset width : Nat) (hfits : offset + width ≤ bytes.length) :
    split? width (bytes.drop offset) =
      some ((bytes.drop offset).take width, bytes.drop (offset + width)) := by
  have hlength : ((bytes.drop offset).take width).length = width := by
    simp only [List.length_take, List.length_drop]
    omega
  rw [split?, if_pos hlength, List.drop_drop]

theorem word16?_drop (bytes : Bytes) (offset : Nat) (hfits : offset + 2 ≤ bytes.length) :
    word16? (bytes.drop offset) = some (bytes.word16At offset, bytes.drop (offset + 2)) := by
  rw [word16?, split?_drop bytes offset 2 hfits]
  rfl

theorem word32?_drop (bytes : Bytes) (offset : Nat) (hfits : offset + 4 ≤ bytes.length) :
    word32? (bytes.drop offset) = some (bytes.word32At offset, bytes.drop (offset + 4)) := by
  rw [word32?, split?_drop bytes offset 4 hfits]
  rfl

theorem word64?_drop (bytes : Bytes) (offset : Nat) (hfits : offset + 8 ≤ bytes.length) :
    word64? (bytes.drop offset) = some (bytes.word64At offset, bytes.drop (offset + 8)) := by
  rw [word64?, split?_drop bytes offset 8 hfits]
  rfl

theorem byte?_drop (bytes : Bytes) (offset : Nat) (hfits : offset < bytes.length) :
    byte? (bytes.drop offset) = some (bytes.byteAt offset, bytes.drop (offset + 1)) := by
  rw [List.drop_eq_getElem_cons hfits, byte?, byteAt, List.getD_eq_getElem?_getD,
    List.getElem?_eq_getElem hfits]
  rfl

theorem length_of_split? {bytes front rest : Bytes} {width : Nat}
    (hsplit : split? width bytes = some (front, rest)) : bytes.length = width + rest.length := by
  rw [split?] at hsplit
  split at hsplit
  · rename_i hlength
    cases hsplit
    rw [List.length_take] at hlength
    rw [List.length_drop]
    omega
  · cases hsplit

/-- A field read from the front takes its width off the bytes. -/
theorem length_of_field {α : Type} {width : Nat} {read : Bytes × Bytes → α × Bytes}
    {bytes rest : Bytes} {field : α} (hread : (split? width bytes).map read = some (field, rest))
    (hrest : ∀ front rest, (read (front, rest)).2 = rest) : bytes.length = width + rest.length := by
  obtain ⟨⟨front, rest'⟩, hsplit, heq⟩ := Option.map_eq_some_iff.1 hread
  have hsame : rest' = rest := by rw [← hrest front rest', heq]
  rw [length_of_split? hsplit, hsame]

theorem numberAt_append {front : Bytes} {offset width : Nat} (hfits : offset + width ≤ front.length)
    (rest : Bytes) : (front ++ rest).numberAt offset width = front.numberAt offset width := by
  rw [numberAt, numberAt, List.drop_append_of_le_length (by omega),
    List.take_append_of_le_length (by rw [List.length_drop]; omega)]

theorem byteAt_append {front : Bytes} {offset : Nat} (hfits : offset < front.length)
    (rest : Bytes) : (front ++ rest).byteAt offset = front.byteAt offset := by
  rw [byteAt, byteAt, List.getD_eq_getElem?_getD, List.getD_eq_getElem?_getD,
    List.getElem?_append_left hfits]

end Bytes

/-- The packet header in its place. -/
def PacketHeader.layout (packet : Bytes) : PacketHeader where
  size := packet.word16At 0
  messageCount := packet.word16At 2
  channel := packet.word32At 4
  sequence := packet.word64At 8
  sendTime := packet.word64At 16

/-- The message header in its place. -/
def MessageHeader.layout (record : Bytes) : MessageHeader where
  size := record.word16At 0
  type := record.word16At 2
  instrument := record.word32At 4
  sequence := record.word64At 8
  sendTime := record.word64At 16

theorem PacketHeader.read_eq_layout {packet : Bytes} (hfits : headerSize ≤ packet.length) :
    PacketHeader.read packet = .ok (.layout packet) := by
  simp only [headerSize] at hfits
  have hsize : packet.word16? = some (packet.word16At 0, packet.drop 2) :=
    packet.word16?_drop 0 (by omega)
  simp (disch := omega) [PacketHeader.read, hsize, Bytes.word16?_drop, Bytes.word32?_drop,
    Bytes.word64?_drop, layout]

theorem MessageHeader.read_eq_layout {bytes : Bytes} (hfits : headerSize ≤ bytes.length) :
    MessageHeader.read bytes = .ok (.layout bytes) := by
  simp only [headerSize] at hfits
  have hsize : bytes.word16? = some (bytes.word16At 0, bytes.drop 2) :=
    bytes.word16?_drop 0 (by omega)
  simp (disch := omega) [MessageHeader.read, hsize, Bytes.word16?_drop, Bytes.word32?_drop,
    Bytes.word64?_drop, layout]

/-- Fewer bytes than a header takes do not hold its five words. -/
theorem headerWords_eq_none {α : Type} {bytes : Bytes} (hshort : bytes.length < headerSize)
    (make : UInt16 → UInt16 → UInt32 → UInt64 → UInt64 → α) :
    (do
      let (first, bytes) ← bytes.word16?
      let (second, bytes) ← bytes.word16?
      let (third, bytes) ← bytes.word32?
      let (fourth, bytes) ← bytes.word64?
      let (fifth, _) ← bytes.word64?
      pure (make first second third fourth fifth) : Option α) = none := by
  refine Option.eq_none_iff_forall_ne_some.2 fun made hmade => ?_
  simp only [Option.bind_eq_bind, Option.bind_eq_some_iff, Prod.exists] at hmade
  obtain ⟨_, _, hfirst, _, _, hsecond, _, _, hthird, _, _, hfourth, _, _, hfifth, -⟩ := hmade
  have := Bytes.length_of_field hfirst fun _ _ => rfl
  have := Bytes.length_of_field hsecond fun _ _ => rfl
  have := Bytes.length_of_field hthird fun _ _ => rfl
  have := Bytes.length_of_field hfourth fun _ _ => rfl
  have := Bytes.length_of_field hfifth fun _ _ => rfl
  rw [headerSize] at hshort
  omega

theorem PacketHeader.read_of_short {packet : Bytes} (hshort : packet.length < headerSize) :
    PacketHeader.read packet = .error (.bufferTooSmall headerSize packet.length) := by
  have hnone := headerWords_eq_none hshort PacketHeader.mk
  unfold PacketHeader.read
  rw [hnone]
  rfl

theorem MessageHeader.read_of_short {bytes : Bytes} (hshort : bytes.length < headerSize) :
    MessageHeader.read bytes = .error (.bufferTooSmall headerSize bytes.length) := by
  have hnone := headerWords_eq_none hshort MessageHeader.mk
  unfold MessageHeader.read
  rw [hnone]
  rfl

/-- The byte for the side, in the kinds of record that have one. -/
def MessageKind.sideByte? (kind : MessageKind) (record : Bytes) : Option UInt8 :=
  match kind with
  | .addOrder | .modifyOrder => some (record.byteAt 44)
  | .deleteOrder => some (record.byteAt 32)
  | .trade => some (record.byteAt 52)
  | _ => none

/-- The side a byte stands for, where it stands for one. -/
def Side.ofByte (byte : UInt8) : Side := if byte = 0 then .bid else .ask

/-- The terms of an order in their place. -/
def OrderTerms.layout (record : Bytes) : OrderTerms where
  orderId := record.word64At 24
  price := record.word64At 32
  quantity := record.word32At 40
  side := .ofByte (record.byteAt 44)

/-- The fields of a message of the kind in their place. -/
def MessageBody.layout (kind : MessageKind) (record : Bytes) : MessageBody :=
  match kind with
  | .heartbeat => .heartbeat
  | .sequenceReset => .sequenceReset (record.word64At 24)
  | .securityDefinition => .securityDefinition
      { symbol := Symbol.ofBytes ((record.drop 24).take 16)
        lotSize := record.word32At 40
        priceDecimals := record.byteAt 44 }
  | .addOrder => .addOrder (.layout record)
  | .modifyOrder => .modifyOrder (.layout record)
  | .deleteOrder => .deleteOrder (record.word64At 24) (.ofByte (record.byteAt 32))
  | .trade => .trade
      { orderId := record.word64At 24
        tradeId := record.word64At 32
        price := record.word64At 40
        quantity := record.word32At 48
        side := .ofByte (record.byteAt 52) }
  | .tradeCancel => .tradeCancel (record.word64At 24)
  | .statistics => .statistics
      { high := record.word64At 24
        low := record.word64At 32
        sharesTraded := record.word64At 40
        turnover := record.word64At 48 }

/-- The message in a record, if its type is known. -/
def Message.layout? (record : Bytes) : Option Message :=
  (MessageKind.ofCode? (record.word16At 2)).map fun kind =>
    { header := .layout record, body := .layout kind record }

/-- Whether a byte names a side. -/
def IsSideByte (byte : UInt8) : Prop := byte = 0 ∨ byte = 1

theorem Side.ofByte?_eq {byte : UInt8} (hside : IsSideByte byte) :
    Side.ofByte? byte = some (.ofByte byte) := by
  rcases hside with rfl | rfl <;> rfl

theorem Side.ofByte?_eq_none {byte : UInt8} (hside : ¬IsSideByte byte) : Side.ofByte? byte = none := by
  rw [IsSideByte, not_or] at hside
  rw [Side.ofByte?, if_neg hside.1, if_neg hside.2]

theorem MessageBody.readSide_drop {bytes : Bytes} {offset : Nat} (hfits : offset < bytes.length) :
    readSide (bytes.drop offset) = (Side.ofByte? (bytes.byteAt offset)).elim
      (.error (.invalidSide (bytes.byteAt offset))) .ok := by
  rw [readSide, Bytes.byte?_drop bytes offset hfits]
  rfl

theorem MessageBody.readSide_of_isSideByte {bytes : Bytes} {offset : Nat}
    (hfits : offset < bytes.length) (hside : IsSideByte (bytes.byteAt offset)) :
    readSide (bytes.drop offset) = .ok (.ofByte (bytes.byteAt offset)) := by
  rw [readSide_drop hfits, Side.ofByte?_eq hside]
  rfl

theorem MessageBody.need_bind {α β : Type} (field : α) (next : α → Except DecodeError β) :
    need (some field) >>= next = next field := rfl

/-- Reading the fields one after the other finds them in their places, in a record that is long
enough and names a side where it has to. -/
theorem MessageBody.readFields_eq_layout {kind : MessageKind} {record : Bytes}
    (hfits : kind.wireSize ≤ record.length)
    (hside : ∀ byte, kind.sideByte? record = some byte → IsSideByte byte) :
    readFields kind (record.drop headerSize) = .ok (.layout kind record) := by
  rw [headerSize]
  cases kind with
  | heartbeat => rfl
  | sequenceReset | tradeCancel =>
      rw [readFields, Bytes.word64?_drop record 24 hfits]
      rfl
  | securityDefinition =>
      have hfits : 48 ≤ record.length := hfits
      simp (disch := omega) only [readFields, Bytes.split?_drop, Bytes.word32?_drop,
        Bytes.byte?_drop, need_bind, Nat.reduceAdd]
      rfl
  | addOrder | modifyOrder =>
      have hfits : 48 ≤ record.length := hfits
      have hread := readSide_of_isSideByte (show 44 < record.length by omega) (hside _ rfl)
      simp (disch := omega) only [readFields, readOrder, Bytes.word64?_drop, Bytes.word32?_drop,
        need_bind, Nat.reduceAdd, hread]
      rfl
  | deleteOrder =>
      have hfits : 40 ≤ record.length := hfits
      have hread := readSide_of_isSideByte (show 32 < record.length by omega) (hside _ rfl)
      simp (disch := omega) only [readFields, Bytes.word64?_drop, need_bind, Nat.reduceAdd, hread]
      rfl
  | trade =>
      have hfits : 56 ≤ record.length := hfits
      have hread := readSide_of_isSideByte (show 52 < record.length by omega) (hside _ rfl)
      simp (disch := omega) only [readFields, Bytes.word64?_drop, Bytes.word32?_drop, need_bind,
        Nat.reduceAdd, hread]
      rfl
  | statistics =>
      have hfits : 56 ≤ record.length := hfits
      simp (disch := omega) only [readFields, Bytes.word64?_drop, need_bind, Nat.reduceAdd]
      rfl

end MarketFeed
