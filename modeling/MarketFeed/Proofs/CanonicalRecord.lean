import MarketFeed.Proofs.MessageByMessage
import MarketFeed.Proofs.PacketRoundTrip

/-! A message written back. The bytes of a field that has been read are written again as they were, so
a message that has been read out of some bytes is written as the same fields in the same places. Only
the size is its kind's own now and the padding is blank. -/

namespace MarketFeed

namespace Bytes

theorem ofNat_toNat (bytes : Bytes) : ofNat bytes.length (toNat bytes) = bytes := by
  induction bytes with
  | nil => rfl
  | cons byte bytes ih =>
      have hlt : byte.toNat < 256 := byte.toNat_lt
      have hlowest : UInt8.ofNat (byte.toNat + 256 * toNat bytes) = byte := by
        apply UInt8.toNat_inj.1
        rw [UInt8.toNat_ofNat']
        omega
      have hrest : (byte.toNat + 256 * toNat bytes) / 256 = toNat bytes := by omega
      rw [List.length_cons, toNat, ofNat, hlowest, hrest, ih]

theorem toNat_lt_runCount (bytes : Bytes) : toNat bytes < runCount bytes.length := by
  rw [← ofNat_toNat bytes, toNat_ofNat, length_ofNat]
  refine Nat.mod_lt _ ?_
  induction bytes with
  | nil => decide
  | cons byte bytes ih =>
      rw [List.length_cons, runCount]
      omega

section word

variable {bytes : Bytes} {offset width : Nat}

theorem length_field (hfits : offset + width ≤ bytes.length) :
    ((bytes.drop offset).take width).length = width := by
  rw [List.length_take, List.length_drop]
  omega

theorem ofNat_numberAt (hfits : offset + width ≤ bytes.length) :
    ofNat width (bytes.numberAt offset width) = (bytes.drop offset).take width := by
  have hfield := ofNat_toNat ((bytes.drop offset).take width)
  rwa [length_field hfits] at hfield

theorem numberAt_lt (hfits : offset + width ≤ bytes.length) :
    bytes.numberAt offset width < runCount width := by
  have hlt := toNat_lt_runCount ((bytes.drop offset).take width)
  rwa [length_field hfits] at hlt

theorem ofWord16_word16At (hfits : offset + 2 ≤ bytes.length) :
    ofWord16 (bytes.word16At offset) = (bytes.drop offset).take 2 := by
  rw [ofWord16, word16At, UInt16.toNat_ofNat_of_lt' (numberAt_lt hfits), ofNat_numberAt hfits]

theorem ofWord32_word32At (hfits : offset + 4 ≤ bytes.length) :
    ofWord32 (bytes.word32At offset) = (bytes.drop offset).take 4 := by
  rw [ofWord32, word32At, UInt32.toNat_ofNat_of_lt' (numberAt_lt hfits), ofNat_numberAt hfits]

theorem ofWord64_word64At (hfits : offset + 8 ≤ bytes.length) :
    ofWord64 (bytes.word64At offset) = (bytes.drop offset).take 8 := by
  rw [ofWord64, word64At, UInt64.toNat_ofNat_of_lt' (numberAt_lt hfits), ofNat_numberAt hfits]

theorem singleton_byteAt (hfits : offset < bytes.length) :
    [bytes.byteAt offset] = (bytes.drop offset).take 1 := by
  rw [List.drop_eq_getElem_cons hfits, byteAt, List.getD_eq_getElem?_getD,
    List.getElem?_eq_getElem hfits]
  rfl

/-- Two fields side by side are one wider field. -/
theorem take_append_take {next : Nat} (hnext : offset + width = next) (more : Nat) :
    (bytes.drop offset).take width ++ (bytes.drop next).take more =
      (bytes.drop offset).take (width + more) := by
  rw [List.take_add, List.drop_drop, hnext]

end word

end Bytes

theorem Side.toByte_ofByte {byte : UInt8} (hside : IsSideByte byte) : (ofByte byte).toByte = byte := by
  rcases hside with rfl | rfl <;> rfl

theorem Symbol.bytes_ofBytes {bytes : Bytes} (hlength : bytes.length = 16) :
    (ofBytes bytes).bytes = bytes := by
  show (bytes ++ List.replicate 16 0).take 16 = bytes
  rw [List.take_append_of_le_length (Nat.le_of_eq hlength.symm),
    List.take_of_length_le (Nat.le_of_eq hlength)]

theorem MessageKind.code_of_ofCode? {kind : MessageKind} {code : UInt16}
    (hkind : ofCode? code = some kind) : kind.code = code :=
  beq_iff_eq.1 (List.find?_some (p := fun kind : MessageKind => kind.code == code) hkind)

/-- Where the last field of a message of the kind ends. What follows up to its size is padding. -/
def MessageKind.fieldsEnd : MessageKind → Nat
  | .heartbeat => 24
  | .sequenceReset => 32
  | .securityDefinition => 45
  | .addOrder => 45
  | .modifyOrder => 45
  | .deleteOrder => 33
  | .trade => 53
  | .tradeCancel => 32
  | .statistics => 56

theorem MessageKind.fieldsEnd_bounds (kind : MessageKind) :
    headerSize ≤ kind.fieldsEnd ∧ kind.fieldsEnd ≤ kind.wireSize := by
  cases kind <;> decide

section record

variable {record : Bytes}

/-- All of a header but its size is written as it stood. -/
theorem MessageHeader.encode_layout (hfits : headerSize ≤ record.length) (size : UInt16) :
    encode { layout record with size } = Bytes.ofWord16 size ++ (record.drop 2).take 22 := by
  rw [headerSize] at hfits
  simp (disch := omega) only [encode, layout, Bytes.ofWord16_word16At, Bytes.ofWord32_word32At,
    Bytes.ofWord64_word64At, List.append_assoc, Bytes.take_append_take, Nat.reduceAdd]

/-- The fields are written as they stood. -/
theorem MessageBody.encodeFields_layout {kind : MessageKind} (hfits : kind.wireSize ≤ record.length)
    (hside : ∀ byte, kind.sideByte? record = some byte → IsSideByte byte) :
    (layout kind record).encodeFields =
      (record.drop headerSize).take (kind.fieldsEnd - headerSize) := by
  rw [headerSize]
  cases kind with
  | heartbeat => rfl
  | sequenceReset | tradeCancel => exact Bytes.ofWord64_word64At hfits
  | securityDefinition =>
      have hfits : 48 ≤ record.length := hfits
      have hsymbol : ((record.drop 24).take 16).length = 16 := Bytes.length_field (by omega)
      simp (disch := omega) only [layout, encodeFields, MessageKind.fieldsEnd,
        Symbol.bytes_ofBytes hsymbol, Bytes.ofWord32_word32At, Bytes.singleton_byteAt,
        Bytes.take_append_take, Nat.reduceAdd, Nat.reduceSub]
  | addOrder | modifyOrder =>
      have hfits : 48 ≤ record.length := hfits
      have hbyte := Side.toByte_ofByte (hside _ rfl)
      simp (disch := omega) only [layout, OrderTerms.layout, encodeFields, encodeOrder, hbyte,
        MessageKind.fieldsEnd, Bytes.ofWord64_word64At, Bytes.ofWord32_word32At,
        Bytes.singleton_byteAt, Bytes.take_append_take, Nat.reduceAdd, Nat.reduceSub]
  | deleteOrder =>
      have hfits : 40 ≤ record.length := hfits
      have hbyte := Side.toByte_ofByte (hside _ rfl)
      simp (disch := omega) only [layout, encodeFields, hbyte, MessageKind.fieldsEnd,
        Bytes.ofWord64_word64At, Bytes.singleton_byteAt, Bytes.take_append_take, Nat.reduceAdd,
        Nat.reduceSub]
  | trade =>
      have hfits : 56 ≤ record.length := hfits
      have hbyte := Side.toByte_ofByte (hside _ rfl)
      simp (disch := omega) only [layout, encodeFields, hbyte, MessageKind.fieldsEnd,
        Bytes.ofWord64_word64At, Bytes.ofWord32_word32At, Bytes.singleton_byteAt,
        Bytes.take_append_take, Nat.reduceAdd, Nat.reduceSub]
  | statistics =>
      have hfits : 56 ≤ record.length := hfits
      simp (disch := omega) only [layout, encodeFields, MessageKind.fieldsEnd,
        Bytes.ofWord64_word64At, Bytes.take_append_take, Nat.reduceAdd, Nat.reduceSub]

theorem MessageBody.kind_layout (kind : MessageKind) (record : Bytes) :
    (layout kind record).kind = kind := by
  cases kind <;> rfl

namespace Message

variable {message : Message}

/-- A message laid out in a record is of the kind that the record states. -/
theorem eq_of_layout? (hlayout : layout? record = some message) :
    MessageKind.ofCode? (record.word16At 2) = some message.kind ∧ message.header = .layout record ∧
      message.body = .layout message.kind record := by
  obtain ⟨kind, hkind, rfl⟩ := Option.map_eq_some_iff.1 hlayout
  have hsame := MessageBody.kind_layout kind record
  refine ⟨hkind.trans (congrArg some hsame.symm), rfl, ?_⟩
  show MessageBody.layout kind record = .layout (MessageBody.layout kind record).kind record
  rw [hsame]

theorem wireSize_le_of_layout? (hrecord : IsRecord record) (hlayout : layout? record = some message) :
    message.kind.wireSize ≤ record.length :=
  hrecord.fits _ (eq_of_layout? hlayout).1

/-- On the wire the message in a record has its own size, and the type that it had. -/
theorem wireHeader_of_layout? (hlayout : layout? record = some message) :
    message.wireHeader = { message.header with size := UInt16.ofNat message.kind.wireSize } := by
  obtain ⟨hkind, hheader, -⟩ := eq_of_layout? hlayout
  have htype : message.kind.code = message.header.type := by
    rw [MessageKind.code_of_ofCode? hkind, hheader]
    rfl
  rw [wireHeader, htype]

/-- What is written for the message in a record: its size, the rest of its header and its fields as
they stood, and blanks. -/
theorem encode_of_layout? (hrecord : IsRecord record) (hlayout : layout? record = some message) :
    message.encode = Bytes.ofWord16 (UInt16.ofNat message.kind.wireSize) ++
      (record.drop 2).take (message.kind.fieldsEnd - 2) ++
        List.replicate (message.kind.wireSize - message.kind.fieldsEnd) 0 := by
  obtain ⟨hkind, hheader, hbody⟩ := eq_of_layout? hlayout
  have hfits := hrecord.fits _ hkind
  have hends := message.kind.fieldsEnd_bounds
  have hfields := MessageBody.encodeFields_layout hfits fun byte => hrecord.sided _ byte hkind
  have hwidth : 22 + (message.kind.fieldsEnd - headerSize) = message.kind.fieldsEnd - 2 := by
    rw [headerSize] at hends ⊢
    omega
  have hbytes : message.wireHeader.encode ++ message.body.encodeFields =
      Bytes.ofWord16 (UInt16.ofNat message.kind.wireSize) ++
        (record.drop 2).take (message.kind.fieldsEnd - 2) := by
    rw [wireHeader_of_layout? hlayout, hheader, MessageHeader.encode_layout hrecord.headed, hbody,
      hfields, List.append_assoc, Bytes.take_append_take (show 2 + 22 = headerSize from rfl), hwidth]
  have hlength : (Bytes.ofWord16 (UInt16.ofNat message.kind.wireSize) ++
      (record.drop 2).take (message.kind.fieldsEnd - 2)).length = message.kind.fieldsEnd := by
    rw [List.length_append, Bytes.ofWord16, Bytes.length_ofNat, Bytes.length_field] <;>
    · rw [headerSize] at hends
      omega
  rw [encode, hbytes, Bytes.padTo, hlength]

end Message

end record

/-- Whether bytes are a record of the kind written afresh from another one: as long as the kind and
its size in front, then the fields in their places, then nothing but blanks. -/
structure IsCleanCopy (kind : MessageKind) (original copy : Bytes) : Prop where
  length_eq : copy.length = kind.wireSize
  size_eq : (copy.word16At 0).toNat = kind.wireSize
  fields_eq : ∀ place, 2 ≤ place → place < kind.fieldsEnd → copy[place]? = original[place]?
  padding_eq : ∀ place, kind.fieldsEnd ≤ place → place < kind.wireSize → copy[place]? = some 0

namespace Message

variable {message : Message}

/-- What a message has been read out of is a record in front of the bytes. -/
theorem exists_of_decode_ok {bytes : Bytes} {size : Nat}
    (hdecode : decode bytes = .ok (message, size)) :
    ∃ record rest, bytes = record ++ rest ∧ IsRecord record ∧ layout? record = some message ∧
      record.length = size := by
  rcases Packet.decode_cases bytes with ⟨record, rest, rfl, hrecord⟩ | ⟨error, herror, -⟩
  · rw [Packet.decode_of_isRecord hrecord] at hdecode
    cases hlayout : layout? record with
    | none =>
        rw [hlayout] at hdecode
        cases hdecode
    | some found =>
        rw [hlayout] at hdecode
        cases hdecode
        exact ⟨record, rest, rfl, hrecord, hlayout, rfl⟩
  · rw [herror] at hdecode
    cases hdecode

theorem decode_encode : decode message.encode = .ok (message.onWire, message.kind.wireSize) := by
  have hdecode := Packet.decode_of_isRecord message.isRecord_encode []
  rwa [List.append_nil, message.layout?_encode, Option.elim_some, message.length_encode] at hdecode

theorem isCleanCopy_encode {record : Bytes} (hrecord : IsRecord record)
    (hlayout : layout? record = some message) (rest : Bytes) :
    IsCleanCopy message.kind (record ++ rest) message.encode := by
  have hends := message.kind.fieldsEnd_bounds
  have hfits := wireSize_le_of_layout? hrecord hlayout
  have hencode := encode_of_layout? hrecord hlayout
  have hsize : (Bytes.ofWord16 (UInt16.ofNat message.kind.wireSize)).length = 2 :=
    Bytes.length_ofNat 2 _
  have hfields : ((record.drop 2).take (message.kind.fieldsEnd - 2)).length =
      message.kind.fieldsEnd - 2 := Bytes.length_field (by rw [headerSize] at hends; omega)
  rw [headerSize] at hends
  refine ⟨message.length_encode, ?_, ?_, ?_⟩
  · rw [message.isRecord_encode.sized, message.length_encode]
  · intro place hpast hbefore
    rw [hencode, List.getElem?_append_left (by rw [List.length_append]; omega),
      List.getElem?_append_right (by omega), hsize, List.getElem?_take_of_lt (by omega),
      List.getElem?_drop, Nat.add_sub_cancel' hpast, List.getElem?_append_left (by omega)]
  · intro place hpast hbefore
    rw [hencode, List.getElem?_append_right (by rw [List.length_append]; omega),
      List.getElem?_replicate_of_lt]
    rw [List.length_append]
    omega

/-- **A message that has been read is written back as it stood.** The bytes it is read from begin with
its record, whose size they state and which is long enough for its kind. Writing the message gives
a clean copy of that record: every field byte for byte, the size of the kind, blank padding. Reading
the copy gives the message again, with no change but the size in its header. -/
theorem encode_of_decode {bytes : Bytes} {message : Message} {size : Nat}
    (hdecode : decode bytes = .ok (message, size)) :
    (headerSize ≤ message.kind.wireSize ∧ message.kind.wireSize ≤ size ∧ size ≤ bytes.length ∧
      (bytes.word16At 0).toNat = size) ∧
    IsCleanCopy message.kind bytes message.encode ∧
    decode message.encode = .ok
      ({ message with header :=
          { message.header with size := UInt16.ofNat message.kind.wireSize } },
        message.kind.wireSize) := by
  obtain ⟨record, rest, rfl, hrecord, hlayout, rfl⟩ := exists_of_decode_ok hdecode
  have hends := message.kind.fieldsEnd_bounds
  have hstated : (record ++ rest).word16At 0 = record.word16At 0 :=
    congrArg (·.size) (MessageHeader.layout_append hrecord.headed rest)
  refine ⟨⟨Nat.le_trans hends.1 hends.2, wireSize_le_of_layout? hrecord hlayout, ?_, ?_⟩,
    isCleanCopy_encode hrecord hlayout rest, ?_⟩
  · rw [List.length_append]
    exact Nat.le_add_right _ _
  · rw [hstated, hrecord.sized]
  · rw [decode_encode, onWire, wireHeader_of_layout? hlayout]

/-- A deletion in a record of 44 bytes, none of those behind its side blank, and two bytes more. -/
def crowdedDeletion : Bytes :=
  [44, 0, 32, 0, 7, 0, 0, 0] ++ [5, 0, 0, 0, 0, 0, 0, 0] ++ [9, 0, 0, 0, 0, 0, 0, 1] ++
    [40, 0, 0, 0, 0, 0, 0, 0] ++ 1 :: List.replicate 11 255 ++ [3, 3]

theorem encode_of_decode_crowdedDeletion :
    let message : Message := ⟨⟨44, 32, 7, 5, 72057594037927945⟩, .deleteOrder 40 .ask⟩
    decode crowdedDeletion = .ok (message, 44) ∧
      IsCleanCopy .deleteOrder crowdedDeletion message.encode ∧
      decode message.encode = .ok (⟨⟨40, 32, 7, 5, 72057594037927945⟩, .deleteOrder 40 .ask⟩, 40) := by
  intro message
  have hdecode : decode crowdedDeletion = .ok (message, 44) := rfl
  exact ⟨hdecode, (encode_of_decode hdecode).2⟩

end Message

end MarketFeed
