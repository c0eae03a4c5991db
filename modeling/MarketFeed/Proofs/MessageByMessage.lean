import MarketFeed.Proofs.PacketGrammar

/-! A packet read message by message. The reader of single messages and the two walks over a packet
make the same checks on a record, each in its own way; so a packet reads as its messages do when they
are taken off its front one after the other. An unknown message is an error to the reader of single
messages only. -/

namespace MarketFeed

/-- The error of a record in the place that it has in its packet. -/
def DecodeError.atRecord (index : Nat) : DecodeError → DecodeError
  | .truncatedMessage _ declared remaining => .truncatedMessage index declared remaining
  | .messageTooShort _ type declared need => .messageTooShort index type declared need
  | error => error

/-- A record of known type that is long enough but names no side where it has to is refused for the
byte in the side's place. -/
theorem MessageBody.readFields_of_not_isSideByte {kind : MessageKind} {record : Bytes} {byte : UInt8}
    (hfits : kind.wireSize ≤ record.length) (hbyte : kind.sideByte? record = some byte)
    (hside : ¬IsSideByte byte) :
    readFields kind (record.drop headerSize) = .error (.invalidSide byte) := by
  have hread (offset : Nat) (hoffset : offset < record.length) (hat : record.byteAt offset = byte) :
      readSide (record.drop offset) = .error (.invalidSide byte) := by
    rw [readSide_drop hoffset, hat, Side.ofByte?_eq_none hside]
    rfl
  rw [headerSize]
  cases kind with
  | addOrder | modifyOrder =>
      have hfits : 48 ≤ record.length := hfits
      have hread := hread 44 (by omega) (Option.some.inj hbyte)
      simp (disch := omega) only [readFields, readOrder, Bytes.word64?_drop, Bytes.word32?_drop,
        need_bind, Nat.reduceAdd, hread]
      rfl
  | deleteOrder =>
      have hfits : 40 ≤ record.length := hfits
      have hread := hread 32 (by omega) (Option.some.inj hbyte)
      simp (disch := omega) only [readFields, Bytes.word64?_drop, need_bind, Nat.reduceAdd, hread]
      rfl
  | trade =>
      have hfits : 56 ≤ record.length := hfits
      have hread := hread 52 (by omega) (Option.some.inj hbyte)
      simp (disch := omega) only [readFields, Bytes.word64?_drop, Bytes.word32?_drop, need_bind,
        Nat.reduceAdd, hread]
      rfl
  | heartbeat | sequenceReset | securityDefinition | tradeCancel | statistics => cases hbyte

namespace Packet

/-- Reads so many messages off the front of the bytes, one by one, the first of them being the record
at `index`: the messages and the number of unknown ones, which are passed over by the size that they
declare. -/
def readSingly : (count index : Nat) → Bytes → Except DecodeError (List Message × Nat)
  | 0, _, _ => .ok ([], 0)
  | count + 1, index, bytes =>
      match Message.decode bytes with
      | .ok (message, size) =>
          (readSingly count (index + 1) (bytes.drop size)).map fun (messages, unknown) =>
            (message :: messages, unknown)
      | .error (.invalidMessageType _) =>
          (readSingly count (index + 1) (bytes.drop (bytes.word16At 0).toNat)).map
            fun (messages, unknown) => (messages, unknown + 1)
      | .error error => .error (error.atRecord index)

section sized

variable {record : Bytes} {kind : MessageKind}

/-- What the reader of single messages looks at in bytes as long as they state. -/
theorem decode_of_sized (hheaded : headerSize ≤ record.length)
    (hsized : (record.word16At 0).toNat = record.length) (rest : Bytes) :
    Message.decode (record ++ rest) =
      (MessageKind.ofCode? (record.word16At 2)).elim
        (.error (.invalidMessageType (record.word16At 2))) (fun kind => do
          Message.checkFit 0 kind record.length
          let body ← MessageBody.readFields kind (record.drop headerSize)
          pure (⟨.layout record, body⟩, record.length)) := by
  have hlength : (record ++ rest).length = record.length + rest.length := List.length_append
  have hextent : Message.checkExtent 0 record.length (record ++ rest).length = .ok () := by
    rw [Message.checkExtent, if_neg (by omega)]
  have hrecord : (record ++ rest).take record.length = record := List.take_left
  rw [Message.decode, MessageHeader.read_eq_layout (by omega), MessageHeader.layout_append hheaded]
  simp only [bind, Except.bind, MessageHeader.layout, hsized, hextent, hrecord]
  cases hkind : MessageKind.ofCode? (record.word16At 2) with
  | none => rfl
  | some kind =>
      simp only [Option.elim_some, Message.ofRecord, hkind]
      cases Message.checkFit 0 kind record.length with
      | error error => rfl
      | ok fits => cases MessageBody.readFields kind (record.drop headerSize) <;> rfl

/-- What the first walk looks at in bytes of known type as long as they state. -/
theorem checkRecord_of_known (hheaded : headerSize ≤ record.length)
    (hsized : (record.word16At 0).toNat = record.length)
    (hkind : MessageKind.ofCode? (record.word16At 2) = some kind) (index : Nat) (rest : Bytes) :
    checkRecord index (record ++ rest) = (do
      Message.checkFit index kind record.length
      kind.sideOffset?.elim (pure (.layout record)) fun offset => do
        let _ ← MessageBody.readSide ((record ++ rest).drop offset)
        pure (.layout record)) := by
  have hlength : (record ++ rest).length = record.length + rest.length := List.length_append
  have hextent : Message.checkExtent index record.length (record ++ rest).length = .ok () := by
    rw [Message.checkExtent, if_neg (by omega)]
  rw [checkRecord, MessageHeader.read_eq_layout (by omega), MessageHeader.layout_append hheaded]
  simp only [bind, Except.bind, MessageHeader.layout, hsized, hextent, hkind]
  cases kind.sideOffset? <;> rfl

/-- A record in front of the bytes is read for what is laid out in it. -/
theorem decode_of_isRecord (h : IsRecord record) (rest : Bytes) :
    Message.decode (record ++ rest) =
      (Message.layout? record).elim (.error (.invalidMessageType (record.word16At 2)))
        fun message => .ok (message, record.length) := by
  rw [decode_of_sized h.headed h.sized, Message.layout?]
  cases hkind : MessageKind.ofCode? (record.word16At 2) with
  | none => rfl
  | some kind =>
      have hfits := h.fits kind hkind
      have hfit : Message.checkFit 0 kind record.length = .ok () := if_neg (Nat.not_lt.2 hfits)
      have hread := MessageBody.readFields_eq_layout hfits fun byte => h.sided kind byte hkind
      simp only [Option.elim_some, Option.map_some, hfit, hread, bind, Except.bind]
      rfl

/-- Of bytes as long as they state that are no record, both readers say the same. -/
theorem decode_of_not_isRecord (hheaded : headerSize ≤ record.length)
    (hsized : (record.word16At 0).toNat = record.length) (hnot : ¬IsRecord record) (rest : Bytes) :
    ∃ error, Message.decode (record ++ rest) = .error error ∧
      (∀ type, error ≠ .invalidMessageType type) ∧
      ∀ index, checkRecord index (record ++ rest) = .error (error.atRecord index) := by
  rw [decode_of_sized hheaded hsized]
  cases hkind : MessageKind.ofCode? (record.word16At 2) with
  | none =>
      refine absurd ⟨hheaded, hsized, fun kind hknown => ?_, fun kind _ hknown => ?_⟩ hnot <;>
      · rw [hkind] at hknown
        cases hknown
  | some kind =>
      simp only [Option.elim_some, checkRecord_of_known hheaded hsized hkind]
      by_cases hfits : kind.wireSize ≤ record.length
      · -- All that is left to be wrong is the side.
        have hbad : ¬∀ byte, kind.sideByte? record = some byte → IsSideByte byte := by
          intro hgood
          refine hnot ⟨hheaded, hsized, fun other hother => ?_, fun other byte hother hbyte => ?_⟩ <;>
          · cases hkind.symm.trans hother
            first | exact hfits | exact hgood byte hbyte
        obtain ⟨byte, hbyte⟩ := Classical.not_forall.1 hbad
        obtain ⟨hbyte, hside⟩ := Classical.not_imp.1 hbyte
        have hfit (index : Nat) : Message.checkFit index kind record.length = .ok () :=
          if_neg (Nat.not_lt.2 hfits)
        have hfields := MessageBody.readFields_of_not_isSideByte hfits hbyte hside
        refine ⟨.invalidSide byte, by rw [hfit, hfields]; rfl, by simp, fun index => ?_⟩
        rw [kind.sideByte?_eq, Option.map_eq_some_iff] at hbyte
        obtain ⟨offset, hoffset, hat⟩ := hbyte
        have hlt : offset < record.length :=
          Nat.lt_of_lt_of_le (MessageKind.sideOffset?_lt_wireSize hoffset) hfits
        have hlength : (record ++ rest).length = record.length + rest.length := List.length_append
        rw [hfit, hoffset, Option.elim_some, MessageBody.readSide_drop (by omega),
          Bytes.byteAt_append hlt, hat, Side.ofByte?_eq_none hside]
        rfl
      · have hfit (index : Nat) : Message.checkFit index kind record.length =
            .error (.messageTooShort index kind.code record.length kind.wireSize) :=
          if_pos (Nat.lt_of_not_le hfits)
        refine ⟨.messageTooShort 0 kind.code record.length kind.wireSize, by rw [hfit]; rfl, by simp,
          fun index => by rw [hfit]; rfl⟩

end sized

/-- The reader of single messages finds a record in front of the bytes, or it refuses them for what the
first walk refuses them for. -/
theorem decode_cases (bytes : Bytes) :
    (∃ record rest, bytes = record ++ rest ∧ IsRecord record) ∨
    ∃ error, Message.decode bytes = .error error ∧ (∀ type, error ≠ .invalidMessageType type) ∧
      ∀ index, checkRecord index bytes = .error (error.atRecord index) := by
  rcases Nat.lt_or_ge bytes.length headerSize with hshort | hheaded
  · have hheader := MessageHeader.read_of_short hshort
    refine Or.inr ⟨.bufferTooSmall headerSize bytes.length, ?_, by simp, fun index => ?_⟩
    · rw [Message.decode, hheader]
      rfl
    · rw [checkRecord, hheader]
      rfl
  have hheader := MessageHeader.read_eq_layout hheaded
  let size := (bytes.word16At 0).toNat
  by_cases hextent : size < headerSize ∨ bytes.length < size
  · have hrefused (index : Nat) : Message.checkExtent index size bytes.length =
        .error (.truncatedMessage index size bytes.length) := if_pos hextent
    refine Or.inr ⟨.truncatedMessage 0 size bytes.length, ?_, by simp, fun index => ?_⟩
    · rw [Message.decode, hheader]
      simp only [bind, Except.bind, MessageHeader.layout, hrefused, size]
    · rw [checkRecord, hheader]
      simp only [bind, Except.bind, MessageHeader.layout, hrefused, size]
      rfl
  · rw [not_or, Nat.not_lt, Nat.not_lt] at hextent
    have hcut : bytes.take size ++ bytes.drop size = bytes := List.take_append_drop size bytes
    have hlength : (bytes.take size).length = size := List.length_take_of_le hextent.2
    have hsized : (Bytes.word16At (bytes.take size) 0).toNat = (bytes.take size).length := by
      have hlayout : MessageHeader.layout (bytes.take size ++ bytes.drop size) =
          .layout (bytes.take size) := MessageHeader.layout_append (by omega) (bytes.drop size)
      rw [hcut] at hlayout
      rw [hlength]
      exact (congrArg (·.size.toNat) hlayout).symm
    by_cases hrecord : IsRecord (bytes.take size)
    · exact Or.inl ⟨_, _, hcut.symm, hrecord⟩
    · have hrefused := decode_of_not_isRecord (by omega) hsized hrecord (bytes.drop size)
      rw [hcut] at hrefused
      exact Or.inr hrefused

/-- Reading message by message goes through a run of records, or ends where the first walk ends. -/
theorem readSingly_cases (count index : Nat) (bytes : Bytes) :
    (∃ records unknown, Records count bytes records ∧
      readSingly count index bytes = .ok (records.filterMap Message.layout?, unknown) ∧
      (records.filterMap Message.layout?).length + unknown = count) ∨
    ∃ error, readSingly count index bytes = .error error ∧
      checkFraming count index bytes = .error error := by
  induction count generalizing index bytes with
  | zero => exact Or.inl ⟨[], 0, .done bytes, rfl, rfl⟩
  | succ count ih =>
      rcases decode_cases bytes with ⟨record, rest, rfl, hrecord⟩ | ⟨error, hdecode, hother, hcheck⟩
      · have hdrop : (record ++ rest).drop record.length = rest := List.drop_left
        have hsize : ((record ++ rest).word16At 0).toNat = record.length :=
          (congrArg (·.size.toNat) (MessageHeader.layout_append hrecord.headed rest)).trans hrecord.sized
        have hcheck : checkRecord index (record ++ rest) = .ok (.layout record) := by
          rcases checkRecord_of_sized hrecord.headed hrecord.sized index rest with ⟨-, hok⟩ | ⟨hnot, -⟩
          · exact hok
          · exact absurd hrecord hnot
        have hframing : checkFraming (count + 1) index (record ++ rest) =
            checkFraming count (index + 1) rest := by
          simp only [checkFraming, hcheck, bind, Except.bind, MessageHeader.layout, hrecord.sized, hdrop]
        rw [hframing, readSingly, decode_of_isRecord hrecord]
        cases hmessage : Message.layout? record with
        | none =>
            simp only [Option.elim_none, hsize, hdrop]
            rcases ih (index + 1) rest with ⟨records, unknown, hrecords, hread, hcount⟩ |
              ⟨error, hread, herror⟩
            · refine Or.inl ⟨record :: records, unknown + 1, .next hrecord hrecords, ?_, ?_⟩
              · rw [hread, List.filterMap_cons_none hmessage]
                rfl
              · rw [List.filterMap_cons_none hmessage]
                omega
            · exact Or.inr ⟨error, by rw [hread]; rfl, herror⟩
        | some message =>
            simp only [Option.elim_some, hdrop]
            rcases ih (index + 1) rest with ⟨records, unknown, hrecords, hread, hcount⟩ |
              ⟨error, hread, herror⟩
            · refine Or.inl ⟨record :: records, unknown, .next hrecord hrecords, ?_, ?_⟩
              · rw [hread, List.filterMap_cons_some hmessage]
                rfl
              · rw [List.filterMap_cons_some hmessage, List.length_cons]
                omega
            · exact Or.inr ⟨error, by rw [hread]; rfl, herror⟩
      · refine Or.inr ⟨error.atRecord index, ?_, ?_⟩
        · rw [readSingly, hdecode]
          split
          · rename_i heq
            cases heq
          · rename_i type heq
            exact absurd (Except.error.inj heq) (hother type)
          · rename_i heq
            rw [Except.error.inj heq]
        · simp only [checkFraming, hcheck, bind, Except.bind]

end Packet

/-- **A packet reads as its messages read one by one.** Of bytes that have a packet header and the
length that it states, a decoder makes what comes of reading so many messages off them, each behind the
one before: these messages in their order and the number of those of unknown type; or, where one of
them cannot be read, nothing but the error of the first such message, with its place in the packet. -/
theorem Decoder.decode_eq_readSingly (decoder : Decoder) {packet : Bytes} (received : UInt64)
    (hheaded : headerSize ≤ packet.length) (hsized : (packet.word16At 0).toNat = packet.length) :
    (decoder.decode packet received).2 =
      match Packet.readSingly (packet.word16At 2).toNat 0 (packet.drop headerSize) with
      | .ok (messages, unknown) => ⟨messages, .ok ⟨.layout packet, messages.length, unknown⟩⟩
      | .error error => ⟨[], .error error⟩ := by
  rw [Decoder.decode_snd]
  rcases Packet.readSingly_cases (packet.word16At 2).toNat 0 (packet.drop headerSize) with
    ⟨records, unknown, hrecords, hread, hcount⟩ | ⟨error, hread, herror⟩
  · obtain ⟨unknown', hdecode, hcount'⟩ := Packet.decode_of_isPacket ⟨hheaded, hsized, hrecords⟩
    have hunknown : unknown' = unknown := by omega
    rw [hdecode, hread, hunknown]
  · rw [hread, Packet.decode, PacketHeader.read_eq_layout hheaded]
    simp only [bind, Except.bind, PacketHeader.layout, if_pos hsized, herror]

/-- A heartbeat, a record of unknown type, and an order without room for its terms. -/
def shortThirdRecord : Bytes :=
  let padding : Bytes := List.replicate 20 0
  [96, 0, 3, 0] ++ padding ++ ([24, 0, 1, 0] ++ padding) ++ ([24, 0, 99, 0] ++ padding) ++
    ([24, 0, 30, 0] ++ padding)

theorem Decoder.decode_eq_readSingly_shortThirdRecord :
    headerSize ≤ shortThirdRecord.length ∧
    (shortThirdRecord.word16At 0).toNat = shortThirdRecord.length ∧
    Message.decode (shortThirdRecord.drop 72) = .error (.messageTooShort 0 30 24 48) ∧
    Packet.readSingly 2 0 (shortThirdRecord.drop headerSize) =
      .ok ([⟨⟨24, 1, 0, 0, 0⟩, .heartbeat⟩], 1) ∧
    ((Decoder.start false).decode shortThirdRecord 0).2.messages = [] ∧
    ((Decoder.start false).decode shortThirdRecord 0).2.result = .error (.messageTooShort 2 30 24 48) := by
  have hheaded : headerSize ≤ shortThirdRecord.length := by decide
  have hsized : (shortThirdRecord.word16At 0).toNat = shortThirdRecord.length := by decide
  have hsingly : Packet.readSingly (shortThirdRecord.word16At 2).toNat 0
      (shortThirdRecord.drop headerSize) = .error (.messageTooShort 2 30 24 48) := rfl
  have hdecode := (Decoder.start false).decode_eq_readSingly 0 hheaded hsized
  rw [hsingly] at hdecode
  rw [hdecode]
  exact ⟨hheaded, hsized, rfl, rfl, rfl, rfl⟩

end MarketFeed
