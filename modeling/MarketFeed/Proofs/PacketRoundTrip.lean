import Mathlib.Data.List.Basic
import MarketFeed.Proofs.PacketGrammar

/-! From a draft to a packet and back. What is written for a message is a record in which the message
is laid out, so a finished draft is a packet of the grammar and is read as the messages that were
put in. Sizes are written with 16 bits; a packet longer than that is refused for its size. -/

namespace MarketFeed

theorem PacketHeader.length_encode (header : PacketHeader) : header.encode.length = headerSize := by
  simp [encode, headerSize, Bytes.ofWord16, Bytes.ofWord32, Bytes.ofWord64]

theorem MessageHeader.length_encode (header : MessageHeader) :
    header.encode.length = headerSize := by
  simp [encode, headerSize, Bytes.ofWord16, Bytes.ofWord32, Bytes.ofWord64]

theorem PacketHeader.layout_encode (header : PacketHeader) (rest : Bytes) :
    layout (header.encode ++ rest) = header := by
  have hread : PacketHeader.read (header.encode ++ rest) = .ok header := by
    simp [PacketHeader.read, encode, List.append_assoc]
  rw [read_eq_layout (by rw [List.length_append, length_encode]; omega)] at hread
  exact Except.ok.inj hread

theorem MessageHeader.layout_encode (header : MessageHeader) (rest : Bytes) :
    layout (header.encode ++ rest) = header := by
  have hread : MessageHeader.read (header.encode ++ rest) = .ok header := by
    simp [MessageHeader.read, encode, List.append_assoc]
  rw [read_eq_layout (by rw [List.length_append, length_encode]; omega)] at hread
  exact Except.ok.inj hread

theorem MessageHeader.size_encode (header : MessageHeader) (rest : Bytes) :
    (header.encode ++ rest).word16At 0 = header.size :=
  congrArg (·.size) (header.layout_encode rest)

theorem MessageHeader.type_encode (header : MessageHeader) (rest : Bytes) :
    (header.encode ++ rest).word16At 2 = header.type :=
  congrArg (·.type) (header.layout_encode rest)

namespace MessageBody

theorem length_encodeFields_le (body : MessageBody) :
    headerSize + body.encodeFields.length ≤ body.kind.wireSize := by
  cases body with
  | securityDefinition terms =>
      simp [encodeFields, headerSize, kind, MessageKind.wireSize, terms.symbol.length_eq,
        Bytes.ofWord32]
  | _ =>
      simp [encodeFields, encodeOrder, headerSize, kind, MessageKind.wireSize, Bytes.ofWord32,
        Bytes.ofWord64]

/-- Fields that end in a side have it where its kind has the side byte. -/
theorem encodeFields_of_sideOffset {body : MessageBody} {offset : Nat}
    (hoffset : body.kind.sideOffset? = some offset) :
    ∃ front side, body.encodeFields = front ++ [Side.toByte side] ∧
      headerSize + front.length = offset := by
  cases body with
  | addOrder terms | modifyOrder terms =>
      cases hoffset
      exact ⟨_, terms.side, rfl, by simp [headerSize, Bytes.ofWord32, Bytes.ofWord64]⟩
  | deleteOrder orderId side =>
      cases hoffset
      exact ⟨_, side, rfl, by simp [headerSize, Bytes.ofWord64]⟩
  | trade report =>
      cases hoffset
      exact ⟨_, report.side, rfl, by simp [headerSize, Bytes.ofWord32, Bytes.ofWord64]⟩
  | _ => cases hoffset

theorem readSide_toByte (side : Side) (rest : Bytes) :
    readSide (side.toByte :: rest) = .ok side := by
  cases side <;> rfl

/-- Fields are read back as they were written, whatever stands behind them. -/
theorem readFields_encodeFields (body : MessageBody) (rest : Bytes) :
    readFields body.kind (body.encodeFields ++ rest) = .ok body := by
  cases body with
  | heartbeat => rfl
  | securityDefinition terms =>
      simp only [readFields, kind, encodeFields, List.append_assoc, need_bind,
        Bytes.split?_append terms.symbol.length_eq, Bytes.word32?_append, List.singleton_append,
        Bytes.byte?, Symbol.ofBytes_bytes]
      rfl
  | _ =>
      simp only [readFields, kind, encodeFields, readOrder, encodeOrder, List.append_assoc, need_bind,
        Bytes.word64?_append, Bytes.word32?_append, List.singleton_append, readSide_toByte]
      rfl

end MessageBody

theorem Side.isSideByte_toByte (side : Side) : IsSideByte side.toByte := by
  cases side with
  | bid => exact Or.inl rfl
  | ask => exact Or.inr rfl

theorem MessageKind.toNat_wireSize (kind : MessageKind) :
    (UInt16.ofNat kind.wireSize).toNat = kind.wireSize := by
  cases kind <;> rfl

namespace Message

variable (message : Message)

theorem length_encode : message.encode.length = message.kind.wireSize := by
  have := message.body.length_encodeFields_le
  refine Bytes.length_padTo _ _ ?_
  rw [List.length_append, MessageHeader.length_encode]
  exact this

/-- The bytes of a message are its header, its fields and padding. -/
theorem encode_eq : ∃ padding, message.encode =
    message.wireHeader.encode ++ (message.body.encodeFields ++ padding) :=
  ⟨_, List.append_assoc _ _ _⟩

theorem ofCode?_encode : MessageKind.ofCode? (message.encode.word16At 2) = some message.kind := by
  obtain ⟨padding, hencode⟩ := message.encode_eq
  rw [hencode, MessageHeader.type_encode]
  exact MessageKind.ofCode?_code message.kind

/-- Where the kind has a side byte, the encoding has a side. -/
theorem byteAt_encode {offset : Nat} (hoffset : message.kind.sideOffset? = some offset) :
    ∃ side, message.encode.byteAt offset = Side.toByte side := by
  obtain ⟨padding, hencode⟩ := message.encode_eq
  obtain ⟨front, side, hfront, hplace⟩ := MessageBody.encodeFields_of_sideOffset hoffset
  have hsplit : message.encode = (message.wireHeader.encode ++ front) ++ side.toByte :: padding := by
    rw [hencode, hfront]
    simp
  have hoffset : offset = (message.wireHeader.encode ++ front).length := by
    rw [List.length_append, MessageHeader.length_encode, hplace]
  refine ⟨side, ?_⟩
  rw [hsplit, hoffset, Bytes.byteAt, List.getD_eq_getElem?_getD,
    List.getElem?_append_right (Nat.le_refl _), Nat.sub_self]
  rfl

theorem isRecord_encode : IsRecord message.encode := by
  have hlength := message.length_encode
  have hfields := message.body.length_encodeFields_le
  refine ⟨?_, ?_, fun kind hkind => ?_, fun kind byte hkind hbyte => ?_⟩
  · rw [hlength]
    exact Nat.le_trans (Nat.le_add_right _ _) hfields
  · obtain ⟨padding, hencode⟩ := message.encode_eq
    rw [hlength, hencode, MessageHeader.size_encode]
    exact message.kind.toNat_wireSize
  · cases message.ofCode?_encode.symm.trans hkind
    exact Nat.le_of_eq hlength.symm
  · cases message.ofCode?_encode.symm.trans hkind
    rw [MessageKind.sideByte?_eq] at hbyte
    obtain ⟨offset, hoffset, rfl⟩ := Option.map_eq_some_iff.1 hbyte
    obtain ⟨side, hside⟩ := message.byteAt_encode hoffset
    rw [hside]
    exact side.isSideByte_toByte

/-- In the record written for a message that message is laid out. -/
theorem layout?_encode : layout? message.encode = some message.onWire := by
  obtain ⟨padding, hencode⟩ := message.encode_eq
  have hheader := message.wireHeader.layout_encode (message.body.encodeFields ++ padding)
  have hbody : MessageBody.readFields message.kind (message.body.encodeFields ++ padding) =
      .ok message.body := message.body.readFields_encodeFields padding
  have hdrop : message.encode.drop headerSize = message.body.encodeFields ++ padding := by
    rw [hencode, ← message.wireHeader.length_encode, List.drop_left]
  have hrecord := message.isRecord_encode
  rw [← hencode] at hheader
  rw [← hdrop, MessageBody.readFields_eq_layout (hrecord.fits _ message.ofCode?_encode) fun byte =>
    hrecord.sided _ byte message.ofCode?_encode] at hbody
  rw [layout?, message.ofCode?_encode, Option.map_some, hheader]
  rw [Except.ok.inj hbody]
  rfl

end Message

namespace PacketDraft

/-- What is put into a draft: a message, or fields under any type. -/
inductive Entry where
  | known (message : Message)
  | raw (type : UInt16) (instrument : UInt32) (sequence sendTime : UInt64) (fields : Bytes)

namespace Entry

/-- The message of an entry, if it is one. -/
def message? : Entry → Option Message
  | .known message => some message
  | .raw .. => none

def isRaw : Entry → Bool
  | .known _ => false
  | .raw .. => true

/-- Whether the type of a raw entry is none of the known ones. -/
def Unknown : Entry → Prop
  | .known _ => True
  | .raw type .. => MessageKind.ofCode? type = none

def record : Entry → Bytes
  | .known message => message.encode
  | .raw type instrument sequence sendTime fields =>
      let size := headerSize + roundUp fields.length
      let header : MessageHeader :=
        { size := UInt16.ofNat size, type, instrument, sequence, sendTime }
      (header.encode ++ fields).padTo size

theorem le_roundUp (n : Nat) : n ≤ roundUp n := by
  rw [roundUp]
  omega

theorem length_record_raw (type : UInt16) (instrument : UInt32) (sequence sendTime : UInt64)
    (fields : Bytes) : (raw type instrument sequence sendTime fields).record.length =
      headerSize + roundUp fields.length := by
  rw [record, Bytes.length_padTo]
  rw [List.length_append, MessageHeader.length_encode]
  exact Nat.add_le_add_left (le_roundUp _) _

/-- An entry short enough to be counted is written as a record of what it says. -/
theorem isRecord_record {entry : Entry} (hshort : entry.record.length < UInt16.size)
    (hunknown : entry.Unknown) :
    IsRecord entry.record ∧ Message.layout? entry.record = entry.message?.map Message.onWire := by
  cases entry with
  | known message => exact ⟨message.isRecord_encode, message.layout?_encode⟩
  | raw type instrument sequence sendTime fields =>
      let size := headerSize + roundUp fields.length
      let header : MessageHeader :=
        { size := UInt16.ofNat size, type, instrument, sequence, sendTime }
      have hrecord : (raw type instrument sequence sendTime fields).record =
          header.encode ++ (fields ++ List.replicate (size - (header.encode ++ fields).length) 0) :=
        List.append_assoc _ _ _
      have hlength := length_record_raw type instrument sequence sendTime fields
      have htype : MessageKind.ofCode?
          ((raw type instrument sequence sendTime fields).record.word16At 2) = none := by
        rw [hrecord, MessageHeader.type_encode]
        exact hunknown
      refine ⟨⟨?_, ?_, fun kind hkind => ?_, fun kind byte hkind => ?_⟩, ?_⟩
      · rw [hlength]
        exact Nat.le_add_right _ _
      · rw [hlength] at hshort ⊢
        rw [hrecord, MessageHeader.size_encode]
        exact UInt16.toNat_ofNat_of_lt' hshort
      · rw [htype] at hkind
        cases hkind
      · rw [htype] at hkind
        cases hkind
      · rw [Message.layout?, htype]
        rfl

theorem length_filterMap_add_length_filter (entries : List Entry) :
    (entries.filterMap message?).length + (entries.filter isRaw).length = entries.length := by
  induction entries with
  | nil => rfl
  | cons entry entries ih =>
      cases entry with
      | known message =>
          have hsome : message? (known message) = some message := rfl
          rw [List.filterMap_cons_some hsome, List.filter_cons_of_neg (by simp [isRaw])]
          simp only [List.length_cons]
          omega
      | raw type instrument sequence sendTime fields =>
          rw [List.filterMap_cons_none rfl, List.filter_cons_of_pos rfl]
          simp only [List.length_cons]
          omega

end Entry

/-! ### Drafts -/

/-- The draft with an entry put in. -/
def put (draft : PacketDraft) : Entry → PacketDraft
  | .known message => draft.push message
  | .raw type instrument sequence sendTime fields =>
      draft.pushRaw type instrument sequence sendTime fields

/-- The draft with the entries put in one after the other. -/
def ofEntries (channel : UInt32) (sequence sendTime : UInt64) (entries : List Entry) :
    PacketDraft :=
  entries.foldl put (start channel sequence sendTime)

theorem foldl_put (draft : PacketDraft) (entries : List Entry) :
    entries.foldl put draft =
      { draft with records := (entries.map Entry.record).reverse ++ draft.records } := by
  induction entries generalizing draft with
  | nil => rfl
  | cons entry entries ih =>
      have hput : draft.put entry = draft.pushRecord entry.record := by cases entry <;> rfl
      rw [List.foldl_cons, hput, ih]
      simp [pushRecord]

theorem length_finish (draft : PacketDraft) : draft.finish.length = draft.length := by
  rw [finish, List.length_append, PacketHeader.length_encode, length]

theorem headerSize_le_length_finish (draft : PacketDraft) : headerSize ≤ draft.finish.length := by
  rw [length_finish]
  exact Nat.le_add_right _ _

theorem layout_finish (draft : PacketDraft) : PacketHeader.layout draft.finish = draft.header :=
  draft.header.layout_encode draft.body

theorem drop_finish (draft : PacketDraft) : draft.finish.drop headerSize = draft.body := by
  rw [finish, ← draft.header.length_encode, List.drop_left]

/-- The size in the header is the length of the packet as far as 16 bits hold it. -/
theorem size_finish (draft : PacketDraft) :
    (draft.finish.word16At 0).toNat = draft.finish.length % UInt16.size := by
  have hsize : draft.finish.word16At 0 = draft.header.size := congrArg (·.size) draft.layout_finish
  rw [hsize, length_finish]
  exact UInt16.toNat_ofNat'

theorem messageCount_finish {draft : PacketDraft} (hcount : draft.messageCount < UInt16.size) :
    (draft.finish.word16At 2).toNat = draft.messageCount := by
  have hheader : draft.finish.word16At 2 = draft.header.messageCount :=
    congrArg (·.messageCount) draft.layout_finish
  rw [hheader]
  exact UInt16.toNat_ofNat_of_lt' hcount

/-- A packet whose length 16 bits cannot hold is refused, since its size cannot be its length. -/
theorem decode_finish_of_le (draft : PacketDraft) (hlong : UInt16.size ≤ draft.finish.length) :
    Packet.decode draft.finish =
      ⟨[], .error (.sizeMismatch (draft.finish.length % UInt16.size) draft.finish.length)⟩ := by
  have hlt : draft.finish.length % UInt16.size < UInt16.size := Nat.mod_lt _ (by decide)
  have hne : (draft.finish.word16At 0).toNat ≠ draft.finish.length := by
    rw [size_finish]
    omega
  rw [Packet.decode_of_size_ne draft.headerSize_le_length_finish hne, size_finish]

section entries

variable {channel : UInt32} {sequence sendTime : UInt64} {entries : List Entry}

theorem ofEntries_eq : ofEntries channel sequence sendTime entries =
    ⟨channel, sequence, sendTime, (entries.map Entry.record).reverse⟩ := by
  rw [ofEntries, foldl_put, start, List.append_nil]

theorem body_ofEntries : (ofEntries channel sequence sendTime entries).body =
    (entries.map Entry.record).flatten := by
  rw [ofEntries_eq, body, List.reverse_reverse]

theorem messageCount_ofEntries :
    (ofEntries channel sequence sendTime entries).messageCount = entries.length := by
  rw [ofEntries_eq, messageCount, List.length_reverse, List.length_map]

/-- No record of a draft is longer than what is finished of it. -/
theorem length_record_lt {entry : Entry} (hmem : entry ∈ entries) :
    entry.record.length < (ofEntries channel sequence sendTime entries).finish.length := by
  have hle : entry.record.length ≤ (entries.map Entry.record).flatten.length :=
    (List.sublist_flatten_of_mem (List.mem_map_of_mem hmem)).length_le
  rw [length_finish, length, body_ofEntries, headerSize]
  omega

/-- A finished draft whose length and number of entries 16 bits can hold is a packet of the records
written for its entries. -/
theorem isPacket_finish (hcount : entries.length < UInt16.size)
    (hunknown : ∀ entry ∈ entries, entry.Unknown)
    (hshort : (ofEntries channel sequence sendTime entries).finish.length < UInt16.size) :
    IsPacket (ofEntries channel sequence sendTime entries).finish (entries.map Entry.record) := by
  have hrecords : ∀ record ∈ entries.map Entry.record, IsRecord record := by
    intro record hmem
    obtain ⟨entry, hentry, rfl⟩ := List.mem_map.1 hmem
    have hlt := Nat.lt_trans (length_record_lt hentry) hshort
    exact (Entry.isRecord_record hlt (hunknown entry hentry)).1
  have hframed := records_flatten hrecords
  rw [List.length_map] at hframed
  refine ⟨headerSize_le_length_finish _, ?_, ?_⟩
  · rw [size_finish, Nat.mod_eq_of_lt hshort]
  · rw [messageCount_finish (messageCount_ofEntries ▸ hcount), messageCount_ofEntries, drop_finish,
      body_ofEntries]
    exact hframed

theorem filterMap_layout?_record (hunknown : ∀ entry ∈ entries, entry.Unknown)
    (hshort : (ofEntries channel sequence sendTime entries).finish.length < UInt16.size) :
    (entries.map Entry.record).filterMap Message.layout? =
      (entries.filterMap Entry.message?).map Message.onWire := by
  rw [List.filterMap_map, List.map_filterMap]
  refine List.filterMap_congr fun entry hmem => ?_
  have hlt := Nat.lt_trans (length_record_lt hmem) hshort
  exact (Entry.isRecord_record hlt (hunknown entry hmem)).2

end entries

/-- **What is put into a draft is what is read out of the packet.** Of fewer than `UInt16.size`
entries, messages and fields under unknown types, the draft makes a packet. If 16 bits hold its
length, it is read as the messages in their order, each with the size and type of its kind in its
header, and the raw entries are counted; if not, it is refused for its size. -/
theorem decode_finish (decoder : Decoder) (received : UInt64) (channel : UInt32)
    (sequence sendTime : UInt64) (entries : List Entry) (hcount : entries.length < UInt16.size)
    (hunknown : ∀ entry ∈ entries, entry.Unknown) :
    let draft := ofEntries channel sequence sendTime entries
    draft.checked = .ok draft ∧
    (draft.finish.length < UInt16.size →
      ∃ summary, (decoder.decode draft.finish received).2 =
          ⟨(entries.filterMap Entry.message?).map Message.onWire, .ok summary⟩ ∧
        summary.header.channel = channel ∧ summary.header.sequence = sequence ∧
        summary.header.sendTime = sendTime ∧ summary.header.messageCount.toNat = entries.length ∧
        summary.header.size.toNat = draft.finish.length ∧
        summary.dispatched = (entries.filterMap Entry.message?).length ∧
        summary.unknown = (entries.filter Entry.isRaw).length) ∧
    (UInt16.size ≤ draft.finish.length → (decoder.decode draft.finish received).2 =
      ⟨[], .error (.sizeMismatch (draft.finish.length % UInt16.size) draft.finish.length)⟩) := by
  intro draft
  have hcounted : draft.messageCount < UInt16.size := messageCount_ofEntries ▸ hcount
  rw [Decoder.decode_snd]
  refine ⟨if_pos hcounted, fun hshort => ?_, draft.decode_finish_of_le⟩
  have hpacket := isPacket_finish hcount hunknown hshort
  obtain ⟨unknown, hdecode, htotal⟩ := Packet.decode_of_isPacket hpacket
  rw [filterMap_layout?_record hunknown hshort, List.length_map] at hdecode htotal
  have hentries := Entry.length_filterMap_add_length_filter entries
  have hmessages : (draft.finish.word16At 2).toNat = entries.length :=
    (messageCount_finish hcounted).trans messageCount_ofEntries
  have hheader : PacketHeader.layout draft.finish = draft.header := draft.layout_finish
  have hdraft : draft = _ := ofEntries_eq
  refine ⟨⟨.layout draft.finish, (entries.filterMap Entry.message?).length, unknown⟩, hdecode,
    ?_, ?_, ?_, hmessages, hpacket.sized, rfl, ?_⟩
  · rw [hheader, header, hdraft]
  · rw [hheader, header, hdraft]
  · rw [hheader, header, hdraft]
  · have htotal : _ = entries.length := htotal.trans hmessages
    simp only
    omega

/-- A message whose header gives neither its size nor its type, and three bytes under a type that
no kind has. -/
def mixedEntries : List Entry :=
  [.known ⟨⟨7, 0, 5, 1, 2⟩, .deleteOrder 40 .ask⟩, .raw 99 5 2 2 [1, 2, 3]]

/-- One entry that brings a packet to the first length that 16 bits cannot hold. -/
def overlongEntries : List Entry := [.raw 99 5 1 2 (List.replicate 65488 0)]

theorem decode_finish_mixedEntries :
    (mixedEntries.length < UInt16.size ∧ (∀ entry ∈ mixedEntries, entry.Unknown) ∧
      ∃ summary, ((Decoder.start true).decode (ofEntries 3 17 99 mixedEntries).finish 9).2 =
          ⟨[⟨⟨40, 32, 5, 1, 2⟩, .deleteOrder 40 .ask⟩], .ok summary⟩ ∧
        summary.header.sequence = 17 ∧ summary.unknown = 1) ∧
    (overlongEntries.length < UInt16.size ∧ (∀ entry ∈ overlongEntries, entry.Unknown) ∧
      ((Decoder.start true).decode (ofEntries 3 17 99 overlongEntries).finish 9).2 =
        ⟨[], .error (.sizeMismatch 0 65536)⟩) := by
  have hmixed : ∀ entry ∈ mixedEntries, entry.Unknown := by
    simp only [mixedEntries, List.forall_mem_cons, List.not_mem_nil, false_implies, implies_true,
      and_true]
    exact ⟨trivial, rfl⟩
  have hoverlong : ∀ entry ∈ overlongEntries, entry.Unknown := by
    simp only [overlongEntries, List.forall_mem_cons, List.not_mem_nil, false_implies, implies_true,
      and_true]
    rfl
  have hlength : (ofEntries 3 17 99 overlongEntries).finish.length = 65536 := by
    rw [length_finish, length, body_ofEntries, overlongEntries, List.map_singleton,
      List.flatten_singleton, Entry.length_record_raw, List.length_replicate]
    rfl
  have hread := (decode_finish (.start true) 9 3 17 99 mixedEntries (by decide) hmixed).2.1 (by decide)
  obtain ⟨summary, hdecode, -, hsequence, -, -, -, -, hcount⟩ := hread
  have hrefused :=
    (decode_finish (.start true) 9 3 17 99 overlongEntries (by decide) hoverlong).2.2
  rw [hlength] at hrefused
  exact ⟨⟨by decide, hmixed, summary, hdecode, hsequence, hcount⟩, by decide, hoverlong,
    hrefused (Nat.le_refl _)⟩

end PacketDraft

end MarketFeed
