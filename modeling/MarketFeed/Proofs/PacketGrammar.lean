import MarketFeed.WireDecoder
import MarketFeed.Proofs.WireLayout

/-! The grammar of packets. A packet is a header that states its length and, behind it, as many records
as the header says, each of which states its own length; what is left behind the last one does not
matter. A packet of the grammar is read as the messages in its records, and other bytes are refused
before anything of them is read. -/

namespace MarketFeed

/-- Whether bytes are one record, from the first to the last: there is a header, it states their
number, and a record of a known kind has room for its fields and names a side if it has to. -/
structure IsRecord (record : Bytes) : Prop where
  headed : headerSize ≤ record.length
  sized : (record.word16At 0).toNat = record.length
  fits : ∀ kind, MessageKind.ofCode? (record.word16At 2) = some kind →
    kind.wireSize ≤ record.length
  sided : ∀ kind byte, MessageKind.ofCode? (record.word16At 2) = some kind →
    kind.sideByte? record = some byte → IsSideByte byte

/-- Whether so many records can be cut off the front of the bytes, one after the other. -/
inductive Records : Nat → Bytes → List Bytes → Prop
  | done (rest : Bytes) : Records 0 rest []
  | next {count : Nat} {record rest : Bytes} {records : List Bytes} (hrecord : IsRecord record)
      (hrest : Records count rest records) : Records (count + 1) (record ++ rest) (record :: records)

theorem records_flatten {records : List Bytes} (hrecords : ∀ record ∈ records, IsRecord record) :
    Records records.length records.flatten records := by
  induction records with
  | nil => exact .done _
  | cons record records ih =>
      have hhead := hrecords record List.mem_cons_self
      have htail := ih fun other hmem => hrecords other (List.mem_cons_of_mem _ hmem)
      exact .next hhead htail

/-- Whether bytes are a packet that consists of these records. -/
structure IsPacket (packet : Bytes) (records : List Bytes) : Prop where
  headed : headerSize ≤ packet.length
  sized : (packet.word16At 0).toNat = packet.length
  framed : Records (packet.word16At 2).toNat (packet.drop headerSize) records

theorem MessageHeader.layout_append {record : Bytes} (hfits : headerSize ≤ record.length)
    (rest : Bytes) : layout (record ++ rest) = layout record := by
  rw [headerSize] at hfits
  simp (disch := omega) only [layout, Bytes.word16At, Bytes.word32At, Bytes.word64At,
    Bytes.numberAt_append]

theorem MessageKind.sideByte?_eq (kind : MessageKind) (record : Bytes) :
    kind.sideByte? record = kind.sideOffset?.map record.byteAt := by
  cases kind <;> rfl

theorem MessageKind.sideOffset?_lt_wireSize {kind : MessageKind} {offset : Nat}
    (hoffset : kind.sideOffset? = some offset) : offset < kind.wireSize := by
  cases kind <;> cases hoffset <;> decide

theorem IsRecord.unique {record other rest others : Bytes} (h : IsRecord record)
    (h' : IsRecord other) (heq : record ++ rest = other ++ others) :
    record = other ∧ rest = others := by
  have hheader : MessageHeader.layout record = MessageHeader.layout other := by
    rw [← MessageHeader.layout_append h.headed rest, heq, MessageHeader.layout_append h'.headed]
  have hlength : record.length = other.length := by
    rw [← h.sized, ← h'.sized]
    exact congrArg (·.size.toNat) hheader
  exact List.append_inj heq hlength

namespace Packet

/-- Of bytes as long as they state, the first walk passes those that are a record. -/
theorem checkRecord_of_sized {record : Bytes} (hheaded : headerSize ≤ record.length)
    (hsized : (record.word16At 0).toNat = record.length) (index : Nat) (rest : Bytes) :
    (IsRecord record ∧ checkRecord index (record ++ rest) = .ok (.layout record)) ∨
      ¬IsRecord record ∧ ∃ e, checkRecord index (record ++ rest) = .error e ∧ e ≠ .fieldOverrun := by
  have hlength : (record ++ rest).length = record.length + rest.length := List.length_append
  have hextent : Message.checkExtent index (record.word16At 0).toNat (record ++ rest).length =
      .ok () := by
    rw [Message.checkExtent, if_neg (by omega)]
  rw [checkRecord, MessageHeader.read_eq_layout (by omega), MessageHeader.layout_append hheaded]
  simp only [bind, Except.bind, MessageHeader.layout, hextent]
  cases hkind : MessageKind.ofCode? (record.word16At 2) with
  | none =>
      refine Or.inl ⟨⟨hheaded, hsized, fun kind hknown => ?_, fun kind _ hknown => ?_⟩, rfl⟩ <;>
      · rw [hkind] at hknown
        cases hknown
  | some kind =>
      simp only
      by_cases hfits : kind.wireSize ≤ record.length
      · rw [Message.checkFit, if_neg (by omega)]
        have hrecord (hside : ∀ byte, kind.sideByte? record = some byte → IsSideByte byte) :
            IsRecord record := by
          refine ⟨hheaded, hsized, fun other hknown => ?_, fun other byte hknown => ?_⟩ <;>
          · cases hkind.symm.trans hknown
            first | exact hfits | exact hside byte
        have hbyte := kind.sideByte?_eq record
        cases hoffset : kind.sideOffset? with
        | none =>
            rw [hoffset, Option.map_none] at hbyte
            refine Or.inl ⟨hrecord fun byte hsome => ?_, rfl⟩
            rw [hbyte] at hsome
            cases hsome
        | some offset =>
            rw [hoffset, Option.map_some] at hbyte
            have hlt : offset < record.length :=
              Nat.lt_of_lt_of_le (MessageKind.sideOffset?_lt_wireSize hoffset) hfits
            simp only
            rw [MessageBody.readSide_drop (by omega), Bytes.byteAt_append hlt]
            by_cases hside : IsSideByte (record.byteAt offset)
            · rw [Side.ofByte?_eq hside]
              refine Or.inl ⟨hrecord fun byte hsome => ?_, rfl⟩
              cases hbyte.symm.trans hsome
              exact hside
            · rw [Side.ofByte?_eq_none hside]
              exact Or.inr ⟨fun h => hside (h.sided kind _ hkind hbyte), _, rfl, by simp⟩
      · refine Or.inr ⟨fun h => hfits (h.fits kind hkind), ?_⟩
        rw [Message.checkFit, if_pos (by omega)]
        exact ⟨_, rfl, by simp⟩

/-- The first walk passes the bytes exactly when there is a record in front of them, and never looks
behind their end. -/
theorem checkRecord_cases (index : Nat) (bytes : Bytes) :
    (∃ record rest, bytes = record ++ rest ∧ IsRecord record ∧
      checkRecord index bytes = .ok (.layout record)) ∨
    (∀ record rest, bytes = record ++ rest → ¬IsRecord record) ∧
      ∃ e, checkRecord index bytes = .error e ∧ e ≠ .fieldOverrun := by
  rcases Nat.lt_or_ge bytes.length headerSize with hshort | hheaded
  · refine Or.inr ⟨?_, .bufferTooSmall headerSize bytes.length, ?_, by simp⟩
    · rintro record rest rfl h
      rw [List.length_append] at hshort
      have := h.headed
      omega
    · rw [checkRecord, MessageHeader.read_of_short hshort]
      rfl
  let size := (bytes.word16At 0).toNat
  have hsize {record rest : Bytes} (heq : bytes = record ++ rest) (h : headerSize ≤ record.length) :
      size = (record.word16At 0).toNat := by
    have := congrArg (·.size.toNat) (MessageHeader.layout_append h rest)
    rwa [← heq] at this
  by_cases hextent : size < headerSize ∨ bytes.length < size
  · refine Or.inr ⟨?_, .truncatedMessage index size bytes.length, ?_, by simp⟩
    · intro record rest heq h
      have hheaded := h.headed
      rw [hsize heq hheaded, h.sized, heq, List.length_append] at hextent
      omega
    · have hrefused : Message.checkExtent index (MessageHeader.layout bytes).size.toNat bytes.length =
          .error (.truncatedMessage index size bytes.length) := if_pos hextent
      rw [checkRecord, MessageHeader.read_eq_layout hheaded]
      simp only [bind, Except.bind, hrefused]
  · rw [not_or, Nat.not_lt, Nat.not_lt] at hextent
    have heq : bytes = bytes.take size ++ bytes.drop size := (List.take_append_drop size bytes).symm
    have hlength : (bytes.take size).length = size := by
      rw [List.length_take]
      omega
    have hsized := (hsize heq (by omega)).symm.trans hlength.symm
    have hcases := checkRecord_of_sized (by omega) hsized index (bytes.drop size)
    rw [← heq] at hcases
    refine hcases.imp (fun h => ⟨_, _, heq, h⟩) (And.imp_left fun hnot record rest heq' h => ?_)
    have hlength' := h.sized
    rw [← hsize heq' h.headed, ← hlength] at hlength'
    rw [(List.append_inj (heq.symm.trans heq') hlength').1] at hnot
    exact hnot h

/-- The same of all records. -/
theorem checkFraming_cases (count index : Nat) (bytes : Bytes) :
    (∃ records, Records count bytes records ∧ checkFraming count index bytes = .ok ()) ∨
    (∀ records, ¬Records count bytes records) ∧
      ∃ e, checkFraming count index bytes = .error e ∧ e ≠ .fieldOverrun := by
  induction count generalizing index bytes with
  | zero => exact Or.inl ⟨[], .done bytes, rfl⟩
  | succ count ih =>
      rw [checkFraming]
      rcases checkRecord_cases index bytes with ⟨record, rest, rfl, hrecord, hcheck⟩ | ⟨hnone, e, hcheck, he⟩
      · have hdrop : (record ++ rest).drop (MessageHeader.layout record).size.toNat = rest := by
          show (record ++ rest).drop (record.word16At 0).toNat = rest
          rw [hrecord.sized, List.drop_left]
        rw [hcheck]
        simp only [bind, Except.bind, hdrop]
        refine (ih (index + 1) rest).imp ?_ (And.imp_left fun hnone records hrecords => ?_)
        · rintro ⟨records, hrecords, hok⟩
          exact ⟨_, .next hrecord hrecords, hok⟩
        · -- Whatever is cut off the front of these bytes is the record found there.
          generalize hbytes : record ++ rest = bytes at hrecords
          cases hrecords with
          | next hother hrecords =>
              rw [(hrecord.unique hother hbytes).2] at hnone
              exact hnone _ hrecords
      · rw [hcheck]
        refine Or.inr ⟨fun records hrecords => ?_, e, rfl, he⟩
        cases hrecords with
        | next hrecord _ => exact hnone _ _ rfl hrecord

theorem ofRecord_of_isRecord {record : Bytes} (h : IsRecord record) :
    Message.ofRecord (.layout record) record = .ok (Message.layout? record) := by
  rw [Message.ofRecord, Message.layout?, MessageHeader.layout]
  cases hkind : MessageKind.ofCode? (record.word16At 2) with
  | none => rfl
  | some kind =>
      simp only
      rw [MessageBody.readFields_eq_layout (h.fits kind hkind) fun byte => h.sided kind byte hkind]
      rfl

/-- The second walk finds in every record what is laid out there. -/
theorem readRecords_of_records {count : Nat} {bytes : Bytes} {records : List Bytes}
    (h : Records count bytes records) :
    ∃ unknown, readRecords count bytes = ⟨records.filterMap Message.layout?, unknown, none⟩ ∧
      (records.filterMap Message.layout?).length + unknown = count := by
  induction h with
  | done rest => exact ⟨0, rfl, rfl⟩
  | @next count record rest records hrecord _ ih =>
      obtain ⟨unknown, hread, hcount⟩ := ih
      have hheader : MessageHeader.read (record ++ rest) = .ok (.layout record) := by
        have := hrecord.headed
        rw [MessageHeader.read_eq_layout (by rw [List.length_append]; omega),
          MessageHeader.layout_append hrecord.headed]
      have hsplit : (record ++ rest).split? (MessageHeader.layout record).size.toNat =
          some (record, rest) := Bytes.split?_append hrecord.sized.symm
      rw [readRecords, hheader]
      simp only [hsplit, ofRecord_of_isRecord hrecord]
      cases hmessage : Message.layout? record with
      | none =>
          rw [List.filterMap_cons_none hmessage]
          exact ⟨unknown + 1, by rw [hread], by omega⟩
      | some message =>
          rw [List.filterMap_cons_some hmessage, List.length_cons]
          exact ⟨unknown, by rw [hread], by omega⟩

theorem decode_of_isPacket {packet : Bytes} {records : List Bytes} (h : IsPacket packet records) :
    ∃ unknown, decode packet = ⟨records.filterMap Message.layout?,
        .ok ⟨.layout packet, (records.filterMap Message.layout?).length, unknown⟩⟩ ∧
      (records.filterMap Message.layout?).length + unknown = (packet.word16At 2).toNat := by
  obtain ⟨unknown, hread, hcount⟩ := readRecords_of_records h.framed
  have hframed : checkFraming (packet.word16At 2).toNat 0 (packet.drop headerSize) = .ok () := by
    rcases checkFraming_cases (packet.word16At 2).toNat 0 (packet.drop headerSize) with
      ⟨_, _, hok⟩ | ⟨hnone, _⟩
    · exact hok
    · exact absurd h.framed (hnone records)
  refine ⟨unknown, ?_, hcount⟩
  rw [decode, PacketHeader.read_eq_layout h.headed]
  simp only [bind, Except.bind, PacketHeader.layout, if_pos h.sized, hframed, hread, pure, Except.pure]

theorem decode_of_size_ne {packet : Bytes} (hheaded : headerSize ≤ packet.length)
    (hne : (packet.word16At 0).toNat ≠ packet.length) :
    decode packet = ⟨[], .error (.sizeMismatch (packet.word16At 0).toNat packet.length)⟩ := by
  have hne : ¬(PacketHeader.layout packet).size.toNat = packet.length := hne
  rw [decode, PacketHeader.read_eq_layout hheaded]
  simp only [bind, Except.bind, if_neg hne]
  rfl

theorem decode_of_forall_not {packet : Bytes} (hnone : ∀ records, ¬IsPacket packet records) :
    ∃ e, decode packet = ⟨[], .error e⟩ ∧ e ≠ .fieldOverrun := by
  rcases Nat.lt_or_ge packet.length headerSize with hshort | hheaded
  · rw [decode, PacketHeader.read_of_short hshort]
    exact ⟨_, rfl, by simp⟩
  by_cases hsized : (packet.word16At 0).toNat = packet.length
  · rcases checkFraming_cases (packet.word16At 2).toNat 0 (packet.drop headerSize) with
      ⟨records, hframed, -⟩ | ⟨-, e, herror, he⟩
    · exact absurd ⟨hheaded, hsized, hframed⟩ (hnone records)
    · refine ⟨e, ?_, he⟩
      rw [decode, PacketHeader.read_eq_layout hheaded]
      simp only [bind, Except.bind, PacketHeader.layout, if_pos hsized, herror]
  · exact ⟨_, decode_of_size_ne hheaded hsized, by simp⟩

end Packet

theorem Decoder.decode_snd (decoder : Decoder) (packet : Bytes) (received : UInt64) :
    (decoder.decode packet received).2 = Packet.decode packet := rfl

/-- **A decoder accepts exactly the packets of the grammar, as a whole or not at all.** Of a packet
it hands over the messages of known type in their order, each as it is laid out in its record, and
counts the records of other types. Of other bytes it hands over nothing and stays as it was. No
walk looks behind the end of the bytes, and records that pass the first walk pass the second. -/
theorem Decoder.decode_accepts_grammar (decoder : Decoder) (packet : Bytes) (received : UInt64) :
    ((∃ summary, (decoder.decode packet received).2.result = .ok summary) ↔
      ∃ records, IsPacket packet records) ∧
    (∀ summary, (decoder.decode packet received).2.result = .ok summary →
      ∃ records, IsPacket packet records ∧
        (decoder.decode packet received).2.messages = records.filterMap Message.layout? ∧
        summary.header = .layout packet ∧
        summary.dispatched = (decoder.decode packet received).2.messages.length ∧
        summary.dispatched + summary.unknown = summary.header.messageCount.toNat) ∧
    (∀ e, (decoder.decode packet received).2.result = .error e →
      (decoder.decode packet received).2.messages = [] ∧
        (decoder.decode packet received).1 = decoder ∧ e ≠ .fieldOverrun) ∧
    ∀ count body, Packet.checkFraming count 0 body = .ok () →
      (Packet.readRecords count body).error? = none := by
  have hsecond (count : Nat) (body : Bytes) (hok : Packet.checkFraming count 0 body = .ok ()) :
      (Packet.readRecords count body).error? = none := by
    rcases Packet.checkFraming_cases count 0 body with ⟨records, hrecords, -⟩ | ⟨-, e, herror, -⟩
    · obtain ⟨unknown, hread, -⟩ := Packet.readRecords_of_records hrecords
      rw [hread]
    · rw [hok] at herror
      cases herror
  rw [Decoder.decode]
  by_cases hpacket : ∃ records, IsPacket packet records
  · obtain ⟨records, hrecords⟩ := hpacket
    obtain ⟨unknown, hdecode, hcount⟩ := Packet.decode_of_isPacket hrecords
    rw [hdecode]
    refine ⟨⟨fun _ => ⟨records, hrecords⟩, fun _ => ⟨_, rfl⟩⟩, fun summary hsummary => ?_,
      nofun, hsecond⟩
    cases hsummary
    exact ⟨records, hrecords, rfl, rfl, rfl, hcount⟩
  · obtain ⟨e, hdecode, he⟩ := Packet.decode_of_forall_not (not_exists.1 hpacket)
    rw [hdecode]
    refine ⟨⟨nofun, fun h => absurd h hpacket⟩, nofun, fun e' herror => ?_, hsecond⟩
    cases herror
    exact ⟨rfl, rfl, he⟩

end MarketFeed
