import MarketFeed.Proofs.MessageAccounts
import MarketFeed.Proofs.PacketRoundTrip

/-! Packet boundaries. A packet does to a processor what its records do one after the other, and what
it counts at its end is added up from them; only the latency depends on the packet. Hence it does not
matter where a list of records is cut into packets. -/

namespace MarketFeed

/-- How many records are of no known type. -/
def unknownCount (records : List Bytes) : Nat :=
  records.countP fun record => (Message.layout? record).isNone

theorem length_filterMap_add_unknownCount (records : List Bytes) :
    (records.filterMap Message.layout?).length + unknownCount records = records.length := by
  rw [List.length_filterMap_eq_countP, unknownCount,
    List.length_eq_countP_add_countP fun record => (Message.layout? record).isSome]
  refine congrArg _ (List.countP_congr fun record _ => ?_)
  cases Message.layout? record <;> simp

theorem Records.length_eq {count : Nat} {bytes : Bytes} {records : List Bytes}
    (h : Records count bytes records) : records.length = count := by
  induction h with
  | done rest => rfl
  | next hrecord hrest ih => rw [List.length_cons, ih]

theorem Packet.decode_records {packet : Bytes} {records : List Bytes} (h : IsPacket packet records) :
    ∃ summary, decode packet = ⟨records.filterMap Message.layout?, .ok summary⟩ ∧
      summary.unknown = unknownCount records := by
  obtain ⟨unknown, hdecode, hcount⟩ := decode_of_isPacket h
  have hunknown := length_filterMap_add_unknownCount records
  rw [h.framed.length_eq] at hunknown
  exact ⟨_, hdecode, by simp only; omega⟩

namespace PacketDraft

theorem Entry.headerSize_le_length_record (entry : Entry) : headerSize ≤ entry.record.length := by
  cases entry with
  | known message =>
      rw [record, Message.length_encode]
      exact Nat.le_trans (Nat.le_add_right _ _) message.body.length_encodeFields_le
  | raw type instrument sequence sendTime fields =>
      rw [length_record_raw]
      exact Nat.le_add_right _ _

theorem length_le_length_flatten (entries : List Entry) :
    entries.length ≤ (entries.map Entry.record).flatten.length := by
  induction entries with
  | nil => exact Nat.le_refl 0
  | cons entry entries ih =>
      have hentry := entry.headerSize_le_length_record
      rw [headerSize] at hentry
      rw [List.map_cons, List.flatten_cons, List.length_append, List.length_cons]
      omega

/-- Entries that are put into a packet, what the packet says besides, and when it is received. -/
structure Parcel where
  channel : UInt32
  sequence : UInt64
  sendTime : UInt64
  received : UInt64
  entries : List Entry

namespace Parcel

/-- The bytes of the packet. -/
def bytes (parcel : Parcel) : Bytes :=
  (ofEntries parcel.channel parcel.sequence parcel.sendTime parcel.entries).finish

def records (parcel : Parcel) : List Bytes := parcel.entries.map Entry.record

/-- A packet whose length 16 bits can hold has no more entries than they can count. -/
theorem length_entries_lt {parcel : Parcel} (hshort : parcel.bytes.length < UInt16.size) :
    parcel.entries.length < UInt16.size := by
  have hle := length_le_length_flatten parcel.entries
  rw [bytes, length_finish, length, body_ofEntries] at hshort
  omega

theorem isPacket_bytes {parcel : Parcel} (hunknown : ∀ entry ∈ parcel.entries, entry.Unknown)
    (hshort : parcel.bytes.length < UInt16.size) : IsPacket parcel.bytes parcel.records :=
  isPacket_finish (length_entries_lt hshort) hunknown hshort

end Parcel

end PacketDraft

namespace Processor

/-- The processor without the latency that has been measured. -/
def untimed (p : Processor) : Processor :=
  { p with decoder.latency := .zero, counters.latency := .zero }

theorem consume_untimed (p : Processor) (messages : List Message) :
    p.untimed.consume messages = (p.consume messages).map (·.map untimed id) := by
  have hcount : IgnoresGaps ({ · with latency := .zero }) := fun _ => rfl
  show (p.adjust ({ · with latency := .zero }) ({ · with latency := .zero })).consume messages = _
  exact consume_adjust hcount p messages

theorem time_tracking (decoder : Decoder) (received : UInt64) (messages : List Message) :
    (messages.foldl (fun decoder message => decoder.time received message) decoder).tracking =
      decoder.tracking := by
  induction messages generalizing decoder with
  | nil => rfl
  | cons message messages ih =>
      rw [List.foldl_cons, ih, Decoder.time]
      split <;> rfl

theorem untimed_read (p : Processor) (packet : Bytes) (received : UInt64) :
    (p.read packet received).untimed = p.untimed := by
  have htracking := time_tracking p.decoder received (Packet.decode packet).messages
  exact congrArg (fun tracking => { p.untimed with decoder := ⟨tracking, .zero⟩ }) htracking

/-- Takes in records one after the other, and counts them. -/
def takeIn (p : Processor) (records : List Bytes) : Except CountError (List Message × Processor) :=
  (p.consume (records.filterMap Message.layout?)).map fun (q, handled) =>
    (delivered handled,
      { q with counters := countMessages q.counters (unknownCount records) handled })

theorem takeIn_nil (p : Processor) : p.takeIn [] = .ok ([], p) := by
  have hnone : countMessages p.counters (unknownCount []) [] = p.counters := countMessages_nil p.counters
  show Except.ok (_, { p with counters := countMessages p.counters (unknownCount []) [] }) = _
  rw [hnone]
  rfl

theorem takeIn_append (p : Processor) (first second : List Bytes) :
    p.takeIn (first ++ second) = (p.takeIn first).bind fun (told, between) =>
      (between.takeIn second).map fun (later, q) => (told ++ later, q) := by
  have hunknown : unknownCount (first ++ second) = unknownCount first + unknownCount second :=
    List.countP_append
  rw [takeIn, takeIn, List.filterMap_append, consume_append, Except.map_bind, Except.bind_map]
  apply Except.bind_congr
  rintro ⟨between, handled⟩ -
  let count (counters : Counters) := countMessages counters (unknownCount first) handled
  have hcount : IgnoresGaps count := fun _ => rfl
  show ((between.consume _).map _).map _ = ((between.adjust id count).takeIn second).map _
  rw [takeIn, consume_adjust hcount, Except.map_map, Except.map_map, Except.map_map]
  congr 1
  funext ⟨q, later⟩
  have htold := delivered_append handled later
  have hcounted := countMessages_append q.counters (unknownCount first) (unknownCount second)
    handled later
  show (delivered (handled ++ later), { q with
    counters := countMessages q.counters (unknownCount (first ++ second)) (handled ++ later) }) = _
  rw [htold, hunknown, ← hcounted]
  rfl

theorem takeIn_received {p q : Processor} {records : List Bytes} {told : List Message}
    (htaken : p.takeIn records = .ok (told, q)) :
    q.counters.messagesReceived = p.counters.messagesReceived + UInt64.ofNat records.length := by
  obtain ⟨⟨between, handled⟩, hconsume, hq⟩ := exists_of_map_ok htaken
  cases hq
  have hlength := length_filterMap_add_unknownCount records
  rw [← length_of_consume hconsume] at hlength
  show between.counters.messagesReceived + UInt64.ofNat (handled.length + unknownCount records) = _
  rw [hlength, (consume_onlyGaps hconsume).counters]

/-- What a run led to but for the answers to the single calls and the latency. -/
def outcome (answer : List Reply × Processor) : List Message × Processor :=
  (answer.1.flatMap Reply.told, answer.2.untimed)

/-- The reply without the packet header that it repeats. -/
def Reply.headless : Reply → Reply
  | .processed (.ok summary) told => .processed (.ok { summary with header := ⟨0, 0, 0, 0, 0⟩ }) told
  | reply => reply

theorem Reply.told_headless (reply : Reply) : reply.headless.told = reply.told := by
  cases reply with
  | processed result told => cases result <;> rfl
  | polled request => rfl
  | chosen => rfl

/-- Apart from its header and the latency, all that counts about an accepted packet is the messages that
it hands over and how many others are of no known type. -/
theorem respond_accepted {packet : Bytes} {summary : Packet.Summary}
    (haccepted : (Packet.decode packet).result = .ok summary) (p : Processor) (received : UInt64) :
    (p.respond (.packet packet received)).map (·.map Reply.headless untimed) =
      (p.untimed.consume (Packet.decode packet).messages).map fun (q, handled) =>
        (.processed (.ok ⟨⟨0, 0, 0, 0, 0⟩, handled.length, summary.unknown⟩) (delivered handled),
          { q with counters := countMessages q.counters summary.unknown handled }) := by
  rw [respond_packet, haccepted, ← untimed_read p packet received, consume_untimed]
  cases hconsume : (p.read packet received).consume (Packet.decode packet).messages with
  | error e => rfl
  | ok answer =>
      obtain ⟨q, handled⟩ := answer
      have hlength : summary.dispatched = handled.length :=
        (Packet.dispatched_eq_length haccepted).trans (length_of_consume hconsume).symm
      obtain ⟨latency, hconclude⟩ := conclude_accepted hlength q
      show Except.ok (Reply.processed (.ok ⟨_, summary.dispatched, summary.unknown⟩) _,
        (q.conclude (.ok summary) handled).untimed) = _
      rw [hconclude, hlength]
      rfl

/-- A packet does what its records do. -/
theorem respond_of_isPacket {packet : Bytes} {records : List Bytes} (h : IsPacket packet records)
    (p : Processor) (received : UInt64) :
    (p.respond (.packet packet received)).map (fun (reply, q) => (reply.told, q.untimed)) =
      p.untimed.takeIn records := by
  obtain ⟨summary, hdecode, hunknown⟩ := Packet.decode_records h
  have haccepted : (Packet.decode packet).result = .ok summary := by rw [hdecode]
  have hrespond := congrArg (Except.map fun (answer : Reply × Processor) => (answer.1.told, answer.2))
    (respond_accepted haccepted p received)
  rw [hdecode, hunknown] at hrespond
  refine Eq.trans ?_ (hrespond.trans ?_)
  · rw [Except.map_map]
    congr 1
    funext ⟨reply, q⟩
    exact congrArg (·, q.untimed) reply.told_headless.symm
  · exact Except.map_map _ _ _

section cut

open PacketDraft

/-- The processor is given the packet. -/
def Call.ofParcel (parcel : Parcel) : Call := .packet parcel.bytes parcel.received

theorem serve_parcels {cut : List Parcel} (hpackets : ∀ parcel ∈ cut, IsPacket parcel.bytes parcel.records)
    (p : Processor) :
    (p.serve (cut.map Call.ofParcel)).map outcome = p.untimed.takeIn (cut.flatMap Parcel.records) := by
  induction cut generalizing p with
  | nil => exact p.untimed.takeIn_nil.symm
  | cons parcel cut ih =>
      have hparcel := hpackets parcel List.mem_cons_self
      have hcut := ih fun other hmem => hpackets other (List.mem_cons_of_mem _ hmem)
      rw [List.flatMap_cons, takeIn_append, ← respond_of_isPacket hparcel p parcel.received,
        List.map_cons, serve_cons, Except.map_bind, Except.bind_map]
      apply Except.bind_congr
      rintro ⟨reply, between⟩ -
      show ((between.serve (cut.map Call.ofParcel)).map _).map outcome =
        (between.untimed.takeIn (cut.flatMap Parcel.records)).map _
      rw [← hcut, Except.map_map, Except.map_map]
      rfl

theorem serve_cut {p : Processor} {entries : List Entry} {cut : List Parcel}
    (hunknown : ∀ entry ∈ entries, entry.Unknown) (hcut : cut.flatMap Parcel.entries = entries)
    (hshort : ∀ parcel ∈ cut, parcel.bytes.length < UInt16.size) :
    (p.serve (cut.map Call.ofParcel)).map outcome =
      p.untimed.takeIn (entries.map Entry.record) := by
  have hpackets : ∀ parcel ∈ cut, IsPacket parcel.bytes parcel.records := by
    intro parcel hmem
    refine Parcel.isPacket_bytes (fun entry hentry => hunknown entry ?_) (hshort parcel hmem)
    rw [← hcut]
    exact List.mem_flatMap.2 ⟨parcel, hmem, hentry⟩
  rw [serve_parcels hpackets, ← hcut, List.map_flatMap]
  rfl

/-- **Packet boundaries do not matter.** A list of entries, messages and fields under unknown types, is
cut in two ways into packets whose length 16 bits can hold. Whichever way a processor is given them,
every entry is received, the listener is told of the same messages, and the processor ends the same but
for the latency; or a number that cannot be counted stops it both times. -/
theorem packet_boundaries_do_not_matter (p : Processor) (entries : List Entry) (cut cut' : List Parcel)
    (hunknown : ∀ entry ∈ entries, entry.Unknown)
    (hcut : cut.flatMap Parcel.entries = entries) (hcut' : cut'.flatMap Parcel.entries = entries)
    (hshort : ∀ parcel ∈ cut, parcel.bytes.length < UInt16.size)
    (hshort' : ∀ parcel ∈ cut', parcel.bytes.length < UInt16.size) :
    (p.serve (cut.map Call.ofParcel)).map outcome = (p.serve (cut'.map Call.ofParcel)).map outcome ∧
    ∀ replies q, p.serve (cut.map Call.ofParcel) = .ok (replies, q) →
      q.counters.messagesReceived = p.counters.messagesReceived + UInt64.ofNat entries.length := by
  refine ⟨(serve_cut hunknown hcut hshort).trans (serve_cut hunknown hcut' hshort').symm, ?_⟩
  intro replies q hserve
  have htaken := serve_cut (p := p) hunknown hcut hshort
  rw [hserve] at htaken
  have hreceived := takeIn_received htaken.symm
  rw [List.length_map] at hreceived
  exact hreceived

/-- An order, nothing under an unknown type, a fresh start from 5, and a trade of the order behind a gap. -/
def restartedEntries : List Entry :=
  [.known ⟨⟨0, 0, 7, 1, 0⟩, .addOrder ⟨40, 10000, 50, .bid⟩⟩, .raw 99 7 2 0 [],
    .known ⟨⟨0, 0, 0, 3, 0⟩, .sequenceReset 5⟩,
    .known ⟨⟨0, 0, 7, 7, 0⟩, .trade ⟨40, 1, 10000, 30, .bid⟩⟩]

theorem packet_boundaries_do_not_matter_restartedEntries :
    let p := ofConfig .standard (.blank 10) .all .zero
    let cut : List Parcel :=
      [⟨1, 1, 0, 9, restartedEntries.take 2⟩, ⟨1, 3, 0, 9, restartedEntries.drop 2⟩]
    let cut' : List Parcel := [⟨2, 0, 3, 0, restartedEntries.take 1⟩, ⟨0, 0, 0, 0, []⟩,
      ⟨3, 8, 1, 5, (restartedEntries.drop 1).take 2⟩, ⟨3, 9, 1, 4, restartedEntries.drop 3⟩]
    ∃ told q, (p.serve (cut.map Call.ofParcel)).map outcome = .ok (told, q) ∧
      (p.serve (cut'.map Call.ofParcel)).map outcome = .ok (told, q) ∧
      told.length = 3 ∧ q.tracker.missing = [5, 6] ∧
      (q.books.book? 7).map (fun book => (book.bids, book.totalVolume)) =
        some ([⟨10000, 20, 1⟩], 30) ∧
      q.counters.messagesReceived = 4 := by
  intro p cut cut'
  have hanswers : ((p.serve (cut.map Call.ofParcel)).map outcome).map (fun (told, q) =>
      (told.length, q.tracker.missing,
        (q.books.book? 7).map fun book => (book.bids, book.totalVolume))) =
      .ok (3, [5, 6], some ([⟨10000, 20, 1⟩], 30)) := by decide +kernel
  have hunknown : ∀ entry ∈ restartedEntries, entry.Unknown := by
    simp only [restartedEntries, List.forall_mem_cons, List.not_mem_nil, false_implies, implies_true,
      and_true]
    exact ⟨trivial, rfl, trivial, trivial⟩
  obtain ⟨hsame, hreceived⟩ := packet_boundaries_do_not_matter p restartedEntries cut cut' hunknown
    rfl rfl (by decide +kernel) (by decide +kernel)
  obtain ⟨⟨told, q⟩, houtcome, hanswers⟩ := exists_of_map_ok hanswers
  obtain ⟨⟨replies, final⟩, hserve, hfinal⟩ := exists_of_map_ok houtcome
  simp only [Prod.mk.injEq] at hanswers
  obtain ⟨htold, hmissing, hbook⟩ := hanswers
  refine ⟨told, q, houtcome, hsame ▸ houtcome, htold, hmissing, hbook, ?_⟩
  cases hfinal
  exact hreceived replies final hserve

end cut

end Processor

end MarketFeed
