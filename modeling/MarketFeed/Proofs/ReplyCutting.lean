import MarketFeed.Proofs.StreamCutting
import MarketFeed.Proofs.WireLayout
import MarketFeed.Retransmission

/-! Cutting a reply into packets. The reader of replies takes whole packets off the front until it comes
to a place where something stops it, and what stopped it decides what it answers. Up to its first
empty packet a reply is cut as any other stream is. -/

namespace MarketFeed

namespace Packet

theorem declaredCount_append {front : Bytes} (hfront : 4 ≤ front.length) (rest : Bytes) :
    declaredCount (front ++ rest) = declaredCount front :=
  Bytes.numberAt_append hfront rest

theorem declaredSize_take {size : Nat} (hsize : 2 ≤ size) (bytes : Bytes) :
    declaredSize (bytes.take size) = declaredSize bytes := by
  rw [declaredSize, declaredSize, List.take_take, Nat.min_eq_left hsize]

theorem declaredCount_take {size : Nat} (hsize : 4 ≤ size) (bytes : Bytes) :
    declaredCount (bytes.take size) = declaredCount bytes := by
  rw [declaredCount, declaredCount, List.drop_take, List.take_take, Nat.min_eq_left (by omega)]

end Packet

namespace Retransmission

/-- Whether bytes are a packet that a reply may go on behind: they state their own number, which is
one that a packet can have, and that there are messages in them. -/
structure IsFilled (packet : Bytes) : Prop where
  sized : Packet.declaredSize packet = packet.length
  possible : Packet.PlausibleSize packet.length
  counted : Packet.declaredCount packet ≠ 0

instance (packet : Bytes) : Decidable (IsFilled packet) :=
  decidable_of_iff (Packet.declaredSize packet = packet.length ∧
      Packet.PlausibleSize packet.length ∧ Packet.declaredCount packet ≠ 0)
    ⟨fun ⟨hsized, hpossible, hcounted⟩ => ⟨hsized, hpossible, hcounted⟩,
      fun h => ⟨h.sized, h.possible, h.counted⟩⟩

/-- What ends the reading of a reply. -/
inductive Stop where
  | cleanEnd
  | impossibleSize (size : Nat)
  | brokenOff
  deriving DecidableEq

/-- What stops a reader at the front of the bytes that are left. The size of a packet is looked at
before its count. -/
inductive StopsAt (left : Bytes) : Stop → Prop
  | spent (hspent : left.length < headerSize) : StopsAt left .cleanEnd
  | impossible (hheaded : headerSize ≤ left.length)
      (himpossible : ¬Packet.PlausibleSize (Packet.declaredSize left)) :
      StopsAt left (.impossibleSize (Packet.declaredSize left))
  | empty (hheaded : headerSize ≤ left.length)
      (hpossible : Packet.PlausibleSize (Packet.declaredSize left))
      (hempty : Packet.declaredCount left = 0) : StopsAt left .cleanEnd
  | broken (hheaded : headerSize ≤ left.length)
      (hpossible : Packet.PlausibleSize (Packet.declaredSize left))
      (hcounted : Packet.declaredCount left ≠ 0)
      (hshort : left.length < Packet.declaredSize left) : StopsAt left .brokenOff

/-- Whether these packets can be cut off the front of the bytes, one after the other, and what is then
left. -/
inductive Cuts : Bytes → List Bytes → Bytes → Prop
  | done (left : Bytes) : Cuts left [] left
  | next {packet rest left : Bytes} {packets : List Bytes} (hpacket : IsFilled packet)
      (hcuts : Cuts rest packets left) : Cuts (packet ++ rest) (packet :: packets) left

section

variable {packet rest left reply : Bytes} {packets : List Bytes} {stop : Stop}

theorem IsFilled.headed (h : IsFilled packet) : headerSize ≤ packet.length := h.possible.1

theorem IsFilled.isFramed (h : IsFilled packet) : StreamFramer.IsFramed Packet.maxSize packet :=
  ⟨h.sized, h.possible, h.possible.2⟩

theorem IsFilled.declaredSize_append (h : IsFilled packet) (rest : Bytes) :
    Packet.declaredSize (packet ++ rest) = packet.length := by
  have hheaded := h.headed
  rw [headerSize] at hheaded
  rw [Packet.declaredSize_append (by omega), h.sized]

theorem IsFilled.declaredCount_append (h : IsFilled packet) (rest : Bytes) :
    Packet.declaredCount (packet ++ rest) = Packet.declaredCount packet := by
  have hheaded := h.headed
  rw [headerSize] at hheaded
  exact Packet.declaredCount_append (by omega) rest

theorem Cuts.flatten_append (h : Cuts reply packets left) : packets.flatten ++ left = reply := by
  induction h with
  | done => rfl
  | next _ _ ih => rw [List.flatten_cons, List.append_assoc, ih]

theorem cuts_flatten (hpackets : ∀ packet ∈ packets, IsFilled packet) (left : Bytes) :
    Cuts (packets.flatten ++ left) packets left := by
  induction packets with
  | nil => exact .done left
  | cons packet packets ih =>
      obtain ⟨hpacket, hpackets⟩ := List.forall_mem_cons.1 hpackets
      rw [List.flatten_cons, List.append_assoc]
      exact .next hpacket (ih hpackets)

theorem Cuts.isFilled (h : Cuts reply packets left) : ∀ packet ∈ packets, IsFilled packet := by
  induction h with
  | done => simp
  | next hpacket _ ih => exact List.forall_mem_cons.2 ⟨hpacket, ih⟩

/-- What a reader makes of the packets that it has cut off when something stops it. -/
def Stop.conclude (packets : List Bytes) : Stop → Except RecoveryError (List Bytes)
  | .cleanEnd => .ok packets
  | .impossibleSize size => .error (.invalidPacket size)
  | .brokenOff => .error (.broken .endOfStream)

theorem readPackets_of_stopsAt (h : StopsAt left stop) : readPackets left = stop.conclude [] := by
  unfold readPackets
  cases h with
  | spent hspent => rw [if_pos hspent]; rfl
  | impossible hheaded himpossible =>
      rw [if_neg (Nat.not_lt.2 hheaded)]
      simp only [dif_neg himpossible]
      rfl
  | empty hheaded hpossible hempty =>
      rw [if_neg (Nat.not_lt.2 hheaded)]
      simp only [dif_pos hpossible, if_pos hempty]
      rfl
  | broken hheaded hpossible hcounted hshort =>
      rw [if_neg (Nat.not_lt.2 hheaded)]
      simp only [dif_pos hpossible, if_neg hcounted, if_pos hshort]
      rfl

theorem readPackets_append (hpacket : IsFilled packet) (rest : Bytes) :
    readPackets (packet ++ rest) = (readPackets rest).map (packet :: ·) := by
  have hheaded := hpacket.headed
  have hlength : (packet ++ rest).length = packet.length + rest.length := List.length_append
  have hsize := hpacket.declaredSize_append rest
  have hcounted : Packet.declaredCount (packet ++ rest) ≠ 0 :=
    hpacket.declaredCount_append rest ▸ hpacket.counted
  rw [readPackets, if_neg (by omega)]
  simp only [hsize, dif_pos hpacket.possible, if_neg hcounted]
  rw [if_neg (by omega), List.take_left, List.drop_left]
  cases readPackets rest <;> rfl

theorem readPackets_of_cuts (hcuts : Cuts reply packets left) (hstop : StopsAt left stop) :
    readPackets reply = stop.conclude packets := by
  induction hcuts with
  | done left => exact readPackets_of_stopsAt hstop
  | next hpacket _ ih =>
      rw [readPackets_append hpacket, ih hstop]
      cases stop <;> rfl

/-- Either something stops a reader or there is a packet to be cut off. -/
theorem stopsAt_or_isFilled (bytes : Bytes) : (∃ stop, StopsAt bytes stop) ∨
    ∃ packet rest, bytes = packet ++ rest ∧ IsFilled packet := by
  rcases Nat.lt_or_ge bytes.length headerSize with hspent | hheaded
  · exact Or.inl ⟨_, .spent hspent⟩
  by_cases hpossible : Packet.PlausibleSize (Packet.declaredSize bytes)
  · by_cases hcounted : Packet.declaredCount bytes = 0
    · exact Or.inl ⟨_, .empty hheaded hpossible hcounted⟩
    rcases Nat.lt_or_ge bytes.length (Packet.declaredSize bytes) with hshort | hall
    · exact Or.inl ⟨_, .broken hheaded hpossible hcounted hshort⟩
    have hlength : (bytes.take (Packet.declaredSize bytes)).length = Packet.declaredSize bytes :=
      List.length_take_of_le hall
    have hlarge := hpossible.1
    rw [headerSize] at hlarge
    refine Or.inr ⟨_, _, (List.take_append_drop (Packet.declaredSize bytes) bytes).symm, ?_, ?_, ?_⟩
    · rw [Packet.declaredSize_take (by omega), hlength]
    · rwa [hlength]
    · rwa [Packet.declaredCount_take (by omega)]
  · exact Or.inl ⟨_, .impossible hheaded hpossible⟩

/-- Every reply can be cut until something stops the reader. -/
theorem exists_cuts (reply : Bytes) :
    ∃ packets left stop, Cuts reply packets left ∧ StopsAt left stop := by
  rcases stopsAt_or_isFilled reply with ⟨stop, hstop⟩ | ⟨packet, rest, hreply, hpacket⟩
  · exact ⟨[], reply, stop, .done reply, hstop⟩
  · obtain ⟨packets, left, stop, hcuts, hstop⟩ := exists_cuts rest
    rw [hreply]
    exact ⟨packet :: packets, left, stop, .next hpacket hcuts, hstop⟩
termination_by reply.length
decreasing_by
  have hheaded := hpacket.headed
  rw [headerSize] at hheaded
  rw [hreply, List.length_append]
  omega

/-- A clean end without packets turns the request down. -/
theorem readReply_of_cuts (request : GapRequest) (hcuts : Cuts reply packets left)
    (hstop : StopsAt left stop) : readReply request reply =
      if stop = .cleanEnd ∧ packets = [] then .error (.rejected request)
      else stop.conclude packets := by
  rw [readReply, readPackets_of_cuts hcuts hstop]
  cases stop with
  | cleanEnd => cases packets <;> rfl
  | impossibleSize size => rfl
  | brokenOff => rfl

theorem Cuts.length_le (h : Cuts reply packets left) : packets.length * headerSize ≤ reply.length := by
  induction h with
  | done => exact Nat.zero_le _
  | next hpacket _ ih =>
      have hheaded := hpacket.headed
      rw [List.length_cons, List.length_append, Nat.succ_mul]
      omega

/-! ### Against the framer of streams -/

/-- Of bytes that stop a reader of replies a framer cuts nothing off, or an empty packet first. -/
theorem takeWhile_cut_of_stopsAt (h : StopsAt left stop) :
    (StreamFramer.cut Packet.maxSize left).1.takeWhile (Packet.declaredCount · ≠ 0) = [] := by
  unfold StreamFramer.cut
  cases h with
  | spent hspent => rw [if_pos hspent]; rfl
  | impossible hheaded himpossible =>
      rw [if_neg (Nat.not_lt.2 hheaded)]
      simp only [dif_neg himpossible]
      rfl
  | empty hheaded hpossible hempty =>
      rw [if_neg (Nat.not_lt.2 hheaded)]
      simp only [dif_pos hpossible]
      rcases Nat.lt_or_ge left.length (Packet.declaredSize left) with hshort | hall
      · rw [if_pos hshort]
        rfl
      · have hlarge := hpossible.1
        rw [headerSize] at hlarge
        rw [if_neg (Nat.not_lt.2 hall), if_neg (Nat.not_lt.2 hpossible.2)]
        refine List.takeWhile_cons_of_neg ?_
        rw [Packet.declaredCount_take (by omega), hempty]
        decide
  | broken hheaded hpossible hcounted hshort =>
      rw [if_neg (Nat.not_lt.2 hheaded)]
      simp only [dif_pos hpossible, if_pos hshort]
      rfl

/-- The packets in front of a reply are those that a framer cuts off it before it comes to an empty
one. -/
theorem takeWhile_cut_of_cuts (hcuts : Cuts reply packets left) (hstop : StopsAt left stop) :
    (StreamFramer.cut Packet.maxSize reply).1.takeWhile (Packet.declaredCount · ≠ 0) = packets := by
  induction hcuts with
  | done left => exact takeWhile_cut_of_stopsAt hstop
  | next hpacket _ ih =>
      simp only [StreamFramer.cut_append hpacket.isFramed, List.takeWhile_cons,
        decide_eq_true hpacket.counted, if_true, ih hstop]

end

end Retransmission

namespace RetransmissionClient

open Retransmission

/-- **A reply is read as a stream is, up to its first empty packet.** Whatever a server that has been
reached replies, packets are cut off the front of the reply until something stops the reader, and
what stops it decides the answer: at a clean end the packets, or a refusal where there are none; else
the size that cannot be, or that the reply breaks off. The packets that are returned are those that a
framer receives from the same stream, however it is read, before the first that is empty; each is as
long as it states and has messages, and together they are the front of the reply. -/
theorem ask_cuts_reply (client : RetransmissionClient) {host : Host} {address : SocketAddress}
    (request : GapRequest) (reply : Bytes) (hreached : host.connectTo client.endpoint = .ok address) :
    (∃ packets left stop, Cuts reply packets left ∧ StopsAt left stop ∧
      packets.length * headerSize ≤ reply.length) ∧
    ∀ packets left stop, Cuts reply packets left → StopsAt left stop →
      ((∃ answer, client.ask host request reply = .ok answer) ↔ stop = .cleanEnd ∧ packets ≠ []) ∧
      (client.ask host request reply = .error (.rejected request) ↔
        stop = .cleanEnd ∧ packets = []) ∧
      (∀ size, client.ask host request reply = .error (.invalidPacket size) ↔
        stop = .impossibleSize size) ∧
      ((∃ fault, client.ask host request reply = .error (.broken fault) ∧
        fault.kind = "UnexpectedEof") ↔ stop = .brokenOff) ∧
      ∀ answer, client.ask host request reply = .ok answer →
        answer = packets ∧
        (∀ reads, StreamFramer.streamOf reads = reply →
          answer = (StreamFramer.start.receiveAll Packet.maxSize reads).1.takeWhile
            (Packet.declaredCount · ≠ 0)) ∧
        (∀ packet ∈ answer, Packet.declaredSize packet = packet.length ∧
          Packet.declaredCount packet ≠ 0) ∧
        answer.flatten <+: reply := by
  have hask : client.ask host request reply = readReply request reply := by
    unfold ask
    rw [hreached]
  rw [hask]
  constructor
  · obtain ⟨packets, left, stop, hcuts, hstop⟩ := exists_cuts reply
    exact ⟨packets, left, stop, hcuts, hstop, hcuts.length_le⟩
  intro packets left stop hcuts hstop
  rw [readReply_of_cuts request hcuts hstop]
  refine ⟨?_, ?_, ?_, ?_, ?_⟩
  · cases stop <;> cases packets <;> simp [Stop.conclude]
  · cases stop <;> cases packets <;> simp [Stop.conclude]
  · intro size
    cases stop <;> cases packets <;> simp [Stop.conclude]
  · cases stop <;> cases packets <;> simp [Stop.conclude, TransportFault.kind]
  · intro answer hanswer
    have hpackets : answer = packets := by
      split at hanswer
      · cases hanswer
      · cases stop <;> cases hanswer
        rfl
    subst hpackets
    refine ⟨rfl, ?_, ?_, left, hcuts.flatten_append⟩
    · intro reads hreads
      have hwhole : StreamFramer.start.pending ++ StreamFramer.streamOf reads = reply := hreads
      rw [StreamFramer.receiveAll_cut, hwhole, takeWhile_cut_of_cuts hcuts hstop]
    · intro packet hmem
      have hfilled := hcuts.isFilled packet hmem
      exact ⟨hfilled.sized, hfilled.counted⟩

/-- Two packets with a message each. -/
def twoAnswers : List Bytes :=
  [26 :: 0 :: 1 :: 0 :: List.replicate 22 4, 24 :: 0 :: 1 :: 0 :: List.replicate 20 5]

/-- The front of an empty packet that states more bytes than there are. -/
def cutShort : Bytes := 200 :: 0 :: 0 :: 0 :: List.replicate 30 6

theorem ask_cuts_reply_twoAnswers :
    let client : RetransmissionClient := ⟨"127.0.0.1:9", 1, 100⟩
    let reply := twoAnswers.flatten ++ cutShort
    Host.unlimited.connectTo client.endpoint = .ok (.v4 ⟨127, 0, 0, 1⟩ 9) ∧
    Cuts reply twoAnswers cutShort ∧ StopsAt cutShort .cleanEnd ∧
    client.ask .unlimited ⟨4, 5⟩ reply = .ok twoAnswers ∧
    twoAnswers = (StreamFramer.start.receiveAll Packet.maxSize [.bytes reply]).1.takeWhile
      (Packet.declaredCount · ≠ 0) := by
  intro client reply
  have hreached : Host.unlimited.connectTo "127.0.0.1:9" = .ok (.v4 ⟨127, 0, 0, 1⟩ 9) := by rfl
  have hcuts : Cuts reply twoAnswers cutShort := cuts_flatten (by decide) cutShort
  have hstop : StopsAt cutShort .cleanEnd := .empty (by decide) (by decide) (by decide)
  obtain ⟨hok, -, -, -, hanswer⟩ :=
    (ask_cuts_reply client ⟨4, 5⟩ reply hreached).2 twoAnswers cutShort .cleanEnd hcuts hstop
  obtain ⟨answer, hask⟩ := hok.2 ⟨rfl, by simp [twoAnswers]⟩
  obtain ⟨rfl, hframed, -⟩ := hanswer answer hask
  exact ⟨hreached, hcuts, hstop, hask, hframed [.bytes reply] rfl⟩

end RetransmissionClient

end MarketFeed
