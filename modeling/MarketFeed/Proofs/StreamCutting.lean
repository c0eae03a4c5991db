import MarketFeed.StreamFramer

/-! Cutting a stream into packets. However the bytes of a stream are spread over reads, and however
often a read times out, the packets that come out and the fault that ends them are those of the whole
stream, cut from its front. What the pending bytes settle stays settled when more bytes come, and a
read that brings nothing takes nothing. -/

namespace MarketFeed

namespace Packet

theorem declaredSize_append {front : Bytes} (hfront : 2 ≤ front.length) (rest : Bytes) :
    declaredSize (front ++ rest) = declaredSize front := by
  rw [declaredSize, declaredSize, List.take_append_of_le_length hfront]

end Packet

namespace StreamFramer

/-- The bytes that reads bring until the stream ends. -/
def streamOf : List StreamRead → Bytes
  | [] => []
  | .timeout :: reads => streamOf reads
  | .bytes [] :: _ => []
  | .bytes (byte :: chunk) :: reads => byte :: chunk ++ streamOf reads

/-- The packets in front of a whole stream, and why what is left behind them gives no other: it is
too short for a header, or its size is impossible, or it is shorter than its size, or its size is more
than there is room for. -/
def cut (room : Nat) (stream : Bytes) : List Bytes × TransportFault :=
  if stream.length < headerSize then ([], .closedByPeer)
  else
    let size := Packet.declaredSize stream
    if _h : Packet.PlausibleSize size then
      if stream.length < size then ([], .closedByPeer)
      else if room < size then ([], .exceedsBuffer size)
      else
        let (packets, fault) := cut room (stream.drop size)
        (stream.take size :: packets, fault)
    else ([], .invalidPacketSize size)
termination_by stream.length
decreasing_by
  have := _h.1
  simp only [headerSize, List.length_drop] at *
  omega

variable {room : Nat} {framer after : StreamFramer} {arrival : Arrival} {reads rest : List StreamRead}

/-- Pending bytes settle that a size is impossible, that a packet has no room, or a packet. -/
theorem settle?_cases (hsettle : framer.settle? room = some (arrival, after)) :
    headerSize ≤ framer.pending.length ∧
    ((¬Packet.PlausibleSize framer.size ∧ arrival = .fault (.invalidPacketSize framer.size) ∧
        after = framer) ∨
      (Packet.PlausibleSize framer.size ∧ framer.size ≤ framer.pending.length ∧
        ((room < framer.size ∧ arrival = .fault (.exceedsBuffer framer.size) ∧ after = framer) ∨
          (framer.size ≤ room ∧ arrival = .packet (framer.pending.take framer.size) ∧
            after = ⟨framer.pending.drop framer.size⟩)))) := by
  unfold settle? at hsettle
  by_cases hheader : framer.pending.length < headerSize
  · simp [hheader] at hsettle
  refine ⟨Nat.le_of_not_lt hheader, ?_⟩
  by_cases hpossible : Packet.PlausibleSize framer.size
  · right
    by_cases hall : framer.pending.length < framer.size
    · simp [hheader, hpossible, hall] at hsettle
    by_cases hroom : room < framer.size
    · simp [hheader, hpossible, hall, hroom] at hsettle
      exact ⟨hpossible, Nat.le_of_not_lt hall, Or.inl ⟨hroom, hsettle.1.symm, hsettle.2.symm⟩⟩
    · simp [hheader, hpossible, hall, hroom] at hsettle
      exact ⟨hpossible, Nat.le_of_not_lt hall,
        Or.inr ⟨Nat.le_of_not_lt hroom, hsettle.1.symm, hsettle.2.symm⟩⟩
  · left
    simp [hheader, hpossible] at hsettle
    exact ⟨hpossible, hsettle.1.symm, hsettle.2.symm⟩

/-- What is settled stays settled when more bytes come in, and they stay behind it. -/
theorem settle?_append (hsettle : framer.settle? room = some (arrival, after)) (more : Bytes) :
    settle? room ⟨framer.pending ++ more⟩ = some (arrival, ⟨after.pending ++ more⟩) := by
  obtain ⟨hheader, hcases⟩ := settle?_cases hsettle
  have hsize : size ⟨framer.pending ++ more⟩ = framer.size :=
    Packet.declaredSize_append (by rw [headerSize] at hheader; omega) more
  have hlength : (framer.pending ++ more).length = framer.pending.length + more.length :=
    List.length_append
  have hheader' : ¬(framer.pending ++ more).length < headerSize := by omega
  unfold settle?
  simp only [hsize, hheader', if_false]
  rcases hcases with ⟨himpossible, rfl, rfl⟩ | ⟨hpossible, hall, hcases⟩
  · rw [if_neg himpossible]
  · have hall' : ¬(framer.pending ++ more).length < framer.size := by omega
    rw [if_pos hpossible, if_neg hall']
    rcases hcases with ⟨hroom, rfl, rfl⟩ | ⟨hroom, rfl, rfl⟩
    · rw [if_pos hroom]
    · rw [if_neg (by omega), List.take_append_of_le_length hall, List.drop_append_of_le_length hall]

/-- A cut takes off the front what the whole stream settles when it is pending. -/
theorem cut_pending (room : Nat) (framer : StreamFramer) :
    cut room framer.pending =
      match framer.settle? room with
      | some (.packet packet, after) =>
          (packet :: (cut room after.pending).1, (cut room after.pending).2)
      | some (.fault fault, _) => ([], fault)
      | _ => ([], .closedByPeer) := by
  rw [cut, settle?, size]
  by_cases hheader : framer.pending.length < headerSize
  · simp [hheader]
  by_cases hpossible : Packet.PlausibleSize (Packet.declaredSize framer.pending)
  · by_cases hall : framer.pending.length < Packet.declaredSize framer.pending
    · simp [hheader, hpossible, hall]
    · by_cases hroom : room < Packet.declaredSize framer.pending <;>
        simp [hheader, hpossible, hall, hroom]
  · simp [hheader, hpossible]

/-- One wait for a packet settles what the pending bytes and the whole rest of the stream settle;
only a timeout settles nothing, and then every byte is still there. -/
theorem receive_settles (hreceive : receive room framer reads = (arrival, after, rest)) :
    settle? room ⟨framer.pending ++ streamOf reads⟩ =
        some (arrival, ⟨after.pending ++ streamOf rest⟩) ∨
      (arrival = .nothing ∧ framer.pending ++ streamOf reads = after.pending ++ streamOf rest) ∨
      (arrival = .fault .closedByPeer ∧
        settle? room ⟨framer.pending ++ streamOf reads⟩ = none) := by
  induction reads generalizing framer with
  | nil =>
      unfold receive at hreceive
      cases hsettle : framer.settle? room with
      | none =>
          rw [hsettle] at hreceive
          cases hreceive
          refine Or.inr (Or.inr ⟨rfl, ?_⟩)
          rw [streamOf, List.append_nil]
          exact hsettle
      | some settled =>
          rw [hsettle] at hreceive
          cases hreceive
          exact Or.inl (settle?_append hsettle _)
  | cons read reads ih =>
      unfold receive at hreceive
      cases hsettle : framer.settle? room with
      | some settled =>
          rw [hsettle] at hreceive
          cases hreceive
          exact Or.inl (settle?_append hsettle _)
      | none =>
          rw [hsettle] at hreceive
          rcases read with (_ | ⟨byte, chunk⟩) | _
          · cases hreceive
            refine Or.inr (Or.inr ⟨rfl, ?_⟩)
            rw [streamOf, List.append_nil]
            exact hsettle
          · have hsettled := ih hreceive
            simp only [List.append_assoc] at hsettled
            exact hsettled
          · cases hreceive
            exact Or.inr (Or.inl ⟨rfl, rfl⟩)

/-- All packets of a stream are those cut from its pending and its coming bytes together. -/
theorem receiveAll_cut (framer : StreamFramer) (reads : List StreamRead) :
    framer.receiveAll room reads = cut room (framer.pending ++ streamOf reads) := by
  fun_induction receiveAll room framer reads with
  | case1 framer reads packet after rest hreceive packets fault hrest ih =>
      rcases receive_settles hreceive with hsettle | ⟨heq, -⟩ | ⟨heq, -⟩
      · have hcut := cut_pending room ⟨framer.pending ++ streamOf reads⟩
        rw [hsettle] at hcut
        simp only at hcut
        rw [hcut, ← ih, hrest]
      · cases heq
      · cases heq
  | case2 framer reads after rest hreceive ih =>
      rcases receive_settles hreceive with hsettle | ⟨-, hbytes⟩ | ⟨heq, -⟩
      · exact absurd hsettle settle?_ne_nothing
      · rw [ih, hbytes]
      · cases heq
  | case3 framer reads fault after rest hreceive =>
      have hcut := cut_pending room ⟨framer.pending ++ streamOf reads⟩
      rcases receive_settles hreceive with hsettle | ⟨heq, -⟩ | ⟨heq, hsettle⟩
      · rw [hsettle] at hcut
        exact hcut.symm
      · cases heq
      · cases heq
        rw [hsettle] at hcut
        exact hcut.symm

theorem flatten_cut_isPrefix (room : Nat) (stream : Bytes) :
    (cut room stream).1.flatten <+: stream := by
  fun_induction cut room stream with
  | case4 stream _ size _ _ _ packets fault hcut ih =>
      rw [hcut] at ih
      rw [List.flatten_cons]
      obtain ⟨rest, hrest⟩ := ih
      exact ⟨rest, by rw [List.append_assoc, hrest, List.take_append_drop]⟩
  | _ => exact List.nil_prefix

/-- A stream that ends too early is one kind of fault, a size that cannot be or does not fit is
another. -/
theorem kind_cut (room : Nat) (stream : Bytes) :
    (cut room stream).2.kind =
      if (cut room stream).2 = .closedByPeer then "UnexpectedEof" else "InvalidData" := by
  fun_induction cut room stream with
  | case4 stream _ size _ _ _ packets fault hcut ih =>
      rw [hcut] at ih
      exact ih
  | _ => rfl

/-- Whether bytes are a packet as a stream carries it: they state their own number, which is one that
a packet can have and that there is room for. -/
def IsFramed (room : Nat) (packet : Bytes) : Prop :=
  Packet.declaredSize packet = packet.length ∧ Packet.PlausibleSize packet.length ∧
    packet.length ≤ room

instance (room : Nat) (packet : Bytes) : Decidable (IsFramed room packet) :=
  inferInstanceAs (Decidable (_ ∧ _ ∧ _))

theorem cut_append {packet : Bytes} (hpacket : IsFramed room packet) (stream : Bytes) :
    cut room (packet ++ stream) = (packet :: (cut room stream).1, (cut room stream).2) := by
  obtain ⟨hsize, hpossible, hroom⟩ := hpacket
  have hheader := hpossible.1
  have hsize' : Packet.declaredSize (packet ++ stream) = packet.length := by
    rw [Packet.declaredSize_append (by rw [headerSize] at hheader; omega), hsize]
  have hlength : (packet ++ stream).length = packet.length + stream.length := List.length_append
  rw [cut, if_neg (by omega)]
  simp only [hsize', dif_pos hpossible]
  rw [if_neg (by omega), if_neg (by omega), List.drop_left, List.take_left]

theorem cut_flatten {packets : List Bytes} (hpackets : ∀ packet ∈ packets, IsFramed room packet) :
    cut room packets.flatten = (packets, .closedByPeer) := by
  induction packets with
  | nil => rw [List.flatten_nil, cut]; rfl
  | cons packet packets ih =>
      have hrest := ih fun other hmem => hpackets other (List.mem_cons_of_mem _ hmem)
      rw [List.flatten_cons, cut_append (hpackets packet List.mem_cons_self), hrest]

/-- **The packets of a stream do not depend on how it is read.** Whatever reads bring a stream, of
any lengths and with any timeouts in between, the packets received until a fault, and the fault, are
those cut from the whole stream. The packets make up the front of the stream, a timeout leaves every
byte in place, and a stream of packets that fit gives back exactly these. -/
theorem receiveAll_start_eq_cut (room : Nat) :
    (∀ reads, start.receiveAll room reads = cut room (streamOf reads)) ∧
    (∀ reads, (start.receiveAll room reads).2.kind =
      if (start.receiveAll room reads).2 = .closedByPeer then "UnexpectedEof" else "InvalidData") ∧
    (∀ reads, (start.receiveAll room reads).1.flatten <+: streamOf reads) ∧
    (∀ framer reads after rest, receive room framer reads = (.nothing, after, rest) →
      after.pending ++ streamOf rest = framer.pending ++ streamOf reads) ∧
    (∀ packets reads, (∀ packet ∈ packets, IsFramed room packet) →
      streamOf reads = packets.flatten →
      start.receiveAll room reads = (packets, .closedByPeer)) := by
  have hcut (reads : List StreamRead) :
      start.receiveAll room reads = cut room (streamOf reads) := receiveAll_cut start reads
  refine ⟨hcut, ?_, ?_, ?_, ?_⟩
  · intro reads
    rw [hcut]
    exact kind_cut room _
  · intro reads
    rw [hcut]
    exact flatten_cut_isPrefix room _
  · intro framer reads after rest hreceive
    rcases receive_settles hreceive with hsettle | ⟨-, hbytes⟩ | ⟨heq, -⟩
    · exact absurd hsettle settle?_ne_nothing
    · exact hbytes.symm
    · cases heq
  · intro packets reads hpackets hreads
    rw [hcut, hreads]
    exact cut_flatten hpackets

/-- Two packets of 24 and of 26 bytes. -/
def twoPackets : List Bytes :=
  [24 :: 0 :: List.replicate 22 1, 26 :: 0 :: List.replicate 24 2]

/-- The two packets in reads that end inside a header, on a timeout and inside the second packet. -/
def straddlingReads : List StreamRead :=
  let stream := twoPackets.flatten
  [.bytes (stream.take 10), .timeout, .bytes ((stream.drop 10).take 30), .timeout, .timeout,
    .bytes (stream.drop 40)]

theorem receiveAll_start_eq_cut_twoPackets :
    (∀ packet ∈ twoPackets, IsFramed Packet.maxSize packet) ∧
      streamOf straddlingReads = twoPackets.flatten ∧
      start.receiveAll Packet.maxSize straddlingReads = (twoPackets, .closedByPeer) := by
  have hpackets : ∀ packet ∈ twoPackets, IsFramed Packet.maxSize packet := by decide
  have hreads : streamOf straddlingReads = twoPackets.flatten := by decide
  exact ⟨hpackets, hreads,
    (receiveAll_start_eq_cut Packet.maxSize).2.2.2.2 twoPackets straddlingReads hpackets hreads⟩

end StreamFramer

end MarketFeed
