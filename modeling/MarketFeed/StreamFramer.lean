import MarketFeed.TransportFault
import MarketFeed.WireEncoding

/-!
Packets from a byte stream. A framer keeps the bytes that have come in and are not yet part of a
packet; the size field at their front says how many make up the next one. Bytes are read only when
the pending ones do not settle what comes next, so a timeout loses nothing.
-/

namespace MarketFeed

namespace Packet

/-- The most bytes a packet may have. -/
def maxSize : Nat := 2048

/-- The size that the bytes in front declare. -/
def declaredSize (bytes : Bytes) : Nat := Bytes.toNat (bytes.take 2)

/-- The number of messages that the bytes in front declare. -/
def declaredCount (bytes : Bytes) : Nat := Bytes.toNat ((bytes.drop 2).take 2)

def PlausibleSize (size : Nat) : Prop := headerSize ≤ size ∧ size ≤ maxSize

instance (size : Nat) : Decidable (PlausibleSize size) :=
  inferInstanceAs (Decidable (headerSize ≤ size ∧ size ≤ maxSize))

end Packet

/-- What one read from a stream gave. A stream that gives no bytes has ended. -/
inductive StreamRead where
  | bytes (chunk : Bytes)
  | timeout
  deriving DecidableEq

/-- What waiting for a packet gave. -/
inductive Arrival where
  | packet (packet : Bytes)
  | nothing
  | fault (fault : TransportFault)
  deriving DecidableEq

/-- The bytes that have come in and are not yet part of a packet. -/
structure StreamFramer where
  pending : Bytes
  deriving DecidableEq

namespace StreamFramer

def start : StreamFramer := ⟨[]⟩

/-- The size that the pending bytes declare for the next packet. -/
def size (framer : StreamFramer) : Nat := Packet.declaredSize framer.pending

/-- What the pending bytes settle, if they settle anything: the next packet, or that there is none to
come, because its size is impossible or more than the `room` for it. -/
def settle? (room : Nat) (framer : StreamFramer) : Option (Arrival × StreamFramer) :=
  if framer.pending.length < headerSize then none
  else if Packet.PlausibleSize framer.size then
    if framer.pending.length < framer.size then none
    else if room < framer.size then some (.fault (.exceedsBuffer framer.size), framer)
    else some (.packet (framer.pending.take framer.size), ⟨framer.pending.drop framer.size⟩)
  else some (.fault (.invalidPacketSize framer.size), framer)

/-- Waits for a packet of at most `room` bytes, taking from the reads what it needs. -/
def receive (room : Nat) (framer : StreamFramer) :
    List StreamRead → Arrival × StreamFramer × List StreamRead
  | [] =>
      match framer.settle? room with
      | some (arrival, framer) => (arrival, framer, [])
      | none => (.fault .closedByPeer, framer, [])
  | read :: rest =>
      match framer.settle? room with
      | some (arrival, framer) => (arrival, framer, read :: rest)
      | none =>
          match read with
          | .timeout => (.nothing, framer, rest)
          | .bytes [] => (.fault .closedByPeer, framer, rest)
          | .bytes chunk => receive room ⟨framer.pending ++ chunk⟩ rest

/-! ### All packets of a stream -/

/-- What reads may still bring: their bytes, and each read itself. -/
def readsWeight : List StreamRead → Nat
  | [] => 0
  | .bytes chunk :: rest => chunk.length + 1 + readsWeight rest
  | .timeout :: rest => 1 + readsWeight rest

/-- What is left to be looked at. -/
def weight (framer : StreamFramer) (reads : List StreamRead) : Nat :=
  framer.pending.length + readsWeight reads

theorem length_pending_of_settle?_packet {room : Nat} {framer after : StreamFramer} {packet : Bytes}
    (h : framer.settle? room = some (.packet packet, after)) :
    after.pending.length < framer.pending.length := by
  unfold settle? at h
  repeat' split at h
  · contradiction
  · contradiction
  · simp at h
  · rename_i hplausible hall _
    cases h
    have := hplausible.1
    simp only [headerSize, List.length_drop] at this ⊢
    omega
  · simp at h

theorem settle?_ne_nothing {room : Nat} {framer after : StreamFramer} :
    framer.settle? room ≠ some (.nothing, after) := by
  unfold settle?
  repeat' split
  all_goals simp

theorem weight_lt_of_settle? {room : Nat} {framer after : StreamFramer} {arrival : Arrival}
    (hsettle : framer.settle? room = some (arrival, after)) (hfault : ∀ fault, arrival ≠ .fault fault)
    (reads : List StreamRead) : after.weight reads < framer.weight reads := by
  cases arrival with
  | packet p =>
      have := length_pending_of_settle?_packet hsettle
      simp only [weight]
      omega
  | nothing => exact absurd hsettle settle?_ne_nothing
  | fault f => exact absurd rfl (hfault f)

theorem weight_receive {room : Nat} {framer after : StreamFramer} {reads rest : List StreamRead}
    {arrival : Arrival} (h : receive room framer reads = (arrival, after, rest))
    (hfault : ∀ fault, arrival ≠ .fault fault) : after.weight rest < framer.weight reads := by
  induction reads generalizing framer with
  | nil =>
      unfold receive at h
      split at h
      · rename_i hsettle
        cases h
        exact weight_lt_of_settle? hsettle hfault []
      · cases h
        exact absurd rfl (hfault _)
  | cons read more ih =>
      unfold receive at h
      split at h
      · rename_i hsettle
        cases h
        exact weight_lt_of_settle? hsettle hfault (read :: more)
      · split at h
        · cases h
          simp [weight, readsWeight]
        · cases h
          exact absurd rfl (hfault _)
        · rename_i chunk _
          have := ih h
          simp only [weight, readsWeight, List.length_append] at this ⊢
          omega

/-- The packets of a stream up to the fault that ends it. -/
def receiveAll (room : Nat) (framer : StreamFramer) (reads : List StreamRead) :
    List Bytes × TransportFault :=
  match _h : receive room framer reads with
  | (.packet packet, after, rest) =>
      let (packets, fault) := receiveAll room after rest
      (packet :: packets, fault)
  | (.nothing, after, rest) => receiveAll room after rest
  | (.fault fault, _, _) => ([], fault)
termination_by framer.weight reads
decreasing_by
  all_goals exact weight_receive _h (by simp)

end StreamFramer

end MarketFeed
