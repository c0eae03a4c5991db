import MarketFeed.LatencyTotals
import MarketFeed.WireDecoding

/-!
A decoder that may time messages: with tracking on, every message of an accepted packet that was
sent, by its own account, no later than the packet was received adds a latency sample.
-/

namespace MarketFeed

/-- A packet decoder and the latency it has gathered. -/
structure Decoder where
  tracking : Bool
  latency : LatencyTotals
  deriving DecidableEq

namespace Decoder

def start (tracking : Bool) : Decoder := ⟨tracking, .zero⟩

/-- Times one message against the receive time. A send time of 0 means that it is not known. -/
def time (decoder : Decoder) (received : UInt64) (message : Message) : Decoder :=
  let sent := message.header.sendTime
  if decoder.tracking ∧ sent ≠ 0 ∧ sent ≤ received then
    { decoder with latency := decoder.latency.record (received - sent) }
  else decoder

/-- Reads a packet and times the messages handed over. -/
def decode (decoder : Decoder) (packet : Bytes) (received : UInt64) : Decoder × Packet.Decoded :=
  let decoded := Packet.decode packet
  (decoded.messages.foldl (fun decoder message => decoder.time received message) decoder, decoded)

/-- The latency gathered so far, and the decoder with none. -/
def takeLatency (decoder : Decoder) : LatencyTotals × Decoder :=
  (decoder.latency, { decoder with latency := .zero })

end Decoder

end MarketFeed
