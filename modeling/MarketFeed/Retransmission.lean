import MarketFeed.GapFill
import MarketFeed.NetHost

/-!
Asking a server for missing packets. The request is a packet with one message; the reply is a run of
packets that an empty packet or the end of the stream ends.
-/

namespace MarketFeed

/-- Why a request brought no packets. -/
inductive RecoveryError where
  | unreachable (fault : TransportFault)
  | broken (fault : TransportFault)
  | invalidPacket (size : Nat)
  | rejected (request : GapRequest)
  deriving DecidableEq

def RecoveryError.message : RecoveryError → String
  | .unreachable fault => "retransmission server unreachable: " ++ fault.message
  | .broken fault => "retransmission i/o failed: " ++ fault.message
  | .invalidPacket size => "invalid retransmitted packet: packet size " ++ toString size
  | .rejected request =>
      "retransmission rejected for [" ++ toString request.first ++ ", " ++ toString request.last ++ "]"

namespace GapRequest

def typeCode : UInt16 := 201

/-- The request as a packet of a channel, sent at some time. -/
def encode (request : GapRequest) (channel : UInt32) (now : UInt64) : Bytes :=
  ((PacketDraft.start channel 0 now).pushRaw typeCode 0 0 now
    (Bytes.ofWord64 request.first ++ Bytes.ofWord64 request.last)).finish

end GapRequest

namespace Retransmission

/-- The packets in front of a reply. The size of a packet is looked at before its count, and its
count before its bytes. -/
def readPackets (reply : Bytes) : Except RecoveryError (List Bytes) :=
  if reply.length < headerSize then .ok []
  else
    let size := Packet.declaredSize reply
    if _h : Packet.PlausibleSize size then
      if Packet.declaredCount reply = 0 then .ok []
      else if reply.length < size then .error (.broken .endOfStream)
      else
        match readPackets (reply.drop size) with
        | .ok packets => .ok (reply.take size :: packets)
        | .error e => .error e
    else .error (.invalidPacket size)
termination_by reply.length
decreasing_by
  have := _h.1
  simp only [headerSize, List.length_drop] at *
  omega

/-- What a reply says to a request. A reply without packets turns it down. -/
def readReply (request : GapRequest) (reply : Bytes) : Except RecoveryError (List Bytes) :=
  match readPackets reply with
  | .ok [] => .error (.rejected request)
  | answer => answer

end Retransmission

/-- Someone who asks a server for missing packets. -/
structure RetransmissionClient where
  endpoint : String
  channel : UInt32
  timeoutMs : UInt64
  deriving DecidableEq

namespace RetransmissionClient

/-- Asks for packets: connects to the server, and reads what it replies. -/
def ask (client : RetransmissionClient) (host : Host) (request : GapRequest) (reply : Bytes) :
    Except RecoveryError (List Bytes) :=
  match host.connectTo client.endpoint with
  | .error fault => .error (.unreachable fault)
  | .ok _ => Retransmission.readReply request reply

end RetransmissionClient

end MarketFeed
