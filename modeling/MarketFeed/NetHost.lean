import MarketFeed.FeedConfig
import MarketFeed.NetEndpoint
import MarketFeed.StreamFramer

/-!
Opening connections. What a host lets be bound, reached and joined, and what becomes of datagrams on
it, is given as a value; which of these a transport asks for is settled here. Two hosts stand at the
ends: one without any network, where only a loopback device is there and is down, and one that reaches
everything.
-/

namespace MarketFeed

/-- What becomes of a datagram that has been sent. -/
inductive Delivery where
  | arrives
  | lost
  deriving DecidableEq, Repr

/-- How a host answers. Binding and connecting give the address of the near end; a datagram is sent
over IPv4 to the address given. -/
structure Host where
  bind : SocketAddress → Except HostFault SocketAddress
  connect : SocketAddress → Except HostFault SocketAddress
  send : SocketAddress → Except HostFault Delivery
  join : (group interface : IPv4) → Except HostFault Unit

/-- An open connection: datagrams are packets, a stream has to be cut into them. -/
inductive Link where
  | datagrams
  | stream (framer : StreamFramer)
  deriving DecidableEq

namespace IPv6

def first (ip : IPv6) : Nat := (ip.groups.headD 0).toNat

/-- Whether the address stands for an IPv4 address. -/
def isMapped (ip : IPv6) : Bool := ip.groups.take 6 == [0, 0, 0, 0, 0, 0xFFFF]

def isUnspecified (ip : IPv6) : Bool := ip.groups.all (· == 0)

def isMulticast (ip : IPv6) : Bool := ip.first / 0x100 == 0xFF

/-- Whether the address means something on one device or link only. -/
def isLocal (ip : IPv6) : Bool :=
  ip.first / 0x40 == 0xFE80 / 0x40 || (ip.isMulticast && (ip.first % 0x10 == 1 || ip.first % 0x10 == 2))

end IPv6

namespace Host

/-- Binding on a host without a network. IPv4 addresses are not looked at; an IPv6 address has to be
none, a group or an IPv4 address, and one that is local has to name the only device, the first. -/
def bindIsolated : SocketAddress → Except HostFault SocketAddress
  | .v4 ip port => .ok (.v4 ip port)
  | .v6 ip scope port =>
      if ip.isLocal && scope == 0 then .error .invalidArgument
      else if ip.isLocal && scope != 1 then .error .noSuchDevice
      else if ip.isMapped || ip.isUnspecified || ip.isMulticast then .ok (.v6 ip scope port)
      else .error .addressNotAvailable

/-- Connecting on a host without a network. There is no route to any IPv4 address and to no group, and
no IPv6 address to start from. -/
def connectIsolated : SocketAddress → Except HostFault SocketAddress
  | .v4 .. => .error .networkUnreachable
  | .v6 ip scope _ =>
      if ip.isMapped || ip.isMulticast then .error .networkUnreachable
      else if ip.isLocal && scope == 0 then .error .invalidArgument
      else .error .addressNotAvailable

/-- Sending on a host without a network. What is sent to no address in particular is meant for the host
itself: it is taken, and the loopback device, which is down, loses it. There is no way to any other. -/
def sendIsolated : SocketAddress → Except HostFault Delivery
  | .v4 ip _ => if ip = .unspecified then .ok .lost else .error .networkUnreachable
  | .v6 .. => .error .familyNotSupported

def isolated : Host where
  bind := bindIsolated
  connect := connectIsolated
  send := sendIsolated
  join _ _ := .error .noSuchDevice

/-- A host that binds, reaches and joins everything. -/
def unlimited : Host where
  bind := .ok
  connect := .ok
  send _ := .ok .arrives
  join _ _ := .ok ()

/-- A fault of the host as a fault of the transport. -/
def lift {α : Type} : Except HostFault α → Except TransportFault α
  | .ok a => .ok a
  | .error fault => .error (.host fault)

/-- Connects to the address that a text names. -/
def connectTo (host : Host) (text : String) : Except TransportFault SocketAddress := do
  lift (host.connect (← Endpoint.resolve text))

/-- Opens a transport: the connection and the address of its near end. -/
def openLink (host : Host) : TransportSettings → Except TransportFault (Link × SocketAddress)
  | .udp bind => do
      let address ← lift (host.bind bind)
      pure (.datagrams, address)
  | .tcp address => do
      let address ← host.connectTo address
      pure (.stream .start, address)
  | .multicast group port interface => do
      let address ← lift (host.bind (.v4 .unspecified port))
      lift (host.join group interface)
      pure (.datagrams, address)

end Host

namespace Link

/-- A datagram as it is received: cut to the `room` for it. -/
def datagram (room : Nat) (datagram : Bytes) : Arrival := .packet (datagram.take room)

/-- What a chunk of a stream leads to: the packets it completes and, last, a fault or that there is
nothing more. On a datagram connection the chunk is one datagram. -/
def arrivals (link : Link) (chunk : Bytes) : List Arrival :=
  match link with
  | .datagrams => [datagram Packet.maxSize chunk]
  | .stream framer =>
      let (packets, fault) := framer.receiveAll Packet.maxSize [.bytes chunk]
      packets.map .packet ++ (if fault = .closedByPeer then [] else [.fault fault])

/-- The connection behind a chunk. -/
def after (link : Link) (chunk : Bytes) : Link :=
  match link with
  | .datagrams => .datagrams
  | .stream framer =>
      let (packets, _) := framer.receiveAll Packet.maxSize [.bytes chunk]
      .stream ⟨(framer.pending ++ chunk).drop packets.flatten.length⟩

end Link

end MarketFeed
