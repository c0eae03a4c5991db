/-!
What can go wrong with a connection. Faults of the host have a number, a kind and a text; the others
say what was wrong with an address or with the bytes that came in.
-/

namespace MarketFeed

/-- A fault that the host reports. -/
inductive HostFault where
  | noSuchDevice
  | invalidArgument
  | familyNotSupported
  | addressInUse
  | addressNotAvailable
  | networkUnreachable
  | connectionRefused
  deriving DecidableEq, Repr

namespace HostFault

def number : HostFault → Nat
  | .noSuchDevice => 19
  | .invalidArgument => 22
  | .familyNotSupported => 97
  | .addressInUse => 98
  | .addressNotAvailable => 99
  | .networkUnreachable => 101
  | .connectionRefused => 111

def kind : HostFault → String
  | .noSuchDevice => "Uncategorized"
  | .invalidArgument => "InvalidInput"
  | .familyNotSupported => "Uncategorized"
  | .addressInUse => "AddrInUse"
  | .addressNotAvailable => "AddrNotAvailable"
  | .networkUnreachable => "NetworkUnreachable"
  | .connectionRefused => "ConnectionRefused"

/-- The host's words for the fault. -/
def text : HostFault → String
  | .noSuchDevice => "No such device"
  | .invalidArgument => "Invalid argument"
  | .familyNotSupported => "Address family not supported by protocol"
  | .addressInUse => "Address already in use"
  | .addressNotAvailable => "Cannot assign requested address"
  | .networkUnreachable => "Network is unreachable"
  | .connectionRefused => "Connection refused"

/-- The fault in words, with its number. -/
def message (fault : HostFault) : String :=
  fault.text ++ " (os error " ++ toString fault.number ++ ")"

/-- All that is known about the fault. -/
def detail (fault : HostFault) : String :=
  "Os \x7b code: " ++ toString fault.number ++ ", kind: " ++ fault.kind ++ ", message: \"" ++
    fault.text ++ "\" \x7d"

end HostFault

/-- Why a connection could not be opened or cannot go on. -/
inductive TransportFault where
  | host (fault : HostFault)
  | closedByPeer
  /-- The stream ended in the middle of something. -/
  | endOfStream
  | invalidPacketSize (size : Nat)
  | exceedsBuffer (size : Nat)
  | notAnAddress
  | invalidPort
  /-- The host has a zero character in it. -/
  | zeroInHost
  /-- The host is no address, and no name either. -/
  | notAName
  /-- The host is a name, but nobody can be asked for its address. -/
  | unknownName
  deriving DecidableEq, Repr

namespace TransportFault

def message : TransportFault → String
  | .host fault => fault.message
  | .closedByPeer => "tcp session closed by peer"
  | .endOfStream => "failed to fill whole buffer"
  | .invalidPacketSize size => "invalid packet size " ++ toString size ++ " on tcp stream"
  | .exceedsBuffer size => "packet of " ++ toString size ++ " bytes exceeds buffer"
  | .notAnAddress => "invalid socket address"
  | .invalidPort => "invalid port value"
  | .zeroInHost => "file name contained an unexpected NUL byte"
  | .notAName => "failed to lookup address information: Name or service not known"
  | .unknownName => "failed to lookup address information: Temporary failure in name resolution"

def kind : TransportFault → String
  | .host fault => fault.kind
  | .closedByPeer | .endOfStream => "UnexpectedEof"
  | .invalidPacketSize _ | .exceedsBuffer _ => "InvalidData"
  | .notAnAddress | .invalidPort | .zeroInHost => "InvalidInput"
  | .notAName | .unknownName => "Uncategorized"

end TransportFault

end MarketFeed
