import MarketFeed.NetAddress
import MarketFeed.TransportFault

/-!
Endpoints as text: a host, a colon and a port. The host may be an address in a looser spelling than a
socket address allows: an IPv4 address of one to four numbers, decimal, octal behind `0` or hexadecimal
behind `0x`, the last of which fills the bytes that are left, or an IPv6 address without brackets. Names
are not looked up; only the name of the near end itself is known.
-/

namespace MarketFeed

/-- The IPv4 address with these 32 bits. -/
def IPv4.ofNat (n : Nat) : IPv4 :=
  ⟨UInt8.ofNat (n / 16777216), UInt8.ofNat (n / 65536), UInt8.ofNat (n / 256), UInt8.ofNat n⟩

def IPv4.loopback : IPv4 := ⟨127, 0, 0, 1⟩

namespace Endpoint

/-- The host before the last colon of the text, and the port behind it. -/
def split? (text : List Char) : Option (List Char × List Char) :=
  let port := (text.reverse.takeWhile (· != ':')).reverse
  if ':' ∈ text then some (text.take (text.length - port.length - 1), port) else none

/-- The port that the text spells; a plus sign may stand before it. -/
def port? (text : List Char) : Option UInt16 :=
  let digits := if text.head? = some '+' then text.tail else text
  (Address.whole? (Address.number 10 none UInt16.size digits)).map UInt16.ofNat

/-- A number to the base that its first characters tell, and the rest. -/
def number : List Char → Option (Nat × List Char)
  | '0' :: 'x' :: digits | '0' :: 'X' :: digits => Address.number 16 none UInt32.size digits
  | '0' :: digits => Address.number 8 none UInt32.size ('0' :: digits)
  | digits => Address.number 10 none UInt32.size digits

/-- Numbers with points between them that take up the whole text, at most so many. -/
def numbers? : (most : Nat) → List Char → Option (List Nat)
  | 0, _ => none
  | most + 1, text => do
      match ← number text with
      | (n, []) => some [n]
      | (n, '.' :: rest) => (numbers? most rest).map (n :: ·)
      | _ => none

/-- The number that fills so many bytes: each of the numbers but the last is one byte, and the last is
all the others. -/
def fill? : (bytes : Nat) → List Nat → Option Nat
  | bytes, [last] => if last < Nat.pow 256 bytes then some last else none
  | bytes + 1, n :: rest =>
      if n < 256 then (fill? bytes rest).map (n * Nat.pow 256 bytes + ·) else none
  | _, _ => none

/-- The IPv4 address that the text spells. -/
def ipv4? (text : List Char) : Option IPv4 := do
  pure (.ofNat (← fill? 4 (← numbers? 4 text)))

/-- The IPv6 address and the scope that the text spells. -/
def ipv6? (text : List Char) : Option (IPv6 × UInt32) := do
  let (ip, rest) ← Address.ipv6 text
  match rest with
  | [] => some (ip, 0)
  | _ => (Address.whole? (Address.scope rest)).map (ip, ·)

def isNameChar (c : Char) : Bool := c.isAlphanum || c == '-' || c == '_'

/-- Whether the text goes on as a name whose part before the next point has so many characters so far.
No part but one behind the last point is empty, and none has more than 63 characters. -/
def goesOn (length : Nat) : List Char → Bool
  | [] => true
  | '.' :: rest => 0 < length && goesOn 0 rest
  | c :: rest => isNameChar c && length < 63 && goesOn (length + 1) rest

/-- The most characters of a name, a point at its end not counted. -/
def maxNameLength : Nat := 253

def isName (text : List Char) : Bool :=
  text == ['.'] ||
    (text.head?.any (· != '-') && goesOn 0 text &&
      text.length ≤ maxNameLength + (if text.getLast? = some '.' then 1 else 0))

/-! ### Resolving -/

/-- The socket address of a host that is no plain socket address with its port. -/
def resolveHost (host : List Char) (port : UInt16) : Except TransportFault SocketAddress :=
  if '\x00' ∈ host then .error .zeroInHost
  else match ipv4? host, ipv6? host with
    | some ip, _ => .ok (.v4 ip port)
    | none, some (ip, scope) => .ok (.v6 ip scope port)
    | none, none =>
        if host.map Char.toLower = "localhost".toList then .ok (.v4 .loopback port)
        else .error (if isName host then .unknownName else .notAName)

/-- The socket address that a text names. -/
def resolve (text : String) : Except TransportFault SocketAddress :=
  match SocketAddress.parse? text with
  | some address => .ok address
  | none =>
      match split? text.toList with
      | none => .error .notAnAddress
      | some (host, port) => (port? port).elim (.error .invalidPort) (resolveHost host)

end Endpoint

end MarketFeed
