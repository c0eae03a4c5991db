/-!
Addresses as text. An IPv4 address is four numbers with points between them, none with a needless
zero in front. An IPv6 address is eight hexadecimal groups with colons between them; one run of zero
groups may be left out, and the last two groups may be written as an IPv4 address. A socket address
has a port behind it.
-/

namespace MarketFeed

structure IPv4 where
  a : UInt8
  b : UInt8
  c : UInt8
  d : UInt8
  deriving DecidableEq, Repr

/-- An IPv6 address, as its eight groups. -/
structure IPv6 where
  groups : List UInt16
  length_eq : groups.length = 8
  deriving DecidableEq

/-- An address with a port. Scope 0 is no scope. -/
inductive SocketAddress where
  | v4 (ip : IPv4) (port : UInt16)
  | v6 (ip : IPv6) (scope : UInt32) (port : UInt16)
  deriving DecidableEq

namespace Address

/-- The value of a digit, if it is one to the base. -/
def digit? (base : Nat) (c : Char) : Option Nat :=
  let n :=
    if '0' ≤ c ∧ c ≤ '9' then c.toNat - '0'.toNat
    else if 'a' ≤ c ∧ c ≤ 'z' then c.toNat - 'a'.toNat + 10
    else if 'A' ≤ c ∧ c ≤ 'Z' then c.toNat - 'A'.toNat + 10
    else base
  if n < base then some n else none

/-- A number and the rest. It has one digit or more, but no more than `most` where this is given, and
stays below `bound`. -/
def number (base : Nat) (most : Option Nat) (bound : Nat) (text : List Char) :
    Option (Nat × List Char) :=
  let digits := text.takeWhile fun c => (digit? base c).isSome
  let value := digits.foldl (fun n c => n * base + (digit? base c).getD 0) 0
  if digits.isEmpty ∨ most.any (· < digits.length) ∨ bound ≤ value then none
  else some (value, text.drop digits.length)

/-- The rest behind a character that must be there. -/
def skip? (c : Char) : List Char → Option (List Char)
  | first :: rest => if first = c then some rest else none
  | [] => none

/-- One of the four numbers of an IPv4 address. -/
def octet (text : List Char) : Option (UInt8 × List Char) := do
  let (n, rest) ← number 10 (some 3) 256 text
  if text.head? = some '0' ∧ text.length ≠ rest.length + 1 then none
  else some (UInt8.ofNat n, rest)

/-- An IPv4 address and the rest. -/
def ipv4 (text : List Char) : Option (IPv4 × List Char) := do
  let (a, text) ← octet text
  let (b, text) ← octet (← skip? '.' text)
  let (c, text) ← octet (← skip? '.' text)
  let (d, text) ← octet (← skip? '.' text)
  pure (⟨a, b, c, d⟩, text)

/-- The two groups that an IPv4 address stands for. -/
def pairOf (ip : IPv4) : List UInt16 :=
  [ip.a.toUInt16 * 256 + ip.b.toUInt16, ip.c.toUInt16 * 256 + ip.d.toUInt16]

/-- The text behind the colon that must come before all groups but the first. -/
def behindColon (isFirst : Bool) (text : List Char) : Option (List Char) :=
  if isFirst then some text else skip? ':' text

/-- Groups of an IPv6 address, as many as there are but at most `room`, whether an IPv4 address ended
them, and the rest. -/
def groups (isFirst : Bool) : (room : Nat) → List Char → List UInt16 × Bool × List Char
  | 0, text => ([], false, text)
  | room + 1, text =>
      let behind := behindColon isFirst text
      let embedded := if room = 0 then none else behind.bind ipv4
      match embedded with
      | some (ip, rest) => (pairOf ip, true, rest)
      | none =>
          match behind.bind (number 16 (some 4) UInt16.size) with
          | none => ([], false, text)
          | some (n, rest) =>
              let (more, ended, rest) := groups false room rest
              (UInt16.ofNat n :: more, ended, rest)

/-- The address with some groups in front and some behind, and zeros between. -/
def fillGroups (front behind : List UInt16) : IPv6 :=
  ⟨(front ++ List.replicate (8 - front.length - behind.length) 0 ++ behind ++ List.replicate 8 0).take 8,
    by simp; omega⟩

/-- An IPv6 address and the rest. -/
def ipv6 (text : List Char) : Option (IPv6 × List Char) := do
  let (front, embedded, rest) := groups true 8 text
  if front.length = 8 then pure (fillGroups front [], rest)
  else if embedded then none
  else
    let rest ← skip? ':' (← skip? ':' rest)
    let (behind, _, rest) := groups true (7 - front.length) rest
    pure (fillGroups front behind, rest)

/-- A port behind its colon. -/
def port (text : List Char) : Option (UInt16 × List Char) := do
  let (n, rest) ← number 10 none UInt16.size (← skip? ':' text)
  pure (UInt16.ofNat n, rest)

/-- A scope behind its percent sign. -/
def scope (text : List Char) : Option (UInt32 × List Char) := do
  let (n, rest) ← number 10 none UInt32.size (← skip? '%' text)
  pure (UInt32.ofNat n, rest)

/-- What was read, if nothing is left. -/
def whole? {α : Type} (read : Option (α × List Char)) : Option α :=
  match read with
  | some (a, []) => some a
  | _ => none

end Address

def IPv4.parse? (text : String) : Option IPv4 := Address.whole? (Address.ipv4 text.toList)

/-- The socket address that the text spells. An IPv6 address stands in brackets. -/
def SocketAddress.parse? (text : String) : Option SocketAddress :=
  let chars := text.toList
  let v4 : Option (SocketAddress × List Char) := do
    let (ip, rest) ← Address.ipv4 chars
    let (port, rest) ← Address.port rest
    pure (.v4 ip port, rest)
  let v6 : Option (SocketAddress × List Char) := do
    let (ip, rest) ← Address.ipv6 (← Address.skip? '[' chars)
    let (scope, rest) := (Address.scope rest).getD (0, rest)
    let (port, rest) ← Address.port (← Address.skip? ']' rest)
    pure (.v6 ip scope port, rest)
  Address.whole? (v4 <|> v6)

/-! ### Writing -/

namespace IPv4

def unspecified : IPv4 := ⟨0, 0, 0, 0⟩

def isMulticast (ip : IPv4) : Bool := 224 ≤ ip.a && ip.a ≤ 239

def text (ip : IPv4) : String :=
  String.intercalate "." ([ip.a, ip.b, ip.c, ip.d].map toString)

end IPv4

namespace IPv6

/-- Groups with colons between them. -/
def joined (groups : List UInt16) : String :=
  String.intercalate ":" (groups.map fun g => String.ofList (Nat.toDigits 16 g.toNat))

/-- How many zero groups the list starts with. -/
def zerosInFront (groups : List UInt16) : Nat := (groups.takeWhile (· == 0)).length

/-- The first of the longest runs of zero groups: where it starts and how long it is. -/
def longestZeros (groups : List UInt16) : Nat × Nat :=
  let runs := (List.range groups.length).map fun i => (i, zerosInFront (groups.drop i))
  runs.foldl (fun best run => if best.2 < run.2 then run else best) (0, 0)

/-- The address as text. The longest run of two or more zero groups is left out, and an address that
stands for an IPv4 address shows it. -/
def text (ip : IPv6) : String :=
  match ip.groups with
  | [0, 0, 0, 0, 0, 0xFFFF, g, h] =>
      "::ffff:" ++ IPv4.text ⟨(g / 256).toUInt8, g.toUInt8, (h / 256).toUInt8, h.toUInt8⟩
  | groups =>
      let (start, length) := longestZeros groups
      if 1 < length then joined (groups.take start) ++ "::" ++ joined (groups.drop (start + length))
      else joined groups

end IPv6

namespace SocketAddress

def text : SocketAddress → String
  | .v4 ip port => ip.text ++ ":" ++ toString port
  | .v6 ip scope port =>
      let zone := if scope = 0 then "" else "%" ++ toString scope
      "[" ++ ip.text ++ zone ++ "]:" ++ toString port

end SocketAddress

end MarketFeed
