import MarketFeed.Bytes

/-!
UTF-8 text in bytes. A byte run is read as characters and ill-formed parts, where a part is as long
as it could still have become a character. Reading loosely puts the replacement character for each
such part; reading strictly allows none.
-/

namespace MarketFeed.Utf8

/-- Where the reader stands between two bytes. -/
inductive State where
  /-- Between characters. -/
  | boundary
  /-- Inside a character: continuation bytes owed, the range of the next one, the bits so far. -/
  | inside (owed : Nat) (low high : UInt8) (bits : Nat)

/-- Starts a character at its first byte; `none` when no character starts so. -/
def first (b : UInt8) : Option State :=
  let n := b.toNat
  if 0xC2 ≤ n ∧ n ≤ 0xDF then some (.inside 1 0x80 0xBF (n - 0xC0))
  else if n = 0xE0 then some (.inside 2 0xA0 0xBF 0)
  else if n = 0xED then some (.inside 2 0x80 0x9F 0x0D)
  else if 0xE1 ≤ n ∧ n ≤ 0xEF then some (.inside 2 0x80 0xBF (n - 0xE0))
  else if n = 0xF0 then some (.inside 3 0x90 0xBF 0)
  else if 0xF1 ≤ n ∧ n ≤ 0xF3 then some (.inside 3 0x80 0xBF (n - 0xF0))
  else if n = 0xF4 then some (.inside 3 0x80 0x8F 4)
  else none

/-- One byte read between characters. -/
def atBoundary (b : UInt8) : List (Option Char) × State :=
  if b < 0x80 then ([some (Char.ofNat b.toNat)], .boundary)
  else match first b with
    | some state => ([], state)
    | none => ([none], .boundary)

/-- One byte: what it completes, and the state after it. A byte that cannot continue the character
begun before it ends that one as ill-formed and is read afresh. -/
def step : State → UInt8 → List (Option Char) × State
  | .boundary, b => atBoundary b
  | .inside owed low high bits, b =>
      if low ≤ b ∧ b ≤ high then
        let bits := bits * 64 + (b.toNat - 0x80)
        if owed ≤ 1 then ([some (Char.ofNat bits)], .boundary)
        else ([], .inside (owed - 1) 0x80 0xBF bits)
      else
        let (read, state) := atBoundary b
        (none :: read, state)

/-- The characters of the bytes from a state on, with `none` for an ill-formed part. -/
def scanFrom : State → Bytes → List (Option Char)
  | .boundary, [] => []
  | .inside .., [] => [none]
  | state, b :: rest =>
      let (read, state) := step state b
      read ++ scanFrom state rest

def scan (bytes : Bytes) : List (Option Char) := scanFrom .boundary bytes

/-- The text, with the replacement character for every ill-formed part. -/
def readLossy (bytes : Bytes) : String :=
  String.ofList ((scan bytes).map (·.getD '\uFFFD'))

/-- The text, if all of it is well-formed. -/
def read? (bytes : Bytes) : Option String :=
  ((scan bytes).mapM id).map String.ofList

end MarketFeed.Utf8
