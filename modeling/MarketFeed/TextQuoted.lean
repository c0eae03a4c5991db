import MarketFeed.SlotPool
import MarketFeed.TextHiddenRanges

/-!
Text between quotes, written so that every character can be seen: quotes and backslashes get a
backslash, the usual controls their letter, and other characters that show nothing their number.
-/

namespace MarketFeed

/-- A number in lower-case hexadecimal digits. -/
def hexDigits (n : Nat) : List Char := Nat.toDigits 16 n

/-- A character as it is written between quotes. -/
def quoteChar (c : Char) : List Char :=
  match c with
  | '"' => ['\\', '"']
  | '\\' => ['\\', '\\']
  | '\n' => ['\\', 'n']
  | '\r' => ['\\', 'r']
  | '\t' => ['\\', 't']
  | '\x00' => ['\\', '0']
  | c =>
      let control := c.toNat < 0x20 || c.toNat == 0x7F
      if control || isHidden c then ['\\', 'u', '\x7b'] ++ hexDigits c.toNat ++ ['\x7d'] else [c]

/-- The text between quotes. -/
def quoted (text : String) : String :=
  String.ofList ('"' :: text.toList.flatMap quoteChar ++ ['"'])

/-- A held slot and its value in words, if the grant is held. -/
def Leases.describe? (leases : Leases String) (grant : Nat) : Option String := do
  let index ← leases.slot? grant
  let value ← leases.pool.value? index
  pure ("Pooled \x7b index: " ++ toString index ++ ", value: " ++ quoted value ++ " \x7d")

end MarketFeed
