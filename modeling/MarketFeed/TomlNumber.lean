import MarketFeed.TomlValue

/-!
Numbers of a document. Digits may be set apart by single underscores. Whole numbers are signed
64-bit words, in four bases; a float must not be too large for a double.
-/

namespace MarketFeed.Toml

def isDecimal (c : Char) : Bool := '0' ≤ c && c ≤ '9'

/-- A digit to the base sixteen, eight or two. -/
def isHexadecimal (c : Char) : Bool :=
  isDecimal c || ('a' ≤ c && c ≤ 'f') || ('A' ≤ c && c ≤ 'F')

def isOctal (c : Char) : Bool := '0' ≤ c && c ≤ '7'

def isBinary (c : Char) : Bool := c == '0' || c == '1'

def digitValue (c : Char) : Nat :=
  if isDecimal c then c.toNat - '0'.toNat else c.toLower.toNat - 'a'.toNat + 10

/-- The number that digits spell. -/
def spelled (base : Nat) (digits : List Char) : Nat :=
  digits.foldl (fun n c => n * base + digitValue c) 0

/-- The digits that go on behind a digit; an underscore must have a digit behind it. -/
def moreDigits (isDigit : Char → Bool) : Reader (List Char)
  | '_' :: c :: rest =>
      if isDigit c then (moreDigits isDigit rest).map fun (digits, rest) => (c :: digits, rest)
      else none
  | '_' :: [] => none
  | c :: rest =>
      if isDigit c then (moreDigits isDigit rest).map fun (digits, rest) => (c :: digits, rest)
      else some ([], c :: rest)
  | [] => some ([], [])

/-- One digit or more. -/
def digits (isDigit : Char → Bool) : Reader (List Char)
  | c :: rest =>
      if isDigit c then (moreDigits isDigit rest).map fun (digits, rest) => (c :: digits, rest)
      else none
  | [] => none

/-- Whether a minus sign comes first, and the rest behind the sign, if there is one. -/
def sign : List Char → Bool × List Char
  | '+' :: rest => (false, rest)
  | '-' :: rest => (true, rest)
  | text => (false, text)

/-- The digits before the point: a zero that stands alone, or a run that starts with another digit. -/
def wholeDigits : Reader (List Char)
  | '0' :: rest => some (['0'], rest)
  | text => digits isDecimal text

/-- A whole number, if a signed 64-bit word can hold it. -/
def word? (negative : Bool) (size : Nat) : Option Int :=
  if negative then if size ≤ 9223372036854775808 then some (-size) else none
  else if size < 9223372036854775808 then some size else none

/-- A whole number to a base other than ten, behind its two-character mark. -/
def wholeInBase (base : Nat) (isDigit : Char → Bool) : Reader Value := fun text => do
  let (digits, rest) ← digits isDigit text
  pure (.integer (← word? false (spelled base digits)), rest)

/-- The least size that rounds to more than the largest double. -/
def doubleOverflow : Nat := Nat.pow 2 1024 - Nat.pow 2 970

/-- Whether a decimal is too large for a double. The count of its digits settles all but the close
cases. -/
def Decimal.overflows (d : Decimal) : Bool :=
  let order : Int := (Nat.toDigits 10 d.digits).length + d.exponent
  if d.digits = 0 ∨ order < 308 then false
  else if 310 < order then true
  else if 0 ≤ d.exponent then doubleOverflow ≤ d.digits * Nat.pow 10 d.exponent.toNat
  else doubleOverflow * Nat.pow 10 (-d.exponent).toNat ≤ d.digits

/-- A finite float, if it is not too large. -/
def finite? (d : Decimal) : Option Value :=
  if d.overflows ∧ ¬ d.negative then none else some (.float (.finite d))

/-- The exponent behind its letter. -/
def exponent : Reader Int := fun text => do
  let (negative, text) := sign text
  let (digits, rest) ← digits isDecimal text
  let size : Int := spelled 10 digits
  pure (if negative then -size else size, rest)

/-- What stands behind the digits before the point: a fraction, an exponent, both, or neither. -/
def afterWhole (negative : Bool) (whole : List Char) : Reader Value
  | '.' :: text => do
      let (fraction, rest) ← digits isDecimal text
      let (power, rest) ← match rest with
        | 'e' :: rest | 'E' :: rest => exponent rest
        | _ => some (0, rest)
      let value ← finite? ⟨negative, spelled 10 (whole ++ fraction), power - fraction.length⟩
      pure (value, rest)
  | 'e' :: text | 'E' :: text => do
      let (power, rest) ← exponent text
      pure (← finite? ⟨negative, spelled 10 whole, power⟩, rest)
  | rest => do
      pure (.integer (← word? negative (spelled 10 whole)), rest)

/-- A number of any form. -/
def number : Reader Value
  | '0' :: 'x' :: rest => wholeInBase 16 isHexadecimal rest
  | '0' :: 'o' :: rest => wholeInBase 8 isOctal rest
  | '0' :: 'b' :: rest => wholeInBase 2 isBinary rest
  | text =>
      let (negative, behind) := sign text
      match behind with
      | 'i' :: 'n' :: 'f' :: rest => some (.float (.infinity negative), rest)
      | 'n' :: 'a' :: 'n' :: rest => some (.float (.notANumber negative), rest)
      | _ => do
          let (whole, rest) ← wholeDigits behind
          afterWhole negative whole rest

end MarketFeed.Toml
