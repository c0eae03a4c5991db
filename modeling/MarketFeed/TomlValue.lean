/-!
Values of a TOML document. A table remembers how it came about, since that decides whether later
lines may still add to it.
-/

namespace MarketFeed.Toml

/-- A finite decimal number: `digits * 10 ^ exponent`, or its negative. -/
structure Decimal where
  negative : Bool
  digits : Nat
  exponent : Int
  deriving DecidableEq, Repr

/-- A float as it is written. -/
inductive FloatValue where
  | finite (value : Decimal)
  | infinity (negative : Bool)
  | notANumber (negative : Bool)
  deriving DecidableEq, Repr

structure Date where
  year : Nat
  month : Nat
  day : Nat
  deriving DecidableEq, Repr

/-- A time of day, to the nanosecond. -/
structure Time where
  hour : Nat
  minute : Nat
  second : Nat
  nanosecond : Nat
  deriving DecidableEq, Repr

/-- A date, a time, or both, and then perhaps the minutes it is ahead of universal time. -/
structure DateTime where
  date : Option Date
  time : Option Time
  offset : Option Int
  deriving DecidableEq, Repr

/-- How a table came about. -/
inductive TableOrigin where
  /-- Written in braces: complete as it stands. -/
  | inline
  /-- Opened by a header of its own. -/
  | header
  /-- Passed through by the header of a table inside it. -/
  | implied
  /-- Passed through by a dotted key. -/
  | dotted
  deriving DecidableEq, Repr

/-- Whether a dotted key may go on into such a table. -/
def TableOrigin.isOpen : TableOrigin → Bool
  | .implied | .dotted => true
  | .inline | .header => false

inductive Value where
  | string (text : String)
  | integer (value : Int)
  | float (value : FloatValue)
  | boolean (value : Bool)
  | dateTime (value : DateTime)
  | array (elements : List Value)
  /-- The tables opened one by one by headers in double brackets. -/
  | tables (elements : List Value)
  | table (origin : TableOrigin) (entries : List (String × Value))

/-- The keys of a table with their values, in the order in which they came. -/
abbrev Entries := List (String × Value)

/-- A reader of some form: what it read from the front and the rest, or nothing when the text does
not have that form. -/
abbrev Reader (α : Type) := List Char → Option (α × List Char)

end MarketFeed.Toml
