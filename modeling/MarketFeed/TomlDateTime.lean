import MarketFeed.TomlNumber

/-!
Dates and times of a document: a date, a time, a date with a time, or a moment, which is a date with
a time and an offset from universal time. The day must be one of its month.
-/

namespace MarketFeed.Toml

/-- Exactly so many digits. -/
def fixedDigits (count : Nat) : Reader Nat := fun text =>
  let front := text.take count
  if front.length = count ∧ front.all isDecimal then some (spelled 10 front, text.drop count)
  else none

/-- A character that must be there. -/
def expect (c : Char) (text : List Char) : Option (List Char) :=
  match text with
  | first :: rest => if first = c then some rest else none
  | [] => none

/-- So many digits for a number in a range. -/
def ranged (count low high : Nat) : Reader Nat := fun text => do
  let (n, rest) ← fixedDigits count text
  if low ≤ n ∧ n ≤ high then some (n, rest) else none

/-- Years of 366 days. -/
def isLeapYear (year : Nat) : Bool := year % 4 == 0 && (year % 100 != 0 || year % 400 == 0)

/-- The days of a month. -/
def daysIn (year month : Nat) : Nat :=
  if month = 2 then if isLeapYear year then 29 else 28
  else if month = 4 ∨ month = 6 ∨ month = 9 ∨ month = 11 then 30
  else 31

def date : Reader Date := fun text => do
  let (year, text) ← fixedDigits 4 text
  let (month, text) ← ranged 2 1 12 (← expect '-' text)
  let (day, text) ← ranged 2 1 31 (← expect '-' text)
  if day ≤ daysIn year month then some (⟨year, month, day⟩, text) else none

/-- A fraction of a second in nanoseconds; digits behind the ninth are cut off. -/
def fraction : Reader Nat
  | '.' :: text =>
      let digits := text.takeWhile isDecimal
      if digits.isEmpty then none
      else
        let kept := digits.take 9
        some (spelled 10 kept * Nat.pow 10 (9 - kept.length), text.drop digits.length)
  | text => some (0, text)

/-- A time of day. The second may be a leap second. -/
def time : Reader Time := fun text => do
  let (hour, text) ← ranged 2 0 23 text
  let (minute, text) ← ranged 2 0 59 (← expect ':' text)
  let (second, text) ← ranged 2 0 60 (← expect ':' text)
  match fraction text with
  | some (nanosecond, rest) => some (⟨hour, minute, second, nanosecond⟩, rest)
  | none => some (⟨hour, minute, second, 0⟩, text)

/-- The offset behind a date and a time, if there is one. -/
def offset (text : List Char) : Option (Option Int × List Char) :=
  let signed (factor : Int) (text : List Char) : Option (Option Int × List Char) := do
    let (hours, text) ← ranged 2 0 23 text
    let (minutes, text) ← ranged 2 0 59 (← expect ':' text)
    pure (some (factor * (hours * 60 + minutes)), text)
  match text with
  | 'Z' :: rest | 'z' :: rest => some (some 0, rest)
  | '+' :: rest => signed 1 rest
  | '-' :: rest => signed (-1) rest
  | _ => some (none, text)

/-- What follows a date: a time behind a letter or a blank, or nothing. -/
def afterDate (date : Date) (text : List Char) : Option (DateTime × List Char) :=
  let behind := match text with
    | 'T' :: rest | 't' :: rest | ' ' :: rest => time rest
    | _ => none
  match behind with
  | some (time, rest) => do
      let (offset, rest) ← offset rest
      pure (⟨some date, some time, offset⟩, rest)
  | none => some (⟨some date, none, none⟩, text)

/-- Whether the text goes on like a date, and not like a number. -/
def startsDate (text : List Char) : Bool :=
  (fixedDigits 4 text).any fun (_, rest) => rest.head? == some '-'

/-- Whether the text goes on like a time, and not like a number. -/
def startsTime (text : List Char) : Bool :=
  (fixedDigits 2 text).any fun (_, rest) => rest.head? == some ':'

/-- A date or a time of any form. -/
def dateTime : Reader DateTime := fun text =>
  if startsDate text then do
    let (date, rest) ← date text
    afterDate date rest
  else do
    let (time, rest) ← time text
    pure (⟨none, some time, none⟩, rest)

end MarketFeed.Toml
