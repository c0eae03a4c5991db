import MarketFeed.TomlSpacing

/-!
Strings of a document. Between double quotes a backslash starts an escape; between single quotes
every character stands for itself. Three quotes open a string over several lines, in which the end
of a line counts as a line feed and one or two quotes may stand before the three that close it.
-/

namespace MarketFeed.Toml

/-- Characters that may stand in a string of one line, quotes and backslashes apart. -/
def isStringChar (c : Char) : Bool := isCommentChar c

def hexValue? (c : Char) : Option Nat :=
  if '0' ≤ c ∧ c ≤ '9' then some (c.toNat - '0'.toNat)
  else if 'a' ≤ c ∧ c ≤ 'f' then some (c.toNat - 'a'.toNat + 10)
  else if 'A' ≤ c ∧ c ≤ 'F' then some (c.toNat - 'A'.toNat + 10)
  else none

/-- The character whose number the digits spell, if there is such a character. -/
def scalar? (digits : List Char) : Option Char := do
  let values ← digits.mapM hexValue?
  let n := values.foldl (fun n d => n * 16 + d) 0
  if n.isValidChar then some (Char.ofNat n) else none

/-- The character for the letter of a short escape. -/
def escape? : Char → Option Char
  | 'b' => some '\x08'
  | 't' => some '\t'
  | 'n' => some '\n'
  | 'f' => some '\x0c'
  | 'r' => some '\r'
  | '"' => some '"'
  | '\\' => some '\\'
  | _ => none

/-- Puts a character in front of what a reader has read. -/
def consRead (c : Char) (read : Option (List Char × List Char)) : Option (List Char × List Char) :=
  read.map fun (text, rest) => (c :: text, rest)

/-- The text up to the closing double quote. -/
def basicText : List Char → Option (List Char × List Char)
  | '"' :: rest => some ([], rest)
  | '\\' :: 'u' :: a :: b :: c :: d :: rest => do
      consRead (← scalar? [a, b, c, d]) (basicText rest)
  | '\\' :: 'U' :: a :: b :: c :: d :: e :: f :: g :: h :: rest => do
      consRead (← scalar? [a, b, c, d, e, f, g, h]) (basicText rest)
  | '\\' :: c :: rest => do consRead (← escape? c) (basicText rest)
  | c :: rest => if isStringChar c then consRead c (basicText rest) else none
  | [] => none

/-- The text up to the closing single quote. -/
def literalText : List Char → Option (List Char × List Char)
  | '\'' :: rest => some ([], rest)
  | c :: rest => if isStringChar c then consRead c (literalText rest) else none
  | [] => none

/-- The text over several lines up to the closing double quotes. While `trimming`, which a backslash
at the end of a line starts, blanks and ends of lines are left out. -/
def basicLines (trimming : Bool) : List Char → Option (List Char × List Char)
  | '"' :: '"' :: '"' :: '"' :: '"' :: rest => some (['"', '"'], rest)
  | '"' :: '"' :: '"' :: '"' :: rest => some (['"'], rest)
  | '"' :: '"' :: '"' :: rest => some ([], rest)
  | '\r' :: '\n' :: rest =>
      if trimming then basicLines true rest else consRead '\n' (basicLines false rest)
  | '\n' :: rest =>
      if trimming then basicLines true rest else consRead '\n' (basicLines false rest)
  | '\\' :: 'u' :: a :: b :: c :: d :: rest => do
      consRead (← scalar? [a, b, c, d]) (basicLines false rest)
  | '\\' :: 'U' :: a :: b :: c :: d :: e :: f :: g :: h :: rest => do
      consRead (← scalar? [a, b, c, d, e, f, g, h]) (basicLines false rest)
  | '\\' :: c :: rest =>
      match escape? c with
      | some character => consRead character (basicLines false rest)
      | none =>
          if (newline? (skipBlanks (c :: rest))).isSome then basicLines true rest else none
  | c :: rest =>
      if trimming && isBlank c then basicLines true rest
      else if isStringChar c then consRead c (basicLines false rest)
      else none
  | [] => none

/-- The text over several lines up to the closing single quotes. -/
def literalLines : List Char → Option (List Char × List Char)
  | '\'' :: '\'' :: '\'' :: '\'' :: '\'' :: rest => some (['\'', '\''], rest)
  | '\'' :: '\'' :: '\'' :: '\'' :: rest => some (['\''], rest)
  | '\'' :: '\'' :: '\'' :: rest => some ([], rest)
  | '\r' :: '\n' :: rest => consRead '\n' (literalLines rest)
  | '\n' :: rest => consRead '\n' (literalLines rest)
  | c :: rest => if isStringChar c then consRead c (literalLines rest) else none
  | [] => none

/-- The rest after an end of line, where there is one. -/
def dropNewline (text : List Char) : List Char := (newline? text).getD text

/-- A string on one line, as keys may be, too. -/
def shortString : Reader String
  | '"' :: rest => (basicText rest).map fun (text, rest) => (String.ofList text, rest)
  | '\'' :: rest => (literalText rest).map fun (text, rest) => (String.ofList text, rest)
  | _ => none

/-- A string of any form. -/
def string : Reader String
  | '"' :: '"' :: '"' :: rest =>
      (basicLines false (dropNewline rest)).map fun (text, rest) => (String.ofList text, rest)
  | '\'' :: '\'' :: '\'' :: rest =>
      (literalLines (dropNewline rest)).map fun (text, rest) => (String.ofList text, rest)
  | text => shortString text

end MarketFeed.Toml
