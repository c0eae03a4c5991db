import MarketFeed.TomlValue

/-!
What stands between the parts of a document: blanks, comments and the ends of lines. A line ends at
a line feed, with a carriage return before it or without.
-/

namespace MarketFeed.Toml

/-- Blanks: space and tab. -/
def isBlank (c : Char) : Bool := c == ' ' || c == '\t'

/-- The rest after blanks. -/
def skipBlanks (text : List Char) : List Char := text.dropWhile isBlank

/-- The rest after the end of a line. -/
def newline? : List Char → Option (List Char)
  | '\n' :: rest => some rest
  | '\r' :: '\n' :: rest => some rest
  | _ => none

/-- Characters that may stand in a comment: all but controls, and the tab. -/
def isCommentChar (c : Char) : Bool := c == '\t' || (0x20 ≤ c.toNat && c.toNat != 0x7F)

/-- The rest after a comment, if one starts here. -/
def skipComment (text : List Char) : List Char :=
  match text with
  | '#' :: rest => rest.dropWhile isCommentChar
  | _ => text

/-- The rest after the remainder of a line that holds no more than blanks and a comment. -/
def endLine? (text : List Char) : Option (List Char) :=
  match skipComment (skipBlanks text) with
  | [] => some []
  | rest => newline? rest

/-- The rest after blanks, ends of lines and comments; `inComment` tells that a comment is open. -/
def skipSpacing (inComment : Bool) : List Char → List Char
  | [] => []
  | '\n' :: rest => skipSpacing false rest
  | '\r' :: '\n' :: rest => skipSpacing false rest
  | c :: rest =>
      if inComment then
        if isCommentChar c then skipSpacing true rest else c :: rest
      else if isBlank c then skipSpacing false rest
      else if c == '#' then skipSpacing true rest
      else c :: rest

end MarketFeed.Toml
