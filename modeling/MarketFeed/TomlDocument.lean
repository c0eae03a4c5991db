import MarketFeed.TomlDateTime
import MarketFeed.TomlString
import MarketFeed.TomlTable

/-!
Documents. A document is a run of lines, each of which opens a table or gives a key its value; the
lines up to the next header fill the table opened last. Values in brackets and braces may lie inside
each other, and keys may be dotted, to a fixed depth.
-/

namespace MarketFeed.Toml

/-- Brackets and braces lie inside each other less often than this, and a dotted key has fewer parts
than this. -/
def depthLimit : Nat := 80

/-- Characters of a key without quotes. -/
def isBareKeyChar (c : Char) : Bool :=
  isDecimal c || ('a' ≤ c && c ≤ 'z') || ('A' ≤ c && c ≤ 'Z') || c == '_' || c == '-'

/-- One part of a key. -/
def keyPart (text : List Char) : Option (String × List Char) :=
  match text.head? with
  | some '"' | some '\'' => shortString text
  | _ =>
      let name := text.takeWhile isBareKeyChar
      if name.isEmpty then none else some (String.ofList name, text.dropWhile isBareKeyChar)

/-- The parts of a key, with blanks around each, at most so many. -/
def keyParts : (limit : Nat) → Reader (List String)
  | 0, _ => none
  | limit + 1, text => do
      let (part, rest) ← keyPart (skipBlanks text)
      match skipBlanks rest with
      | '.' :: rest => do
          let (parts, rest) ← keyParts limit rest
          pure (part :: parts, rest)
      | rest => pure ([part], rest)

/-- A key: the path of tables in front, and the last part. -/
def key : Reader (List String × String) := fun text => do
  let (parts, rest) ← keyParts (depthLimit - 1) text
  let last ← parts.getLast?
  pure ((parts.dropLast, last), rest)

/-- A value that lies in no brackets of its own. -/
def scalar : Reader Value := fun text =>
  match text with
  | 't' :: 'r' :: 'u' :: 'e' :: rest => some (.boolean true, rest)
  | 'f' :: 'a' :: 'l' :: 's' :: 'e' :: rest => some (.boolean false, rest)
  | '"' :: _ | '\'' :: _ => (string text).map fun (text, rest) => (.string text, rest)
  | _ =>
      if startsDate text || startsTime text then
        (dateTime text).map fun (value, rest) => (.dateTime value, rest)
      else number text

/-- The elements of an array behind its bracket, up to the closing one. A comma may stand behind the
last. The count bounds how many there can be. -/
def elements (element : Reader Value) : (count : Nat) → Reader (List Value)
  | 0, _ => none
  | count + 1, text =>
      match skipSpacing false text with
      | ']' :: rest => some ([], rest)
      | text => do
          let (value, rest) ← element text
          match skipSpacing false rest with
          | ',' :: rest => do
              let (values, rest) ← elements element count rest
              pure (value :: values, rest)
          | ']' :: rest => pure ([value], rest)
          | _ => none

/-- A key and its value, with blanks around both. -/
def assignment (value : Reader Value) : Reader (List String × String × Value) := fun text => do
  let ((path, name), rest) ← key text
  let rest ← expect '=' rest
  let (value, rest) ← value (skipBlanks rest)
  pure ((path, name, value), rest)

/-- The assignments between braces behind the opening one; no comma may stand behind the last. The
count bounds how many there can be. -/
def assignments (value : Reader Value) : (count : Nat) → Reader (List (List String × String × Value))
  | 0, _ => none
  | count + 1, text => do
      let (first, rest) ← assignment value text
      match skipBlanks rest with
      | ',' :: rest => do
          let (others, rest) ← assignments value count rest
          pure (first :: others, rest)
      | '}' :: rest => pure ([first], rest)
      | _ => none

/-- A table in braces, behind the opening one. -/
def inlineTable (value : Reader Value) : Reader Value := fun text =>
  match skipBlanks text with
  | '}' :: rest => some (.table .inline [], rest)
  | text => do
      let (given, rest) ← assignments value (text.length + 1) text
      let (origin, entries) ← assignAll given .inline []
      pure (.table origin entries, rest)

/-- A value with no more than `depth` brackets and braces inside each other. -/
def value : (depth : Nat) → Reader Value
  | 0, text => scalar text
  | depth + 1, text =>
      match text with
      | '[' :: rest =>
          (elements (value depth) (rest.length + 1) rest).map fun (values, rest) => (.array values, rest)
      | '{' :: rest => inlineTable (value depth) rest
      | _ => scalar text

/-- What a line of a document says. -/
inductive Line where
  | assign (path : List String) (key : String) (value : Value)
  | openTable (path : List String) (key : String)
  | openListed (path : List String) (key : String)

/-- A line that says something, and what follows its end. -/
def line : Reader Line := fun text => do
  let (line, rest) ← match text with
    | '[' :: '[' :: rest => do
        let ((path, key), rest) ← key rest
        let rest ← expect ']' (← expect ']' rest)
        some (Line.openListed path key, rest)
    | '[' :: rest => do
        let ((path, key), rest) ← key rest
        let rest ← expect ']' rest
        some (Line.openTable path key, rest)
    | _ => do
        let ((path, key, value), rest) ← assignment (value (depthLimit - 1)) text
        some (Line.assign path key value, rest)
  let rest ← endLine? rest
  pure (line, rest)

/-- The lines of a document that say something. The count bounds how many there can be. -/
def lines : (count : Nat) → List Char → Option (List Line)
  | 0, _ => none
  | count + 1, text =>
      match skipBlanks text with
      | [] => some []
      | '#' :: rest => do lines count (← endLine? ('#' :: rest))
      | text =>
          match newline? text with
          | some rest => lines count rest
          | none => do
              let (first, rest) ← line text
              pure (first :: (← lines count rest))

/-- A header and the assignments behind it. -/
structure Section where
  /-- Whether the header asks for one more table of a list. -/
  listed : Bool
  path : List String
  key : String
  given : List (List String × String × Value)

/-- Splits lines into the assignments before any header and the sections behind headers. -/
def sections : List Line → List (List String × String × Value) × List Section
  | [] => ([], [])
  | .assign path key value :: rest =>
      let (given, others) := sections rest
      ((path, key, value) :: given, others)
  | .openTable path key :: rest =>
      let (given, others) := sections rest
      ([], ⟨false, path, key, given⟩ :: others)
  | .openListed path key :: rest =>
      let (given, others) := sections rest
      ([], ⟨true, path, key, given⟩ :: others)

/-- Opens the table of a section and fills it. -/
def Section.apply (s : Section) : Change :=
  let fill := assignAll s.given
  changeAt false (if s.listed then openListed s.key fill else openTable s.key fill) s.path

/-- The entries of a document, if its text is one. A byte order mark may come first. -/
def document? (text : String) : Option Entries := do
  let chars := match text.toList with
    | '\uFEFF' :: rest => rest
    | chars => chars
  let found ← lines (chars.length + 1) chars
  let (given, sections) := sections found
  let top ← assignAll given .header []
  let (_, entries) ← sections.foldlM (fun (origin, entries) s => s.apply origin entries) top
  pure entries

end MarketFeed.Toml
