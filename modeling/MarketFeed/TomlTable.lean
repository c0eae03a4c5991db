import MarketFeed.TomlValue

/-!
Filling tables. A key, plain or dotted, is given a value once; a dotted key may pass through tables
that are still open and begins those that are missing. A header opens a table that nothing but
headers of inner tables has named before, or one more table of a list of tables.
-/

namespace MarketFeed.Toml

/-- The entries with a value under a key that may be there already. -/
def Entries.put (key : String) (value : Value) : Entries → Entries
  | [] => [(key, value)]
  | (k, v) :: rest => if k = key then (k, value) :: rest else (k, v) :: Entries.put key value rest

/-- What a change makes of a table; nothing when it is not allowed. -/
abbrev Change := TableOrigin → Entries → Option (TableOrigin × Entries)

/-- Changes a value that has to be a table, or the last of a list of tables. -/
def changeTable (change : Change) : Value → Option Value
  | .table origin entries => (change origin entries).map fun (origin, entries) => .table origin entries
  | _ => none

/-- Changes the table at the end of a path. Tables that are missing on the way are begun, by a
dotted key or by a header. A dotted key goes only through tables that are open to it, a header
through all but those in braces. -/
def changeAt (dotted : Bool) (change : Change) : List String → Change
  | [], origin, entries => change origin entries
  | key :: path, origin, entries => do
      let inner : Change := fun childOrigin childEntries =>
        if childOrigin = .inline ∨ (dotted ∧ ¬ childOrigin.isOpen) then none
        else changeAt dotted change path childOrigin childEntries
      let lastOfList : Change := changeAt dotted change path
      let child ← match entries.lookup key with
        | none => changeTable inner (.table (if dotted then .dotted else .implied) [])
        | some (.tables elements) => do
            let last ← elements.getLast?
            pure (.tables (elements.dropLast ++ [← changeTable lastOfList last]))
        | some other => changeTable inner other
      pure (origin, Entries.put key child entries)

/-- Gives a new key of a table its value. A table begun by dotted keys takes keys only through
these, and every other table only directly. -/
def assignHere (dotted : Bool) (key : String) (value : Value) : Change := fun origin entries =>
  if (origin = .dotted) ↔ dotted then
    if (entries.lookup key).isSome then none else some (origin, entries ++ [(key, value)])
  else none

/-- Gives the key at the end of a path its value. -/
def assign (path : List String) (key : String) (value : Value) : Change :=
  changeAt true (assignHere (!path.isEmpty) key value) path

/-- Gives several keys their values, one after the other. -/
def assignAll (assignments : List (List String × String × Value)) : Change := fun origin entries =>
  assignments.foldlM (fun (origin, entries) (path, key, value) => assign path key value origin entries)
    (origin, entries)

/-- Opens the table under a key and fills it. -/
def openTable (key : String) (fill : Change) : Change := fun origin entries => do
  let table ← match entries.lookup key with
    | none => changeTable fill (.table .header [])
    | some (.table .implied found) => changeTable fill (.table .header found)
    | some _ => none
  pure (origin, Entries.put key table entries)

/-- Opens one more table in the list of tables under a key and fills it. -/
def openListed (key : String) (fill : Change) : Change := fun origin entries => do
  let before ← match entries.lookup key with
    | none => some []
    | some (.tables elements) => some elements
    | some _ => none
  let table ← changeTable fill (.table .header [])
  pure (origin, Entries.put key (.tables (before ++ [table])) entries)

end MarketFeed.Toml
