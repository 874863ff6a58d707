import Formwork.Toml.Value

/-!
# TOML documents

A document is read line by line. The assignments go to the table under the last header, which is
kept apart until the next header or the end of the document puts it into its place.

* `Builder.openTable`, `Builder.openRow` — what the headers `[a.b]` and `[[a.b]]` do.
* `parse` — the table that a document stands for, or `none`.
-/

namespace Formwork.Toml

/-- A document that is being read. -/
structure Builder where
  /-- All that is in its place. -/
  root : Table
  /-- The path of the open table; it is empty before the first header. -/
  path : List String
  /-- The open table is one of several under its path. -/
  isRow : Bool
  /-- The open table. -/
  current : Table
  deriving Repr

namespace Builder

def start : Builder := ⟨.explicit [], [], false, .explicit []⟩

/-- Adds a row to the tables under a key. -/
def appendRow (key : String) (row t : Table) : Option (Table × Unit) :=
  match t.get? key with
  | none => some (t.set key (.tables [row.entries]), ())
  | some (.tables rows) => some (t.set key (.tables (rows ++ [row.entries])), ())
  | some _ => none

/-- The document with the open table in its place. -/
def close (b : Builder) : Option Table :=
  match b.path.getLast? with
  | none => some b.current
  | some key =>
    let place (t : Table) : Option (Table × Unit) :=
      if b.isRow then appendRow key b.current t
      else (t.insertNew key b.current.toItem).map (·, ())
    (Table.atPath false false place b.path.dropLast b.root).map (·.1)

/-- Takes a table out to be written out. It may have been implied by a header, and by nothing
else. -/
def takeOut (key : String) (t : Table) : Option (Table × List (String × Item)) :=
  match t.get? key with
  | none => some (t, [])
  | some (.table o es) =>
    if !o.inline && o.implicit && !o.dotted then some (t.erase key, es) else none
  | some _ => none

/-- Opens the table under a header `[path]`. -/
def openTable (path : List String) (b : Builder) : Option Builder := do
  let root ← b.close
  let key ← path.getLast?
  let (root, es) ← Table.atPath false false (takeOut key) path.dropLast root
  return ⟨root, path, false, .explicit es⟩

/-- Makes sure that tables can be added under a key. -/
def reserve (key : String) (t : Table) : Option (Table × Unit) :=
  match t.get? key with
  | none => some (t.set key (.tables []), ())
  | some (.tables _) => some (t, ())
  | some _ => none

/-- Opens one more table under a header `[[path]]`. -/
def openRow (path : List String) (b : Builder) : Option Builder := do
  let root ← b.close
  let key ← path.getLast?
  let (root, _) ← Table.atPath false false (reserve key) path.dropLast root
  return ⟨root, path, true, .explicit []⟩

/-- Assigns an item to a key of the open table. -/
def assign (path : List String) (i : Item) (b : Builder) : Option Builder := do
  let key ← path.getLast?
  let current ← b.current.insertDotted false path.dropLast key i
  return { b with current }

end Builder

/-! ## Lines -/

/-- A header, behind its opening bracket. -/
def header? (b : Builder) (cs : List Char) : Option (Builder × List Char) :=
  match cs with
  | '[' :: cs => do
    let (path, cs) ← key? cs
    let rest ← endOfLine? (← after? ']' (← after? ']' cs))
    return (← b.openRow path, rest)
  | cs => do
    let (path, cs) ← key? cs
    let rest ← endOfLine? (← after? ']' cs)
    return (← b.openTable path, rest)

/-- An assignment. -/
def assignment? (b : Builder) (cs : List Char) : Option (Builder × List Char) := do
  let (path, cs) ← key? cs
  let (i, cs) ← value? (skipSpace (← after? '=' cs))
  let rest ← endOfLine? cs
  return (← b.assign path i, rest)

/-- A line of a document. -/
def line? (b : Builder) (cs : List Char) : Option (Builder × List Char) :=
  match cs with
  | '[' :: cs => header? b cs
  | '#' :: _ => (endOfLine? cs).map (b, ·)
  | '\n' :: cs => some (b, cs)
  | '\r' :: _ => (newline? cs).map (b, ·)
  | cs => assignment? b cs

/-- The rest of a document. Each line takes at least one character, so the number of characters is
fuel enough. -/
def lines? : Nat → Builder → List Char → Option Builder
  | 0, _, _ => none
  | fuel + 1, b, cs =>
    match skipSpace cs with
    | [] => some b
    | cs => do
      let (b, rest) ← line? b cs
      lines? fuel b rest

/-- The characters of a document, without the byte order mark it may start with. -/
def afterMark : List Char → List Char
  | '\uFEFF' :: cs => cs
  | cs => cs

/-- The table that a document stands for. -/
def parse (text : String) : Option Table := do
  let cs := afterMark text.toList
  let b ← lines? (cs.length + 1) .start cs
  b.close

end Formwork.Toml
