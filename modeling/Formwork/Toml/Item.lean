/-!
# TOML items

What a TOML document holds, and how tables come to be.

## Where a table may be extended

A table is either written out under a header or in braces, or it is implied by a longer path. What
may be added to it later hangs on that, so each table remembers it (`Origin`):

* a header `[a.b]` implies `a`, and a later header `[a]` may still write `a` out, once;
* a dotted key `a.b = 1` implies `a`, which only dotted keys of the same table extend;
* a table in braces is complete.

`Table.atPath` walks along a path under these rules.
-/

namespace Formwork.Toml

/-- How a table came to be. -/
structure Origin where
  /-- In braces. -/
  inline : Bool
  /-- Only implied by a path so far. -/
  implicit : Bool
  /-- Implied by a dotted key. -/
  dotted : Bool
  deriving Repr, DecidableEq

/-- A value of a document. -/
inductive Item
  | text (s : String)
  | integer (n : Int)
  /-- A number with a fraction or an exponent, infinite or none at all, as it is written. -/
  | float (literal : String)
  | boolean (b : Bool)
  /-- A date, a time or both, as it is written. -/
  | moment (literal : String)
  | array (items : List Item)
  | table (origin : Origin) (entries : List (String × Item))
  /-- The tables under the headers `[[a]]`. -/
  | tables (rows : List (List (String × Item)))
  deriving Repr

/-- A table by itself. -/
structure Table where
  origin : Origin
  entries : List (String × Item)
  deriving Repr

namespace Table

/-- A table that is written out under a header. -/
def explicit (es : List (String × Item)) : Table := ⟨⟨false, false, false⟩, es⟩

def toItem (t : Table) : Item := .table t.origin t.entries

def get? (t : Table) (key : String) : Option Item := t.entries.lookup key

/-- Entries with an item put under a key. -/
def setEntry (key : String) (i : Item) : List (String × Item) → List (String × Item)
  | [] => [(key, i)]
  | e :: es => if e.1 = key then (key, i) :: es else e :: setEntry key i es

def set (t : Table) (key : String) (i : Item) : Table := { t with entries := setEntry key i t.entries }

def erase (t : Table) (key : String) : Table :=
  { t with entries := t.entries.filter (·.1 != key) }

/-- Puts an item under a key that is free. -/
def insertNew (t : Table) (key : String) (i : Item) : Option Table :=
  match t.get? key with
  | some _ => none
  | none => some (t.set key i)

/-- Changes the table at the end of a path; `none` if the path cannot be walked. Tables on the way
are implied where they are missing. Of the tables under one header the path goes through the last.
A dotted key, or one in braces, passes only through tables that are no more than implied. -/
def atPath {α : Type} (inline dotted : Bool) (change : Table → Option (Table × α)) :
    List String → Table → Option (Table × α)
  | [], t => change t
  | key :: path, t =>
    match t.get? key with
    | none => do
      let (child, a) ← atPath inline dotted change path ⟨⟨inline, true, dotted⟩, []⟩
      return (t.set key child.toItem, a)
    | some (.table o es) =>
      if o.inline != inline || (dotted && !o.implicit) then none
      else do
        let (child, a) ← atPath inline dotted change path ⟨o, es⟩
        return (t.set key child.toItem, a)
    | some (.tables rows) =>
      match rows.getLast? with
      | none => none
      | some row => do
        let (child, a) ← atPath inline dotted change path (explicit row)
        return (t.set key (.tables (rows.dropLast ++ [child.entries])), a)
    | some _ => none

/-- Puts an item under the dotted key `path.key`. -/
def insertDotted (inline : Bool) (path : List String) (key : String) (i : Item) (t : Table) :
    Option Table := do
  let insert (t : Table) : Option (Table × Unit) :=
    if t.origin.dotted = path.isEmpty then none else (t.insertNew key i).map (·, ())
  let (t, _) ← atPath inline true insert path t
  return t

end Table

end Formwork.Toml
