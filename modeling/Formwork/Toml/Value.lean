import Formwork.Toml.Item
import Formwork.Toml.Number

/-!
# TOML values and keys

Values nest in arrays and in tables between braces, and the parts of a key in each other. Both are
read up to a depth, which is what the recursion is on.

* `keyPath?` — a key with dots.
* `value?` — a value.
-/

namespace Formwork.Toml

/-- The depth that neither the values nor the parts of a key reach. -/
def depthLimit : Nat := 80

/-! ## Keys -/

/-- A character of a key without quotes. -/
def isBare (c : Char) : Bool := c.isAlphanum || c == '-' || c == '_'

/-- One part of a key. -/
def simpleKey? : List Char → Option (List Char × List Char)
  | '"' :: cs => basic cs
  | '\'' :: cs => literal cs
  | cs => if (cs.takeWhile isBare).isEmpty then none
      else some (cs.takeWhile isBare, cs.dropWhile isBare)

/-- A key of at most so many parts, with the space around it. -/
def keyPath? : Nat → List Char → Option (List String × List Char)
  | 0, _ => none
  | n + 1, cs => do
    let (part, cs) ← simpleKey? (skipSpace cs)
    match skipSpace cs with
    | '.' :: cs => do
      let (parts, rest) ← keyPath? n cs
      return (String.ofList part :: parts, rest)
    | rest => some ([String.ofList part], rest)

/-- A key of any number of parts below the limit. -/
def key? (cs : List Char) : Option (List String × List Char) := keyPath? (depthLimit - 1) cs

/-! ## Values -/

/-- The characters that were read when `rest` is left. -/
def consumed (cs rest : List Char) : String := String.ofList (cs.take (cs.length - rest.length))

/-- A number or a moment. -/
def numeric? (cs : List Char) : Option (Item × List Char) :=
  match moment? cs with
  | some rest => some (.moment (consumed cs rest), rest)
  | none =>
    match float? cs with
    | some rest => some (.float (consumed cs rest), rest)
    | none => (integer? cs).map fun p => (.integer p.1, p.2)

/-- A value that holds no others. -/
def scalarItem? : List Char → Option (Item × List Char)
  | 't' :: 'r' :: 'u' :: 'e' :: cs => some (.boolean true, cs)
  | 'f' :: 'a' :: 'l' :: 's' :: 'e' :: cs => some (.boolean false, cs)
  | cs =>
    match text? cs with
    | some (s, rest) => some (.text (String.ofList s), rest)
    | none => numeric? cs

/-- The items of an array, behind its bracket or a comma. `fuel` bounds their number. -/
def items? (value : List Char → Option (Item × List Char)) :
    Nat → List Char → Option (List Item × List Char)
  | 0, _ => none
  | fuel + 1, cs =>
    match skipBlank false cs with
    | ']' :: rest => some ([], rest)
    | cs => do
      let (item, cs) ← value cs
      match skipBlank false cs with
      | ',' :: cs => do
        let (more, rest) ← items? value fuel cs
        return (item :: more, rest)
      | ']' :: rest => some ([item], rest)
      | _ => none

/-- An assignment inside braces. -/
def member? (value : List Char → Option (Item × List Char)) (cs : List Char) :
    Option ((List String × Item) × List Char) := do
  let (path, cs) ← key? cs
  let (item, cs) ← value (skipSpace (← after? '=' cs))
  return ((path, item), skipSpace cs)

/-- The assignments up to the closing brace, at least one. `fuel` bounds their number. -/
def members? (value : List Char → Option (Item × List Char)) :
    Nat → List Char → Option (List (List String × Item) × List Char)
  | 0, _ => none
  | fuel + 1, cs => do
    let (m, cs) ← member? value cs
    match cs with
    | ',' :: cs => do
      let (more, rest) ← members? value fuel cs
      return (m :: more, rest)
    | '}' :: rest => some ([m], rest)
    | _ => none

/-- The table of some assignments inside braces. -/
def inlineTable? (ms : List (List String × Item)) : Option Table :=
  ms.foldlM
    (fun t m => m.1.getLast?.bind fun key => t.insertDotted true m.1.dropLast key m.2)
    ⟨⟨true, false, false⟩, []⟩

/-- A table in braces, behind the opening one. -/
def braces? (value : List Char → Option (Item × List Char)) (cs : List Char) :
    Option (Item × List Char) :=
  match skipSpace cs with
  | '}' :: rest => some (.table ⟨true, false, false⟩ [], rest)
  | _ => do
    let (ms, rest) ← members? value (cs.length + 1) cs
    let t ← inlineTable? ms
    return (t.toItem, rest)

/-- A value in which arrays and tables are nested to at most `depth` levels. -/
def valueWithin? : Nat → List Char → Option (Item × List Char)
  | 0, cs => scalarItem? cs
  | depth + 1, cs =>
    match cs with
    | '[' :: cs => (items? (valueWithin? depth) (cs.length + 1) cs).map fun p => (.array p.1, p.2)
    | '{' :: cs => braces? (valueWithin? depth) cs
    | cs => scalarItem? cs

/-- A value nested below the limit. -/
def value? (cs : List Char) : Option (Item × List Char) := valueWithin? (depthLimit - 1) cs

end Formwork.Toml
