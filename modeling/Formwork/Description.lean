import Formwork.Text.Basic
import Formwork.Field

/-!
# Form descriptions

A form description has one field per line:

    Email (email, required)
    Password (password, required)

The label runs to the first `(`. The kind runs from there to the first comma that is followed by
nothing but blanks, the word `required` or `optional`, `)` and the end of the line, so a kind may
itself hold commas and parentheses.

* `Line.split` — the lines of a description: its blank margin is removed as a whole, and each line
  loses one carriage return at its end.
* `Line.read` — the field on a line.
* `Description.read` — all fields of a description, or the first line that is none.
-/

namespace Formwork

/-! ## Lines -/

/-- A line of a description. -/
structure Line where
  /-- The line as it stands in the description. -/
  raw : String
  /-- The line without a carriage return at its end. -/
  content : String
  /-- The position of the line, counted from one. -/
  number : Nat
  deriving Repr, DecidableEq

/-- A line that is no field. -/
structure LineError where
  /-- The content of the line. -/
  content : String
  /-- The position of the line, counted from one. -/
  number : Nat
  deriving Repr, DecidableEq

def LineError.message (e : LineError) : String := "Invalid line format: " ++ e.content

namespace Line

/-- Characters without one carriage return at their end. -/
def dropReturn (cs : List Char) : List Char :=
  if cs.getLast? = some '\r' then cs.dropLast else cs

/-- Pieces as lines, the first of them at position `n`. -/
def ofSegments (n : Nat) : List (List Char) → List Line
  | [] => []
  | s :: ss => ⟨String.ofList s, String.ofList (dropReturn s), n⟩ :: ofSegments (n + 1) ss

/-- The lines of a description. Blank lines are kept, and an empty description is one empty line. -/
def split (text : String) : List Line :=
  ofSegments 1 (Text.segments '\n' (Text.trimChars text.toList))

/-! ## The field on a line -/

/-- A character that would end the line in a reader that knows more line ends than this one. -/
def isTerminator (c : Char) : Bool :=
  c == '\n' || c == '\r' || c == '\u2028' || c == '\u2029'

/-- The requirement that the text after a comma spells out, if it is the end of a field line:
blanks, one of the two words, and `)`. -/
def ending? (cs : List Char) : Option Bool :=
  let word := cs.dropWhile Text.isBlank
  if word = "required)".toList then some true
  else if word = "optional)".toList then some false
  else none

/-- The kind and the requirement in the text after the `(`. The kind ends at the first comma after
which the requirement is spelled out. -/
def kindAndEnding? : List Char → Option (List Char × Bool)
  | [] => none
  | c :: cs =>
    match if c = ',' then ending? cs else none with
    | some required => some ([], required)
    | none => (kindAndEnding? cs).map fun p => (c :: p.1, p.2)

/-- The field in the characters of a line. -/
def field? (cs : List Char) : Option Field :=
  if cs.any isTerminator then none
  else match cs.dropWhile (· != '(') with
    | [] => none
    | _ :: rest =>
      let label := Text.trimChars (cs.takeWhile (· != '('))
      match kindAndEnding? rest with
      | none => none
      | some (kind, required) =>
        if label.isEmpty then none
        else some
          { label := String.ofList label
            kind := Kind.ofTag (String.ofList (Text.trimChars kind))
            required }

/-- The field on a line. -/
def read (l : Line) : Except LineError Field :=
  match field? l.content.toList with
  | some f => .ok f
  | none => .error ⟨l.content, l.number⟩

end Line

/-! ## The whole description -/

namespace Description

/-- The fields of a description, in order. The first line that is no field is the error of the
whole. -/
def read (text : String) : Except LineError (List Field) := (Line.split text).mapM Line.read

/-- Fields as a description. -/
def ofFields (fs : List Field) : String := "\n".intercalate (fs.map Field.line)

end Description

end Formwork
