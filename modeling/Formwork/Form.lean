import Formwork.Validation.Plan

/-!
# The model of a form

What a generated form needs to know about its fields, in their order: the key and the control of
each, the heading of the form and the plan that validates it.

* `Form.ofFields` — the model.
* `Form.collision?` — the first two fields that share a state key.
* `spaced` — a label as a heading.
-/

namespace Formwork

/-! ## Controls -/

/-- What the user enters a value with. -/
inductive Control
  /-- Several lines of text. -/
  | textArea
  /-- A box to tick. -/
  | checkbox
  /-- An input of some type. -/
  | input (type : String)
  deriving Repr, DecidableEq

/-- The control for a kind. An input has the tag of the kind as its type, known or not. -/
def Control.ofKind : Kind → Control
  | .textarea => .textArea
  | .checkbox => .checkbox
  | k => .input k.tag

/-- The value of a box that is ticked; with any other value it is not. -/
def tickedValue : String := "true"

/-! ## Bindings -/

/-- A field bound to its state. -/
structure Binding where
  /-- The state key, which is also the name and the identifier of the control. -/
  key : String
  label : String
  /-- The label as it is shown beside the control. -/
  displayLabel : String
  required : Bool
  control : Control
  deriving Repr, DecidableEq

def Binding.ofField (f : Field) : Binding where
  key := f.stateKey
  label := f.label
  displayLabel := Text.capitalize f.label
  required := f.required
  control := .ofKind f.kind

/-- Two fields with one state key. -/
structure Collision where
  key : String
  /-- The label of the earlier field. -/
  first : String
  /-- The label of the later field. -/
  second : String
  deriving Repr, DecidableEq

/-! ## Headings -/

/-- A space before each ASCII capital of some characters. -/
def spaceCapitals (cs : List Char) : List Char :=
  cs.flatMap fun c => if c.isUpper then [' ', c] else [c]

/-- A label with a space before each ASCII capital that is not its first character. -/
def spaced (label : String) : String :=
  match label.toList with
  | [] => ""
  | c :: cs => String.ofList (c :: spaceCapitals cs)

/-- The heading of a form without fields. -/
def untitled : String := "Form"

/-- The heading of a form: its first label, taken apart at the capitals. -/
def headingOf : List Field → String
  | [] => untitled
  | f :: _ => spaced f.label

/-! ## The form -/

/-- A form as its generated code sees it. -/
structure Form where
  heading : String
  bindings : List Binding
  validation : Plan
  deriving Repr, DecidableEq

namespace Form

def ofFields (fs : List Field) : Form where
  heading := headingOf fs
  bindings := fs.map Binding.ofField
  validation := Plan.ofFields fs

/-- The state keys, one for each field. -/
def keys (f : Form) : List String := f.bindings.map (·.key)

/-- The first binding whose key was seen before, with the label that came with that key. -/
def collisionAfter (seen : List (String × String)) : List Binding → Option Collision
  | [] => none
  | b :: bs =>
    match seen.lookup b.key with
    | some first => some ⟨b.key, first, b.label⟩
    | none => collisionAfter ((b.key, b.label) :: seen) bs

/-- The first field whose key an earlier field has, together with that field. -/
def collision? (f : Form) : Option Collision := collisionAfter [] f.bindings

end Form

end Formwork
