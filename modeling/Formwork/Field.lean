import Formwork.Text.Case

/-!
# Fields

A form field is a label, a kind and whether a value is mandatory. The vocabulary of kinds is open:
a tag outside the known ones is kept as it was written and makes a plain input.

* `Kind.ofTag`, `Kind.tag` — the kinds and their tags.
* `Field.stateKey` — the key under which a generated form keeps the field's value.
* `Field.line` — a field in the notation of a form description.
* `FieldDraft` — a field as it is being edited.
-/

namespace Formwork

/-- What a field holds. -/
inductive Kind
  | text
  | email
  | password
  | number
  | textarea
  | checkbox
  | tel
  | url
  | date
  | file
  /-- A tag outside the known ones. -/
  | other (tag : String)
  deriving Repr, DecidableEq

namespace Kind

/-- The kinds that a type selector offers, in its order. -/
def known : List Kind :=
  [text, email, password, number, textarea, checkbox, tel, url, date, file]

/-- The tag of a kind in a form description. -/
def tag : Kind → String
  | text => "text"
  | email => "email"
  | password => "password"
  | number => "number"
  | textarea => "textarea"
  | checkbox => "checkbox"
  | tel => "tel"
  | url => "url"
  | date => "date"
  | file => "file"
  | other t => t

/-- The kind with a tag; tags are case-sensitive. -/
def ofTag (t : String) : Kind := (known.find? (·.tag == t)).getD (other t)

/-- Whether a kind is one of the known ones. -/
def isKnown : Kind → Bool
  | other _ => false
  | _ => true

theorem tag_ofTag (t : String) : (ofTag t).tag = t := by
  unfold ofTag
  cases h : known.find? (·.tag == t) with
  | none => rfl
  | some k => simpa using List.find?_some h

end Kind

/-- The word that says whether a field is mandatory. -/
def requirementWord (required : Bool) : String := if required then "required" else "optional"

/-- A form field. -/
structure Field where
  label : String
  kind : Kind
  required : Bool
  deriving Repr, DecidableEq

namespace Field

/-- The key of a field's value in a generated form: its label in lower case. Labels that differ
only in case share a key. -/
def stateKey (f : Field) : String := Text.lower f.label

/-- The field as a line of a form description. -/
def line (f : Field) : String :=
  f.label ++ " (" ++ f.kind.tag ++ ", " ++ requirementWord f.required ++ ")"

end Field

/-- A field as it is being edited: its kind is still the text of a tag. -/
structure FieldDraft where
  label : String
  kind : String
  required : Bool
  deriving Repr, DecidableEq

namespace FieldDraft

/-- The field that a row stands for, with its texts as they are. -/
def toField (r : FieldDraft) : Field := ⟨r.label, Kind.ofTag r.kind, r.required⟩

/-- The row as a line of a form description. -/
def line (r : FieldDraft) : String :=
  r.label ++ " (" ++ r.kind ++ ", " ++ requirementWord r.required ++ ")"

/-- A row and its field are the same line. -/
theorem line_toField (r : FieldDraft) : r.toField.line = r.line := by
  simp only [Field.line, line, toField, Kind.tag_ofTag]

end FieldDraft

end Formwork
