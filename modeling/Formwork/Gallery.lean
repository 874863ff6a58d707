import Formwork.Description

/-!
# The template gallery

Named starting points for a form, in the order in which a gallery shows them, and their listing for
a terminal.

* `Template.gallery`, `Template.find?` — the built-in templates and the look-up by key.
* `Template.listing` — one line per template, with the icons in one column.
-/

namespace Formwork

/-- A named starting point for a form. -/
structure Template where
  /-- The name to look the template up by. -/
  key : String
  name : String
  icon : String
  description : String
  fields : List FieldDraft
  deriving Repr, DecidableEq

namespace Template

/-- The built-in templates. -/
def gallery : List Template := [
  { key := "blank"
    name := "Blank Form"
    icon := "⚡"
    description := "Start with a clean slate"
    fields := [] },
  { key := "login"
    name := "Login Form"
    icon := "🔐"
    description := "User authentication form"
    fields := [⟨"Email", "email", true⟩, ⟨"Password", "password", true⟩] },
  { key := "registration"
    name := "Registration Form"
    icon := "👤"
    description := "New user signup form"
    fields := [⟨"FullName", "text", true⟩, ⟨"Email", "email", true⟩,
      ⟨"Password", "password", true⟩, ⟨"ConfirmPassword", "password", true⟩,
      ⟨"DateOfBirth", "date", false⟩, ⟨"AcceptTerms", "checkbox", true⟩] },
  { key := "contact"
    name := "Contact Form"
    icon := "✉️"
    description := "Get in touch form"
    fields := [⟨"Name", "text", true⟩, ⟨"Email", "email", true⟩, ⟨"Subject", "text", true⟩,
      ⟨"Message", "textarea", true⟩] },
  { key := "newsletter"
    name := "Newsletter Subscription"
    icon := "📫"
    description := "Email subscription form"
    fields := [⟨"Email", "email", true⟩, ⟨"Name", "text", false⟩,
      ⟨"Preferences", "checkbox", false⟩] },
  { key := "profile"
    name := "Profile Form"
    icon := "🎯"
    description := "User profile form"
    fields := [⟨"Avatar", "file", false⟩, ⟨"FullName", "text", true⟩,
      ⟨"Bio", "textarea", false⟩, ⟨"Website", "url", false⟩, ⟨"Phone", "tel", false⟩] }]

/-- The template of the gallery with a key. -/
def find? (key : String) : Option Template := gallery.find? (·.key == key)

theorem find?_key_of_mem : ∀ t ∈ gallery, find? t.key = some t := by decide

theorem find?_eq_none_iff {key : String} : find? key = none ↔ key ∉ gallery.map (·.key) := by
  rw [find?, List.find?_eq_none]
  simp

theorem mem_gallery_of_find? {key : String} {t : Template} (h : find? key = some t) :
    t ∈ gallery ∧ t.key = key :=
  ⟨List.mem_of_find?_eq_some h, by simpa using List.find?_some h⟩

/-- The fields of a template. -/
def toFields (t : Template) : List Field := t.fields.map FieldDraft.toField

/-- A template as a form description. -/
def toDescription (t : Template) : String := Description.ofFields t.toFields

/-! ## The listing -/

/-- The room that a listing reserves for the keys: the most bytes that a key takes in UTF-8. -/
def keyWidth (ts : List Template) : Nat := (ts.map (·.key.utf8ByteSize)).foldl max 0

/-- A text filled up with spaces to a number of characters. -/
def padRight (width : Nat) (s : String) : String :=
  s ++ String.ofList (List.replicate (width - s.length) ' ')

/-- The number of fields, in words. -/
def fieldCount (t : Template) : String :=
  toString t.fields.length ++ if t.fields.length = 1 then " field" else " fields"

/-- The entry of a template in a listing. -/
def entry (width : Nat) (t : Template) : String :=
  padRight width t.key ++ "  " ++ t.icon ++ " " ++ t.name ++ " (" ++ fieldCount t ++ ") - " ++
    t.description ++ "\n"

/-- One entry per template. -/
def listing (ts : List Template) : String := String.join (ts.map (entry (keyWidth ts)))

end Template

end Formwork
