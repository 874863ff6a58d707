import Formwork.Component.Code
import Formwork.Gallery
import Formwork.Target

/-!
# Generating code

From fields, a form description or a template to the code of a target.

* `HtmlForm.render` — a plain HTML form: a labelled input per field and a button to submit.
  Validation is left to the browser, which knows the `required` attribute.
* `Target.generate` — the code for fields. Only components in strict mode refuse some forms.
* `Description.generate`, `Template.generate` — the code for a description and for a template.
-/

namespace Formwork

/-! ## HTML forms -/

namespace HtmlForm

open Markup

/-- The input of a field. -/
def input (f : Field) : Element :=
  .mk "input" (attr "type" f.kind.tag :: switch "required" f.required) []

/-- The label of a field with its input. -/
def labelled (f : Field) : Element :=
  .mk "label" [] [.text (f.label ++ ": "), .element (input f)]

def button : Element := .mk "button" [attr "type" "submit"] [.text "Submit"]

/-- The markup of a form. -/
def tree (fs : List Field) : Element :=
  .mk "form" [] (fs.map (fun f => .element (labelled f)) ++ [.element button])

/-- The form as text. -/
def render (fs : List Field) : String := (tree fs).render .html

end HtmlForm

/-! ## Targets -/

/-- Why there is no code. -/
inductive GenerateError
  /-- A line of the description is no field. -/
  | line (e : LineError)
  /-- Two fields share a state key, in strict mode. -/
  | collision (c : Collision)
  /-- The gallery has no template with the key. -/
  | unknownTemplate (key : String)
  deriving Repr, DecidableEq

def GenerateError.message : GenerateError → String
  | line e => e.message
  | collision c =>
    "Fields '" ++ c.first ++ "' and '" ++ c.second ++ "' both map to the state key '" ++ c.key ++ "'"
  | unknownTemplate key => "Unknown template: " ++ key

/-- The component of a form, unless the options refuse it. -/
def Component.generate (o : Component.Options) (fs : List Field) : Except GenerateError String :=
  match if o.strictKeys then (Form.ofFields fs).collision? else none with
  | some c => .error (.collision c)
  | none => .ok (Component.render o fs)

/-- The code of a form. The options are about components only. -/
def Target.generate (o : Component.Options) (fs : List Field) : Target → Except GenerateError String
  | .html => .ok (HtmlForm.render fs)
  | .react => Component.generate o fs

/-- The code of a form description. -/
def Description.generate (text : String) (t : Target) (o : Component.Options) :
    Except GenerateError String := do
  let fs ← (Description.read text).mapError .line
  t.generate o fs

/-- The code of the template with a key. -/
def Template.generate (key : String) (t : Target) (o : Component.Options) :
    Except GenerateError String :=
  match Template.find? key with
  | some template => t.generate o template.toFields
  | none => .error (.unknownTemplate key)

/-! ## Steps that can fail -/

section

variable {ε δ α β : Type} {x : Except ε α}

theorem bind_eq_ok_iff {f : α → Except ε β} {b : β} :
    (x >>= f) = .ok b ↔ ∃ a, x = .ok a ∧ f a = .ok b := by
  cases x with
  | error e => simp [bind, Except.bind]
  | ok a => simp [bind, Except.bind]

theorem mapError_eq_ok_iff {f : ε → δ} {a : α} : x.mapError f = .ok a ↔ x = .ok a := by
  cases x with
  | error e => exact iff_of_false (by rintro ⟨⟩) (by rintro ⟨⟩)
  | ok b =>
    show Except.ok b = Except.ok a ↔ _
    rw [Except.ok.injEq, Except.ok.injEq]

end

theorem Template.generate_eq_ok_iff {key code : String} {t : Target} {o : Component.Options} :
    generate key t o = .ok code ↔
      ∃ template, find? key = some template ∧ t.generate o template.toFields = .ok code := by
  unfold generate
  cases find? key <;> simp

end Formwork
