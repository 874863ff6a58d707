import Formwork.Generate

/-!
# The panel

A panel holds the rows of a form that is being edited, the template they came from and whether a
preview is shown. Code is generated from the rows in the way of a user who types the description:
the rows are written down as lines, and the lines are read.

* `Panel.perform` — what an action does, and what it answers. An action that fails leaves the panel
  as it was.
* `Panel.generate` — the code of the rows.
* `Panel.Request` — what a user chooses when asking for code. Anything may be left open.
-/

namespace Formwork

/-- The state of a panel. -/
structure Panel where
  /-- The key of the template that was selected last. -/
  selected : String
  rows : List FieldDraft
  previewShown : Bool
  deriving Repr, DecidableEq

/-- Why a panel refuses an action. -/
inductive PanelError
  /-- Code is asked for without a row. -/
  | noFields
  /-- There is no row at the index. -/
  | rowOutOfRange (index : Nat)
  | generate (e : GenerateError)
  deriving Repr, DecidableEq

def PanelError.message : PanelError → String
  | noFields => "Please add at least one field to generate the form."
  | rowOutOfRange i => "No field row at index " ++ toString i
  | generate e => e.message

namespace Panel

/-- The tags that a row's type is chosen from. -/
def offeredTags : List String := Kind.known.map Kind.tag

/-- A row that was just added. -/
def newRow : FieldDraft := ⟨"", Kind.text.tag, true⟩

/-- The template that is selected when a panel opens. -/
def initialTemplate : String := "blank"

/-- A panel that was just opened. -/
def start : Panel := ⟨initialTemplate, [], false⟩

def isEmpty (p : Panel) : Bool := p.rows.isEmpty

/-- The rows as a form description. -/
def description (p : Panel) : String := "\n".intercalate (p.rows.map FieldDraft.line)

/-- The preview, while it is shown. -/
def preview? (p : Panel) : Option String := if p.previewShown then some p.description else none

/-- The code of the rows. -/
def generate (p : Panel) (t : Target) (o : Component.Options) : Except PanelError String :=
  if p.rows.isEmpty then .error .noFields
  else (Description.generate p.description t o).mapError .generate

/-! ## Actions -/

/-- What a user does with a panel. -/
inductive Action
  /-- Replaces the rows by those of a template. -/
  | select (key : String)
  /-- Adds a new row at the end. -/
  | add
  | remove (index : Nat)
  | update (index : Nat) (row : FieldDraft)
  /-- Removes all rows. -/
  | clear
  /-- Shows the preview or hides it. -/
  | toggle
  | generate (target : Target) (options : Component.Options)
  deriving Repr, DecidableEq

/-- What a panel answers. -/
inductive Answer
  /-- The action was carried out. -/
  | done
  /-- Whether the template is there, or whether the preview is now shown. -/
  | flag (b : Bool)
  /-- The index of the row that was added. -/
  | index (n : Nat)
  /-- The row that was removed. -/
  | row (r : FieldDraft)
  | code (text : String)
  deriving Repr, DecidableEq

/-- The panel after an action, and the answer. -/
def perform (p : Panel) : Action → Panel × Except PanelError Answer
  | .select key =>
    match Template.find? key with
    | some t => ({ p with selected := t.key, rows := t.fields }, .ok (.flag true))
    | none => (p, .ok (.flag false))
  | .add => ({ p with rows := p.rows ++ [newRow] }, .ok (.index p.rows.length))
  | .remove i =>
    match p.rows[i]? with
    | some r => ({ p with rows := p.rows.eraseIdx i }, .ok (.row r))
    | none => (p, .error (.rowOutOfRange i))
  | .update i r =>
    if i < p.rows.length then ({ p with rows := p.rows.set i r }, .ok .done)
    else (p, .error (.rowOutOfRange i))
  | .clear => ({ p with rows := [] }, .ok .done)
  | .toggle => ({ p with previewShown := !p.previewShown }, .ok (.flag (!p.previewShown)))
  | .generate t o => (p, (p.generate t o).map .code)

/-- The panel after some actions. -/
def run (p : Panel) (as : List Action) : Panel := as.foldl (fun p a => (p.perform a).1) p

/-! ## Requests -/

/-- The choices of a user. -/
structure Request where
  /-- The name of a target. -/
  target : Option String
  componentName : Option String
  strictKeys : Option Bool
  deriving Repr, DecidableEq

/-- The options that a request stands for. -/
def Request.options (r : Request) : Component.Options :=
  let o := Component.Options.standard
  { o with
    name := r.componentName.getD o.name
    strictKeys := r.strictKeys.getD o.strictKeys }

/-- The target and the options that a request stands for. -/
def Request.resolve (r : Request) : Except UnknownTarget (Target × Component.Options) := do
  let t ← match r.target with
    | some name => Target.ofName name
    | none => .ok Target.standard
  return (t, r.options)

end Panel

end Formwork
