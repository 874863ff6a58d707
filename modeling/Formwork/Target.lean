import Formwork.Text.Basic

/-!
# Targets

What a form is generated as: a plain HTML form, or a React component in TypeScript.
-/

namespace Formwork

/-- The kinds of generated code. -/
inductive Target
  | html
  | react
  deriving Repr, DecidableEq

/-- A name that no target has. -/
structure UnknownTarget where
  /-- The name as it was given. -/
  name : String
  deriving Repr, DecidableEq

def UnknownTarget.message (e : UnknownTarget) : String :=
  "Unknown output format '" ++ e.name ++ "' (expected html or react)"

namespace Target

/-- The target of a user who names none. -/
def standard : Target := react

def name : Target → String
  | html => "html"
  | react => "react"

/-- The names of targets in small letters. A component also answers to the names of its files. -/
def names : List (String × Target) :=
  [("html", html), ("react", react), ("jsx", react), ("tsx", react)]

/-- A text with its ASCII capitals as small letters. -/
def asciiLower (s : String) : String := s.map Char.toLower

/-- The target with a name, in letters of either case and with blanks around it. -/
def ofName (s : String) : Except UnknownTarget Target :=
  match names.lookup (asciiLower (Text.trim s)) with
  | some t => .ok t
  | none => .error ⟨s⟩

/-- The language that an editor shows the code in. -/
def languageId : Target → String
  | html => "html"
  | react => "typescript"

/-- The extension of a file with the code. -/
def extension : Target → String
  | html => "html"
  | react => "tsx"

end Target

end Formwork
