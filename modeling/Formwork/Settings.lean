import Formwork.Component.Options
import Formwork.Target
import Formwork.Toml.Document

/-!
# Settings

Defaults for generated code, from the section `generate` of a TOML file. What a file leaves open
stays open, and keys that mean nothing are ignored.

The section is a table; an array is read as the values of the settings in their order.
-/

namespace Formwork

/-- Defaults that a file may set. -/
structure Settings where
  target : Option Target
  componentName : Option String
  subtitle : Option String
  strictKeys : Option Bool
  submitDelay : Option Nat
  deriving Repr, DecidableEq

/-- The file is no TOML, or it sets a default to something else than it can be. -/
inductive SettingsError
  | malformed
  deriving Repr, DecidableEq

def SettingsError.message : SettingsError → String
  | malformed => "Failed to parse config"

namespace Settings

open Toml

/-- Settings that leave everything open. -/
def unset : Settings := ⟨none, none, none, none, none⟩

/-- The options for a component under the settings. -/
def options (s : Settings) : Component.Options :=
  let o := Component.Options.standard
  { name := s.componentName.getD o.name
    subtitle := s.subtitle.getD o.subtitle
    strictKeys := s.strictKeys.getD o.strictKeys
    submitDelay := s.submitDelay.getD o.submitDelay }

/-! ## The values of settings -/

/-- The target whose name is the text and no other. -/
def targetNamed (s : String) : Option Target := [Target.html, .react].find? (·.name == s)

/-- An array or a table without members. -/
def isVacant : Item → Bool
  | .array [] => true
  | .table _ [] => true
  | .tables [] => true
  | _ => false

/-- A target, by its name or as the only key of a table with nothing under it. -/
def target? : Item → Option Target
  | .text s => targetNamed s
  | .table _ [(key, i)] => if isVacant i then targetNamed key else none
  | _ => none

def text? : Item → Option String
  | .text s => some s
  | _ => none

def flag? : Item → Option Bool
  | .boolean b => some b
  | _ => none

def number? : Item → Option Nat
  | .integer n => if 0 ≤ n then some n.toNat else none
  | _ => none

/-! ## The section -/

/-- The value of a setting, which may be open. -/
def setting? {α : Type} (read : Item → Option α) : Option Item → Option (Option α)
  | none => some none
  | some i => (read i).map some

/-- The settings whose values a look-up finds, by key and by position. -/
def collect (find : String → Nat → Option Item) : Option Settings := do
  return {
    target := ← setting? target? (find "format" 0)
    componentName := ← setting? text? (find "component_name" 1)
    subtitle := ← setting? text? (find "subtitle" 2)
    strictKeys := ← setting? flag? (find "strict_keys" 3)
    submitDelay := ← setting? number? (find "submit_delay_ms" 4) }

/-- The settings in a section. A date counts as a section that sets nothing. -/
def ofSection : Item → Option Settings
  | .table _ es => collect fun key _ => es.lookup key
  | .array xs => collect fun _ i => xs[i]?
  | .tables rows => collect fun _ i => rows[i]?.map fun row => (Table.explicit row).toItem
  | .moment _ => some unset
  | _ => none

/-- The settings in a file. -/
def ofToml (text : String) : Except SettingsError Settings :=
  let settings := do
    let t ← Toml.parse text
    match t.get? "generate" with
    | none => some unset
    | some i => ofSection i
  match settings with
  | some s => .ok s
  | none => .error .malformed

end Settings

end Formwork
