import Formwork.Description
import Formwork.Form
import Formwork.Json

/-!
# Reports

What a description says, as JSON: its fields, their state keys and the rules of its plan.
-/

namespace Formwork

/-- The reading of a description. -/
structure Report where
  fields : List Field
  keys : List String
  validation : Plan
  deriving Repr, DecidableEq

namespace Report

/-- The report on a description. -/
def ofText (text : String) : Except LineError Report := do
  let fs ← Description.read text
  let form := Form.ofFields fs
  return ⟨fs, form.keys, form.validation⟩

/-! ## As JSON -/

def fieldJson (f : Field) : Json :=
  .object [("label", .string f.label), ("kind", .string f.kind.tag), ("required", .bool f.required)]

def constraintJson : Constraint → Json
  | .email => .string "email"
  | .url => .string "url"
  | .tel => .string "tel"
  | .minLength n => .object [("min_length", .number n)]

def checkJson : Check → Json
  | .presence => .object [("check", .string "presence")]
  | .format c => .object [("check", .string "format"), ("rule", constraintJson c)]

def ruleJson (r : Rule) : Json :=
  .object [("key", .string r.key), ("check", checkJson r.check), ("message", .string r.message)]

def toJson (r : Report) : Json :=
  .object [
    ("fields", .array (r.fields.map fieldJson)),
    ("keys", .array (r.keys.map .string)),
    ("validation", .object [("rules", .array (r.validation.rules.map ruleJson))])]

/-- The report as text. -/
def render (r : Report) : String := r.toJson.pretty

end Report

end Formwork
