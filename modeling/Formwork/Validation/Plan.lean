import Formwork.Record
import Formwork.Validation.Constraint

/-!
# Validation plans

A plan is the list of rules that a form runs over its values. A mandatory field yields a presence
rule, and its kind may add a format rule, in this order.

Every rule runs, and a rule that fails overwrites the message that an earlier rule left for the same
key. So of several failing rules the **last** one is reported: a mandatory e-mail field that holds
`abc` says that the address is invalid. Format rules look only at values that are not empty.

* `Plan.ofFields` — the plan of a form.
* `Plan.run` — the messages that a plan leaves for some values.
-/

namespace Formwork

/-- What a rule checks. -/
inductive Check
  /-- The value is not empty. -/
  | presence
  /-- The value is empty or satisfies a constraint. -/
  | format (c : Constraint)
  deriving Repr, DecidableEq

/-- A rule on the value under one key. -/
structure Rule where
  key : String
  check : Check
  /-- What is reported when the rule fails. -/
  message : String
  deriving Repr, DecidableEq

namespace Rule

/-- Whether the rule fails for a value. -/
def fails (r : Rule) (value : String) : Bool :=
  match r.check with
  | .presence => value.isEmpty
  | .format c => !value.isEmpty && !c.accepts value

/-- The presence rule of a field. -/
def presence (f : Field) : Rule := ⟨f.stateKey, .presence, f.label ++ " is required"⟩

/-- The rule that holds a field to a constraint. -/
def format (f : Field) (c : Constraint) : Rule := ⟨f.stateKey, .format c, c.message⟩

/-- The rules of a field. -/
def ofField (f : Field) : List Rule :=
  (if f.required then [presence f] else []) ++ ((Constraint.ofKind? f.kind).map (format f)).toList

end Rule

/-- The rules of a form, in the order in which they run. -/
structure Plan where
  rules : List Rule
  deriving Repr, DecidableEq

/-- The messages that a run of a plan leaves, an empty one for a key without complaint. -/
structure Outcome where
  errors : Record
  deriving Repr, DecidableEq

namespace Outcome

/-- Nothing is reported. -/
def isValid (o : Outcome) : Bool := o.errors.entries.all (·.2.isEmpty)

/-- The message for a key, unless it is empty. -/
def error? (o : Outcome) (key : String) : Option String :=
  (o.errors.get? key).filter (!·.isEmpty)

end Outcome

namespace Plan

/-- The plan of a form. -/
def ofFields (fs : List Field) : Plan := ⟨fs.flatMap Rule.ofField⟩

/-- The rules on one key. -/
def rulesOn (p : Plan) (key : String) : List Rule := p.rules.filter (·.key == key)

def isEmpty (p : Plan) : Bool := p.rules.isEmpty

/-- The messages after one rule has run. -/
def runRule (values errors : Record) (r : Rule) : Record :=
  if r.fails (values.text r.key) then errors.set r.key r.message else errors

/-- The messages that the plan leaves. Every key in `keys` has a slot from the start, and a value
that is missing reads as the empty text. -/
def run (p : Plan) (keys : List String) (values : Record) : Outcome :=
  ⟨p.rules.foldl (runRule values) (Record.blank keys)⟩

end Plan

end Formwork
