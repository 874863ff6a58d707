import Formwork.Component.Code
import Formwork.Proofs.Script.Member
import Formwork.Proofs.Source.Lines
import Formwork.Proofs.Validation.Agreement

/-!
# Reading validation statements

A reader for the statements with which a generated component validates its fields: a rule on one
line or on three, back from its text. It knows nothing of how `ruleStatement` puts a statement
together.

* `presence?` — the rule of a statement on one line.
* `format?` — the rule of a statement on three lines. Its condition is read as one on the very text of
  the value in front of it.
* `rules?` — the rules of a sequence of statements. A line is tried as a statement of its own first;
  the `!` tells the two forms apart, so the order does not matter.
-/

namespace Formwork.Component

open Script (behind? behind?_eq_some_iff member member? member?_member breaks_append)

/-! ## The reader -/

/-- What stands in front of some characters at the end of a text. -/
def before? (ending cs : List Char) : Option (List Char) :=
  (behind? ending.reverse cs.reverse).map List.reverse

/-- The key and the message of an assignment to a property of `nextErrors`. -/
def assignment? (cs : List Char) : Option (String × String) := do
  let (key, rest) ← member? "nextErrors" cs
  let rest ← behind? " = ".toList rest
  let (message, rest) ← Json.literal? rest
  if rest = [';'] then some (key, message) else none

/-- The rule of a statement on one line. -/
def presence? (line : List Char) : Option Rule := do
  let rest ← behind? "if (!".toList line
  let (key, rest) ← member? "formData" rest
  let rest ← behind? ") ".toList rest
  let (slot, message) ← assignment? rest
  if slot = key then some ⟨key, .presence, message⟩ else none

/-- The constraint with a violation. -/
def constraint? : Script.Condition → Option Constraint
  | .shorterThan n => some (.minLength n)
  | cond => [.email, .url, .tel].find? fun c => c.violation = cond

/-- The rule of a statement on three lines. -/
def format? (opening inner closing : List Char) : Option Rule := do
  let guard ← behind? "if (".toList opening
  let (key, rest) ← member? "formData" guard
  let value := guard.take (guard.length - rest.length)
  let rest ← behind? " && ".toList rest
  let condition ← before? ") \x7b".toList rest
  let cond ← Script.Condition.read? (String.ofList value) (String.ofList condition)
  let c ← constraint? cond
  let (slot, message) ← assignment? inner
  if slot = key ∧ closing = ['}'] then some ⟨key, .format c, message⟩ else none

/-- The rules of some statements, given by their lines. -/
def rules? : List (List Char) → Option (List Rule)
  | [] => some []
  | line :: lines =>
    match presence? line with
    | some r => (rules? lines).map (r :: ·)
    | none =>
      match lines with
      | inner :: closing :: rest =>
        (format? line inner closing).bind fun r => (rules? rest).map (r :: ·)
      | _ => none

/-! ## Parts of a statement -/

theorem before?_append (cs ending : List Char) : before? ending (cs ++ ending) = some cs := by
  unfold before?
  rw [List.reverse_append, behind?_eq_some_iff.mpr rfl, Option.map_some, List.reverse_reverse]

theorem constraint?_violation (c : Constraint) : constraint? c.violation = some c := by
  cases c <;> rfl

/-- The text of an assignment to the slot of a key. -/
def assignment (key message : String) : String :=
  member "nextErrors" key ++ " = " ++ Json.quote message ++ ";"

theorem assignment?_assignment (key message : String) :
    assignment? (assignment key message).toList = some (key, message) := by
  have hs : (assignment key message).toList = (member "nextErrors" key).toList ++
      (" = ".toList ++ ((Json.quote message).toList ++ [';'])) := by
    simp [assignment]
  have hm := member?_member "nextErrors" key
    (breaks_append " = ".toList (by decide) ((Json.quote message).toList ++ [';']))
  unfold assignment?
  rw [hs, hm]
  simp only [Option.bind_eq_bind, Option.bind_some, behind?_eq_some_iff.mpr rfl,
    Json.literal?_quote]
  rfl

theorem presence?_statement (key message : String) :
    presence? ("if (!" ++ member "formData" key ++ ") " ++ assignment key message).toList =
      some ⟨key, .presence, message⟩ := by
  have hs : ("if (!" ++ member "formData" key ++ ") " ++ assignment key message).toList =
      "if (!".toList ++ ((member "formData" key).toList ++
        (") ".toList ++ (assignment key message).toList)) := by
    simp
  have hm := member?_member "formData" key
    (breaks_append ") ".toList (by decide) (assignment key message).toList)
  unfold presence?
  rw [hs, behind?_eq_some_iff.mpr rfl]
  simp only [Option.bind_eq_bind, Option.bind_some, hm, behind?_eq_some_iff.mpr rfl,
    assignment?_assignment, if_true]

example : presence? "if (!formData[\"a b\"]) nextErrors[\"a b\"] = \"\\n\";".toList =
    some ⟨"a b", .presence, "\n"⟩ := by decide

/-- The first line of a statement on three lines. -/
def guard (key : String) (c : Constraint) : String :=
  "if (" ++ member "formData" key ++ " && " ++ c.violation.source (member "formData" key) ++
    ") \x7b"

theorem toList_guard (key : String) (c : Constraint) :
    (guard key c).toList = "if (".toList ++ ((member "formData" key).toList ++ (" && ".toList ++
      ((c.violation.source (member "formData" key)).toList ++ ") \x7b".toList))) := by
  simp [guard]

theorem format?_statement (key message : String) (c : Constraint) :
    format? (guard key c).toList (assignment key message).toList ['}'] =
      some ⟨key, .format c, message⟩ := by
  have hm := member?_member "formData" key (breaks_append " && ".toList (by decide)
    ((c.violation.source (member "formData" key)).toList ++ ") \x7b".toList))
  -- the guard without what follows its access is the text of the value
  have hvalue : ∀ cs ds : List Char, (cs ++ ds).take ((cs ++ ds).length - ds.length) = cs := by
    intro cs ds
    rw [List.length_append, Nat.add_sub_cancel, List.take_left]
  unfold format?
  rw [toList_guard, behind?_eq_some_iff.mpr rfl]
  simp only [Option.bind_eq_bind, Option.bind_some, hm, hvalue, behind?_eq_some_iff.mpr rfl,
    before?_append, String.ofList_toList, Constraint.read?_violation, constraint?_violation,
    assignment?_assignment, and_self, if_true]

/-- The `!` tells a statement on one line from one on three. -/
theorem presence?_guard (key : String) (c : Constraint) :
    presence? (guard key c).toList = none := by
  have hb : behind? "if (!".toList (guard key c).toList = none := by
    obtain ⟨cs, hcs⟩ := Script.exists_toList_member "formData" key
    rw [toList_guard, hcs]
    rfl
  unfold presence?
  rw [hb]
  rfl

/-! ## Statements -/

/-- The lines of a rule's statement. -/
def ruleLines (r : Rule) : List (List Char) :=
  (Outline.textsAll (ruleStatement r)).map String.toList

theorem ruleLines_presence (key message : String) : ruleLines ⟨key, .presence, message⟩ =
    [("if (!" ++ member "formData" key ++ ") " ++ assignment key message).toList] := rfl

theorem ruleLines_format (key message : String) (c : Constraint) :
    ruleLines ⟨key, .format c, message⟩ =
      [(guard key c).toList, (assignment key message).toList, ['}']] := rfl

theorem rules?_cons_of_presence {line : List Char} {r : Rule} (h : presence? line = some r)
    (lines : List (List Char)) : rules? (line :: lines) = (rules? lines).map (r :: ·) := by
  rw [rules?.eq_def (line :: lines)]
  simp only [h]

/-- **Rules are read back** from the lines of their statements. -/
theorem rules?_flatMap_ruleLines (rs : List Rule) : rules? (rs.flatMap ruleLines) = some rs := by
  induction rs with
  | nil => rfl
  | cons r rs ih =>
    obtain ⟨key, check, message⟩ := r
    cases check with
    | presence =>
      rw [List.flatMap_cons, ruleLines_presence, List.singleton_append,
        rules?_cons_of_presence (presence?_statement key message), ih]
      rfl
    | format c =>
      rw [List.flatMap_cons, ruleLines_format]
      show rules? ((guard key c).toList :: (assignment key message).toList :: ['}'] ::
        rs.flatMap ruleLines) = _
      rw [rules?, presence?_guard, format?_statement, ih]
      rfl

end Formwork.Component
