import Formwork.Component.Page

/-!
# The code of a component

A generated component keeps a text for each field in `formData` and a message for each in `errors`,
under the state keys, and a flag `isSubmitting`. Submitting runs the validation plan, and without
complaint goes through a pretended request back to the empty form.

* `ruleStatement` — the statement of a rule.
* `code` — the whole module.
-/

namespace Formwork.Component

open Outline (block ofLines)

/-! ## State -/

/-- An object with an empty text under each state key. -/
def blankRecord (f : Form) : String :=
  if f.bindings.isEmpty then "\x7b\x7d"
  else "\x7b " ++
    ", ".intercalate (f.keys.map fun k => Script.propertyKey k ++ ": \"\"") ++ " \x7d"

/-- The declaration of an interface with a text under each state key. -/
def recordInterface (name : String) (f : Form) : List Outline :=
  if f.bindings.isEmpty then [.line ("interface " ++ name ++ " \x7b\x7d")]
  else block ("interface " ++ name ++ " \x7b") "\x7d"
    (ofLines (f.keys.map fun k => Script.propertyKey k ++ ": string;"))

/-- The declarations of the component's state. -/
def stateHooks (f : Form) : List Outline := ofLines [
  "const [formData, setFormData] = useState<FormData>(" ++ blankRecord f ++ ");",
  "const [errors, setErrors] = useState<FormErrors>(" ++ blankRecord f ++ ");",
  "const [isSubmitting, setIsSubmitting] = useState(false);"]

/-! ## Validation -/

/-- The statement of a rule. The statements do not stop at a failure, so a later one that fails
overwrites the message of an earlier one. -/
def ruleStatement (r : Rule) : List Outline :=
  let value := Script.member "formData" r.key
  let assignment := Script.member "nextErrors" r.key ++ " = " ++ Json.quote r.message ++ ";"
  match r.check with
  | .presence => [.line ("if (!" ++ value ++ ") " ++ assignment)]
  | .format c =>
    block ("if (" ++ value ++ " && " ++ c.violation.source value ++ ") \x7b") "\x7d"
      [.line assignment]

/-- The function that runs the plan. -/
def validator (f : Form) : List Outline :=
  block "const validateForm = (): boolean => \x7b" "\x7d;"
    (.line ("const nextErrors: FormErrors = " ++ blankRecord f ++ ";") ::
      f.validation.rules.flatMap ruleStatement ++
      ofLines [
        "setErrors(nextErrors);",
        "return Object.values(nextErrors).every(error => !error);"])

/-! ## Handlers -/

/-- The handler of a change to a control: it stores the value and clears the message. -/
def changeHandler : List Outline :=
  block
    "const handleChange = (e: ChangeEvent<HTMLInputElement | HTMLTextAreaElement>) => \x7b" "\x7d;"
    (ofLines [
        "const \x7b name, value, type \x7d = e.target;",
        "const val = type === \"checkbox\" ? " ++
          "(e.target as HTMLInputElement).checked.toString() : value;",
        "setFormData(prev => (\x7b ...prev, [name]: val \x7d));"] ++
      block "if (errors[name as keyof FormErrors]) \x7b" "\x7d"
        [.line "setErrors(prev => (\x7b ...prev, [name]: \"\" \x7d));"])

/-- The handler of a submission. -/
def submitHandler (f : Form) (delay : Nat) : List Outline :=
  block "const handleSubmit = async (e: FormEvent<HTMLFormElement>) => \x7b" "\x7d;"
    (ofLines [
        "e.preventDefault();",
        "if (!validateForm()) return;",
        "",
        "setIsSubmitting(true);"] ++
      block "try \x7b" "\x7d catch (error) \x7b"
        (ofLines [
          "await new Promise(resolve => setTimeout(resolve, " ++ toString delay ++ "));",
          "console.log(\"Form submitted:\", formData);",
          "setFormData(" ++ blankRecord f ++ ");",
          "setErrors(" ++ blankRecord f ++ ");",
          "alert(\"Form submitted successfully!\");"]) ++
      .deeper (ofLines [
          "console.error(\"Error submitting form:\", error);",
          "alert(\"Error submitting form. Please try again.\");"]) ::
      block "\x7d finally \x7b" "\x7d" [.line "setIsSubmitting(false);"])

/-! ## The whole -/

/-- The body of the component. -/
def body (o : Options) (f : Form) : List Outline :=
  stateHooks f ++ .blank ::
    validator f ++ .blank ::
    changeHandler ++ .blank ::
    submitHandler f o.submitDelay ++ .blank ::
    block "return (" ");" ((page o f).outline .jsx)

/-- The module of a component. -/
def code (o : Options) (f : Form) : List Outline :=
  .line "import \x7b useState, FormEvent, ChangeEvent \x7d from \"react\";" :: .blank ::
    recordInterface "FormData" f ++ .blank ::
    recordInterface "FormErrors" f ++ .blank ::
    block ("export default function " ++ o.resolvedName ++ "() \x7b") "\x7d" (body o f)

/-- The component of a form, whether or not state keys collide. -/
def render (o : Options) (fs : List Field) : String := Outline.render (code o (Form.ofFields fs))

end Formwork.Component
