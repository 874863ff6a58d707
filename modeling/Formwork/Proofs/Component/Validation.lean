import Formwork.Proofs.Component.Statements
import Formwork.Proofs.Source.Lines

/-!
# Reading the validation of a component

The plan of a form, read back from the text of its component.

The statements stand between the line that declares `nextErrors` and the line that stores it. Both
are found by their text, so the argument has two halves:

* in front of the declaration no line looks like it (`Front`), although keys and the component's name
  stand there;
* no line of a statement looks like the line at the end, although messages stand there.

None of these lines holds a line feed. The markup behind them may, but it is not reached.

**Main statement**: `readRules_render`.
-/

namespace Formwork.Component

open Outline (textsAll)
open Source (unindented readLines)
open Script (propertyKey)

/-! ## The reader -/

/-- The line declares `nextErrors`. -/
def isDeclaration (line : List Char) : Bool :=
  "const nextErrors: FormErrors = ".toList.isPrefixOf line

/-- The line stores `nextErrors`. -/
def isEnd (line : List Char) : Bool := line = "setErrors(nextErrors);".toList

/-- The lines between the declaration of `nextErrors` and the line that stores it. -/
def validationBlock? (text : String) : Option (List (List Char)) :=
  match (readLines text).dropWhile fun line => !isDeclaration line with
  | [] => none
  | _ :: lines =>
    if lines.any isEnd then some (lines.takeWhile fun line => !isEnd line) else none

/-- The rules that the text of a component spells. -/
def readRules? (text : String) : Option (List Rule) := (validationBlock? text).bind rules?

/-! ## Lines in front of the declaration -/

/-- A line that may stand in front of the declaration. -/
structure Front (text : String) : Prop where
  newline : '\n' ∉ text.toList
  declares : isDeclaration (unindented text.toList) = false

/-- A bare key ends at its colon, and `const` at a space. -/
theorem isDeclaration_property {key : String} (h : Script.isIdentifier key = true) :
    isDeclaration (key.toList ++ ": string;".toList) = false := by
  rw [Bool.eq_false_iff]
  intro hd
  obtain ⟨cs, hcs⟩ := List.isPrefixOf_iff_prefix.mp hd
  -- compare what follows the first word on either side
  have hdrop := congrArg (List.dropWhile Script.isNamePart) hcs
  rw [List.dropWhile_append_of_pos (Script.isNamePart_of_mem h)] at hdrop
  exact absurd (List.cons.inj hdrop).1 (by decide)

theorem front_property (key : String) : Front (propertyKey key ++ ": string;") where
  newline := by simp [Script.newline_notMem_propertyKey]
  declares := by
    rw [String.toList_append]
    unfold propertyKey
    split
    · next h =>
      obtain ⟨c, cs, hs, hc, -⟩ := Script.exists_of_isIdentifier h
      have hblank : c ≠ ' ' := by
        rintro rfl
        exact absurd hc (by decide)
      have hu : unindented (key.toList ++ ": string;".toList) =
          key.toList ++ ": string;".toList := by
        rw [hs, List.cons_append]
        exact List.dropWhile_cons_of_neg (by simpa using hblank)
      rw [hu, isDeclaration_property h]
    · -- a quoted key begins with its quote
      rw [Json.toList_quote]
      rfl

theorem newline_notMem_blankRecord (f : Form) : '\n' ∉ (blankRecord f).toList := by
  unfold blankRecord
  split
  · decide
  · rw [String.toList_append, String.toList_append, String.toList_intercalate]
    have h : '\n' ∉ ", ".toList.intercalate
        ((f.keys.map fun k => propertyKey k ++ ": \"\"").map String.toList) := by
      refine Outline.notMem_intercalate (by decide) fun cs hcs => ?_
      simp only [List.map_map, List.mem_map, Function.comp_apply] at hcs
      obtain ⟨k, -, rfl⟩ := hcs
      simp [Script.newline_notMem_propertyKey]
    simpa using h

/-- A line with a text in the middle is judged by how it begins. -/
theorem front_append {start text ending : String} (hs : '\n' ∉ start.toList)
    (ht : '\n' ∉ text.toList) (he : '\n' ∉ ending.toList)
    (hd : ∀ cs, isDeclaration (unindented (start.toList ++ cs)) = false) :
    Front (start ++ text ++ ending) where
  newline := by simp [hs, ht, he]
  declares := by rw [String.toList_append, String.toList_append, List.append_assoc, hd]

theorem front_stateHooks (f : Form) : ∀ t ∈ textsAll (stateHooks f), Front t := by
  have hn := newline_notMem_blankRecord f
  have hdata : Front
      ("const [formData, setFormData] = useState<FormData>(" ++ blankRecord f ++ ");") :=
    front_append (by decide) hn (by decide) fun _ => rfl
  have herrors : Front
      ("const [errors, setErrors] = useState<FormErrors>(" ++ blankRecord f ++ ");") :=
    front_append (by decide) hn (by decide) fun _ => rfl
  have hsubmitting : Front "const [isSubmitting, setIsSubmitting] = useState(false);" :=
    ⟨by decide, rfl⟩
  intro t ht
  rw [stateHooks, Outline.textsAll_ofLines] at ht
  simp only [List.mem_cons, List.not_mem_nil, or_false] at ht
  rcases ht with rfl | rfl | rfl
  · exact hdata
  · exact herrors
  · exact hsubmitting

theorem isIdentifier_resolvedName (o : Options) : Script.isIdentifier o.resolvedName = true :=
  isIdentifier_resolveName o.name

theorem front_recordInterface {name : String} (hn : '\n' ∉ name.toList) (f : Form) :
    ∀ t ∈ textsAll (recordInterface name f), Front t := by
  intro t ht
  unfold recordInterface at ht
  split at ht
  · simp only [Outline.textsAll_line, Outline.textsAll_nil, List.mem_singleton] at ht
    subst ht
    exact front_append (by decide) hn (by decide) fun _ => rfl
  · simp only [Outline.textsAll_block, Outline.textsAll_ofLines, List.mem_cons, List.mem_append,
      List.mem_map, List.not_mem_nil, or_false] at ht
    rcases ht with rfl | ⟨k, -, rfl⟩ | rfl
    · exact front_append (by decide) hn (by decide) fun _ => rfl
    · exact front_property k
    · exact ⟨by decide, rfl⟩

/-! ## The lines of a component -/

/-- The line that declares `nextErrors`. -/
def declaration (f : Form) : String := "const nextErrors: FormErrors = " ++ blankRecord f ++ ";"

theorem toList_declaration (f : Form) : (declaration f).toList =
    "const nextErrors: FormErrors = ".toList ++ ((blankRecord f).toList ++ ";".toList) := by
  unfold declaration
  rw [String.toList_append, String.toList_append, List.append_assoc]

/-- The texts of the statements of a form's rules. -/
def statementTexts (f : Form) : List String :=
  f.validation.rules.flatMap fun r => textsAll (ruleStatement r)

theorem textsAll_validator (f : Form) : textsAll (validator f) =
    "const validateForm = (): boolean => \x7b" :: declaration f :: (statementTexts f ++
      ["setErrors(nextErrors);", "return Object.values(nextErrors).every(error => !error);",
        "\x7d;"]) := by
  rw [validator, Outline.textsAll_block, Outline.textsAll_append, Outline.textsAll_line,
    Outline.textsAll_flatMap, Outline.textsAll_ofLines]
  simp only [List.cons_append, List.append_assoc, List.nil_append]
  rfl

/-- The texts in front of the function that runs the plan, with its first line. -/
def frontTexts (o : Options) (f : Form) : List String :=
  "import \x7b useState, FormEvent, ChangeEvent \x7d from \"react\";" :: "" ::
    (textsAll (recordInterface "FormData" f) ++ "" ::
      (textsAll (recordInterface "FormErrors" f) ++ "" ::
        ("export default function " ++ o.resolvedName ++ "() \x7b") ::
          (textsAll (stateHooks f) ++ ["", "const validateForm = (): boolean => \x7b"])))

theorem front_of_mem_frontTexts {o : Options} {f : Form} : ∀ t ∈ frontTexts o f, Front t := by
  have himport : Front "import \x7b useState, FormEvent, ChangeEvent \x7d from \"react\";" :=
    ⟨by decide, rfl⟩
  have hblank : Front "" := ⟨by decide, rfl⟩
  have hdata : ∀ t ∈ textsAll (recordInterface "FormData" f), Front t :=
    front_recordInterface (by decide) f
  have herrors : ∀ t ∈ textsAll (recordInterface "FormErrors" f), Front t :=
    front_recordInterface (by decide) f
  have hexport : Front ("export default function " ++ o.resolvedName ++ "() \x7b") :=
    front_append (by decide) (Script.newline_notMem_of_isIdentifier (isIdentifier_resolvedName o))
      (by decide) fun _ => rfl
  have hopening : Front "const validateForm = (): boolean => \x7b" := ⟨by decide, rfl⟩
  intro t ht
  simp only [frontTexts, List.mem_cons, List.mem_append, List.not_mem_nil, or_false] at ht
  rcases ht with rfl | rfl | ht | rfl | ht | rfl | rfl | ht | rfl | rfl
  · exact himport
  · exact hblank
  · exact hdata t ht
  · exact hblank
  · exact herrors t ht
  · exact hblank
  · exact hexport
  · exact front_stateHooks f t ht
  · exact hblank
  · exact hopening

/-- **The lines of a component**: those in front, the declaration, the statements, the end, and more
behind it. -/
theorem textsAll_code (o : Options) (f : Form) : ∃ t post, textsAll (code o f) =
    (frontTexts o f ++ declaration f :: (statementTexts f ++ ["setErrors(nextErrors);"])) ++
      t :: post := by
  refine ⟨"return Object.values(nextErrors).every(error => !error);", ?_⟩
  simp only [code, body, frontTexts, Outline.textsAll_line, Outline.textsAll_blank,
    Outline.textsAll_append, Outline.textsAll_block, textsAll_validator, List.cons_append,
    List.append_assoc, List.nil_append]
  exact ⟨_, rfl⟩

/-! ## The lines of statements -/

/-- A line of a statement. -/
structure Inside (text : String) : Prop where
  newline : '\n' ∉ text.toList
  unindented : unindented text.toList = text.toList
  ends : isEnd text.toList = false

theorem newline_notMem_violation (c : Constraint) {value : String} (hv : '\n' ∉ value.toList) :
    '\n' ∉ (c.violation.source value).toList := by
  have hemail : '\n' ∉ Constraint.emailRegex.source.toList := by decide
  have hurl : '\n' ∉ Constraint.urlRegex.source.toList := by decide
  have htel : '\n' ∉ Constraint.telRegex.source.toList := by decide
  cases c with
  | email => simp [Constraint.violation, Script.Condition.source, hv, hemail]
  | url => simp [Constraint.violation, Script.Condition.source, hv, hurl]
  | tel => simp [Constraint.violation, Script.Condition.source, hv, htel]
  | minLength n =>
    simp [Constraint.violation, Script.Condition.source, hv, newline_notMem_toDigits n]

theorem inside_assignment (key message : String) : Inside (assignment key message) := by
  have hm : '\n' ∉ (Script.member "nextErrors" key).toList :=
    Script.newline_notMem_member (by decide) key
  obtain ⟨cs, hcs⟩ := Script.exists_toList_member "nextErrors" key
  have ht : ∃ ds, (assignment key message).toList = "nextErrors".toList ++ ds :=
    ⟨_, by simp only [assignment, String.toList_append, hcs, List.append_assoc]; rfl⟩
  obtain ⟨ds, hds⟩ := ht
  constructor
  case newline => simp [assignment, hm, Json.newline_notMem_quote]
  case unindented => rw [hds]; rfl
  case ends => rw [hds]; rfl

theorem inside_guard (key : String) (c : Constraint) : Inside (guard key c) := by
  have hm : '\n' ∉ (Script.member "formData" key).toList :=
    Script.newline_notMem_member (by decide) key
  constructor
  case newline =>
    rw [toList_guard]
    simp [hm, newline_notMem_violation c hm]
  case unindented => rw [toList_guard]; rfl
  case ends => rw [toList_guard]; rfl

theorem inside_presence (key message : String) :
    Inside ("if (!" ++ Script.member "formData" key ++ ") " ++ assignment key message) := by
  have hm : '\n' ∉ (Script.member "formData" key).toList :=
    Script.newline_notMem_member (by decide) key
  have ha := (inside_assignment key message).newline
  constructor
  case newline => simp [hm, ha]
  case unindented => simp only [String.toList_append, List.append_assoc]; rfl
  case ends => simp only [String.toList_append, List.append_assoc]; rfl

theorem inside_of_mem_statementTexts {f : Form} : ∀ t ∈ statementTexts f, Inside t := by
  intro t ht
  obtain ⟨⟨key, check, message⟩, -, ht⟩ := List.mem_flatMap.mp ht
  cases check with
  | presence =>
    obtain rfl := List.mem_singleton.mp ht
    exact inside_presence key message
  | format c =>
    have hclosing : Inside "\x7d" := ⟨by decide, rfl, rfl⟩
    have ht : t ∈ [guard key c, assignment key message, "\x7d"] := ht
    simp only [List.mem_cons, List.not_mem_nil, or_false] at ht
    rcases ht with rfl | rfl | rfl
    · exact inside_guard key c
    · exact inside_assignment key message
    · exact hclosing

theorem map_toList_statementTexts (f : Form) :
    (statementTexts f).map String.toList = f.validation.rules.flatMap ruleLines := by
  rw [statementTexts, List.map_flatMap]
  rfl

/-! ## Reading back -/

theorem isDeclaration_declaration (f : Form) :
    isDeclaration (unindented (declaration f).toList) = true := by
  have hu : unindented (declaration f).toList = (declaration f).toList := by
    rw [toList_declaration]
    rfl
  rw [hu, toList_declaration]
  exact List.isPrefixOf_iff_prefix.mpr (List.prefix_append _ _)

theorem map_unindented_statementTexts (f : Form) :
    ((statementTexts f).map fun t => unindented t.toList) =
      f.validation.rules.flatMap ruleLines := by
  rw [← map_toList_statementTexts]
  exact List.map_congr_left fun t ht => (inside_of_mem_statementTexts t ht).unindented

/-- The lines of a component without their margins, as far as the end of the validation. -/
theorem readLines_render (o : Options) (f : Form) : ∃ tail, readLines (Outline.render (code o f)) =
    ((frontTexts o f).map fun t => unindented t.toList) ++
      unindented (declaration f).toList :: (f.validation.rules.flatMap ruleLines ++
        "setErrors(nextErrors);".toList :: tail) := by
  obtain ⟨t, post, hcode⟩ := textsAll_code o f
  have hpre : ∀ t ∈ frontTexts o f ++ declaration f ::
      (statementTexts f ++ ["setErrors(nextErrors);"]), '\n' ∉ t.toList := by
    -- keys and messages are quoted, so none of them breaks a line
    intro t ht
    simp only [List.mem_append, List.mem_cons, List.not_mem_nil, or_false] at ht
    rcases ht with ht | rfl | ht | rfl
    · exact (front_of_mem_frontTexts t ht).newline
    · simp [toList_declaration, newline_notMem_blankRecord]
    · exact (inside_of_mem_statementTexts t ht).newline
    · decide
  obtain ⟨tail, htail⟩ := Outline.exists_readLines_render hcode hpre (List.cons_ne_nil _ _)
  refine ⟨tail, ?_⟩
  rw [htail, List.map_append, List.map_cons, List.map_append, map_unindented_statementTexts]
  simp only [List.append_assoc, List.cons_append, List.map_cons, List.map_nil, List.nil_append]
  rfl

/-- **The block between the declaration and the end is that of the statements.** -/
theorem validationBlock?_render (o : Options) (f : Form) :
    validationBlock? (Outline.render (code o f)) = some (f.validation.rules.flatMap ruleLines) := by
  obtain ⟨tail, hlines⟩ := readLines_render o f
  have hfront : ∀ line ∈ (frontTexts o f).map fun t => unindented t.toList,
      (!isDeclaration line) = true := by
    intro line hline
    obtain ⟨t, ht, rfl⟩ := List.mem_map.mp hline
    rw [(front_of_mem_frontTexts t ht).declares]
    rfl
  have hinside : ∀ line ∈ f.validation.rules.flatMap ruleLines, (!isEnd line) = true := by
    intro line hline
    rw [← map_toList_statementTexts] at hline
    obtain ⟨t, ht, rfl⟩ := List.mem_map.mp hline
    rw [(inside_of_mem_statementTexts t ht).ends]
    rfl
  have hend : isEnd "setErrors(nextErrors);".toList = true := by decide
  have hany : (f.validation.rules.flatMap ruleLines ++
      "setErrors(nextErrors);".toList :: tail).any isEnd = true := by
    rw [List.any_append, List.any_cons, hend, Bool.true_or, Bool.or_true]
  unfold validationBlock?
  rw [hlines, List.dropWhile_append_of_pos hfront,
    List.dropWhile_cons_of_neg (by simp [isDeclaration_declaration])]
  simp only [hany, if_true]
  rw [List.takeWhile_append_of_pos hinside, List.takeWhile_cons_of_neg (by rw [hend]; decide),
    List.append_nil]

/-- **The plan of a form is read back from the text of its component**, whatever its fields and
options; so components with the same block of statements have the same plan. -/
theorem readRules_render :
    (∀ o fs, readRules? (render o fs) = some (Plan.ofFields fs).rules) ∧
    (∀ o o' fs gs, validationBlock? (render o fs) = validationBlock? (render o' gs) →
      Plan.ofFields fs = Plan.ofFields gs) := by
  have hread : ∀ o fs, readRules? (render o fs) = some (Plan.ofFields fs).rules := by
    intro o fs
    rw [readRules?, render, validationBlock?_render, Option.bind_some, rules?_flatMap_ruleLines]
    rfl
  refine ⟨hread, fun o o' fs gs h => ?_⟩
  have hrules : some (Plan.ofFields fs).rules = some (Plan.ofFields gs).rules := by
    rw [← hread o fs, ← hread o' gs, readRules?, readRules?, h]
  exact congrArg Plan.mk (Option.some_inj.mp hrules)

end Formwork.Component
