import Formwork.Proofs.Component.Validation
import Formwork.Proofs.Script.Object
import Formwork.Proofs.Validation.Validity

/-!
# Reading the state of a component

The state keys of a form stand in seven places of its component: in two interfaces, in the objects
that two state hooks begin with, in the object that collects the messages of a validation, and in
the two objects that a submission resets the state to. A reader goes through the lines from the top
and finds each place by the words that it begins with.

The lines between two places begin with other words (`place?_append`). The keys themselves stand in
the lines of an interface, and the reader of the interface takes these away.

**Main statement**: `declarations?_agree`.
-/

namespace Formwork.Component

open Outline (textsAll)
open Source (unindented readLines)
open Script (behind? behind?_eq_some_iff key? object? propertyKey)

/-! ## The reader -/

/-- What follows `start` on the first line that begins with it, and the lines behind that one. -/
def place? (start : List Char) : List (List Char) → Option (List Char × List (List Char))
  | [] => none
  | line :: lines =>
    match behind? start line with
    | some rest => some (rest, lines)
    | none => place? start lines

/-- The key of a line that declares a text. -/
def textKey? (line : List Char) : Option String := do
  let (key, rest) ← key? line
  if rest = ": string;".toList then some key else none

/-- The keys of the next interface, which must have the name, and the lines behind it. -/
def interface? (name : String) (lines : List (List Char)) :
    Option (List String × List (List Char)) := do
  let (rest, lines) ← place? "interface ".toList lines
  let rest ← behind? name.toList rest
  if rest = " \x7b\x7d".toList then some ([], lines)
  else if rest = " \x7b".toList then
    match lines.dropWhile (· ≠ "\x7d".toList) with
    | [] => none
    | _ :: behind =>
      let keys ← (lines.takeWhile (· ≠ "\x7d".toList)).mapM textKey?
      some (keys, behind)
  else none

/-- The entries of the object between two texts on a line, and the lines behind it. -/
def record? (start ending : String) (lines : List (List Char)) :
    Option (List (String × String) × List (List Char)) := do
  let (rest, lines) ← place? start.toList lines
  let (entries, rest) ← object? rest
  if rest = ending.toList then some (entries, lines) else none

/-- What a component declares about its state. -/
structure Declarations where
  dataKeys : List String
  errorKeys : List String
  initialData : List (String × String)
  initialErrors : List (String × String)
  nextErrors : List (String × String)
  resetData : List (String × String)
  resetErrors : List (String × String)
  deriving Repr, DecidableEq

/-- The declarations in the text of a component. The objects that the state is reset to are those
behind the first line of the submission. -/
def declarations? (text : String) : Option Declarations := do
  let (dataKeys, lines) ← interface? "FormData" (readLines text)
  let (errorKeys, lines) ← interface? "FormErrors" lines
  let (initialData, lines) ←
    record? "const [formData, setFormData] = useState<FormData>(" ");" lines
  let (initialErrors, lines) ←
    record? "const [errors, setErrors] = useState<FormErrors>(" ");" lines
  let (nextErrors, lines) ← record? "const nextErrors: FormErrors = " ";" lines
  let (_, lines) ← place? "const handleSubmit = ".toList lines
  let (resetData, lines) ← record? "setFormData(" ");" lines
  let (resetErrors, _) ← record? "setErrors(" ");" lines
  some { dataKeys, errorKeys, initialData, initialErrors, nextErrors, resetData, resetErrors }

/-! ## Places -/

/-- The lines of some texts. -/
def linesOf (ts : List String) : List (List Char) := ts.map fun t => unindented t.toList

/-- No line of some texts begins with `start`. -/
def Passes (start : String) (ts : List String) : Prop :=
  ∀ t ∈ ts, behind? start.toList (unindented t.toList) = none

theorem passes_nil {start : String} : Passes start [] := fun _ ht => absurd ht List.not_mem_nil

theorem passes_append {start : String} {ts us : List String} (ht : Passes start ts)
    (hu : Passes start us) : Passes start (ts ++ us) := List.forall_mem_append.mpr ⟨ht, hu⟩

theorem passes_cons {start cs : List Char} {ts : List String}
    (h : behind? start (unindented cs) = none) (hts : Passes (String.ofList start) ts) :
    Passes (String.ofList start) (String.ofList cs :: ts) := by
  refine List.forall_mem_cons.mpr ⟨?_, hts⟩
  rwa [String.toList_ofList, String.toList_ofList]

/-- A line with a text in the middle is judged by how it begins. -/
theorem passes_cons_append {start cs : List Char} {text ending : String} {ts : List String}
    (h : ∀ ds, behind? start (unindented (cs ++ ds)) = none)
    (hts : Passes (String.ofList start) ts) :
    Passes (String.ofList start) ((String.ofList cs ++ text ++ ending) :: ts) := by
  refine List.forall_mem_cons.mpr ⟨?_, hts⟩
  rw [String.toList_append, String.toList_append, String.toList_ofList, String.toList_ofList,
    List.append_assoc]
  exact h _

/-- Lines that begin with something else are passed. -/
theorem place?_append {start : String} {before : List String} (h : Passes start before)
    (lines : List (List Char)) :
    place? start.toList (linesOf before ++ lines) = place? start.toList lines := by
  induction before with
  | nil => rfl
  | cons t before ih =>
    show place? start.toList (unindented t.toList :: (linesOf before ++ lines)) = _
    rw [place?, h t List.mem_cons_self]
    exact ih fun u hu => h u (List.mem_cons_of_mem _ hu)

theorem linesOf_append (ts us : List String) : linesOf (ts ++ us) = linesOf ts ++ linesOf us :=
  List.map_append

/-- The line of a place, behind lines that begin with something else. -/
theorem place?_linesOf {c : Char} {cs : List Char} (hc : c ≠ ' ') {before : List String}
    (h : Passes (String.ofList (c :: cs)) before) (text : String) (after : List String)
    (tail : List (List Char)) :
    place? (String.ofList (c :: cs)).toList
        (linesOf (before ++ (String.ofList (c :: cs) ++ text) :: after) ++ tail) =
      some (text.toList, linesOf after ++ tail) := by
  have hline : unindented (String.ofList (c :: cs) ++ text).toList =
      (String.ofList (c :: cs)).toList ++ text.toList := by
    rw [String.toList_append, String.toList_ofList]
    exact List.dropWhile_cons_of_neg (by simpa using hc)
  rw [linesOf_append, List.append_assoc, place?_append h]
  show place? _ (unindented _ :: (linesOf after ++ tail)) = _
  rw [hline, place?, behind?_eq_some_iff.mpr rfl]

/-! ## Objects -/

/-- The slots of a form, each with the empty text. -/
def blankSlots (f : Form) : List (String × String) := f.keys.map fun key => (key, "")

theorem blankRecord_eq (f : Form) : blankRecord f = Script.object (blankSlots f) := by
  have hentry : (Script.entry ∘ fun key => (key, "")) =
      fun key => propertyKey key ++ ": \"\"" := by
    funext key
    show propertyKey key ++ ": " ++ Json.quote "" = _
    rw [String.append_assoc]
    rfl
  rw [blankRecord, Script.object, blankSlots, List.map_map, hentry, Form.keys]
  simp only [List.isEmpty_map]

/-- **The entries of an object are read back**, whatever their keys are. -/
theorem record?_linesOf {c : Char} {cs : List Char} (hc : c ≠ ' ') {before : List String}
    (h : Passes (String.ofList (c :: cs)) before) (f : Form) (ending : String)
    (after : List String) (tail : List (List Char)) :
    record? (String.ofList (c :: cs)) ending
        (linesOf (before ++ (String.ofList (c :: cs) ++ blankRecord f ++ ending) :: after) ++
          tail) =
      some (blankSlots f, linesOf after ++ tail) := by
  unfold record?
  rw [String.append_assoc, place?_linesOf hc h, String.toList_append]
  simp only [Option.bind_eq_bind, Option.bind_some, blankRecord_eq, Script.object?_object, if_true]

/-! ## Interfaces -/

/-- The line of a key in an interface. -/
def keyLine (key : String) : List Char := (propertyKey key ++ ": string;").toList

theorem textKey?_keyLine (key : String) : textKey? (keyLine key) = some key := by
  have hkey := Script.key?_propertyKey key
    (Script.breaks_append ": string;".toList (by decide) [])
  rw [List.append_nil] at hkey
  unfold textKey? keyLine
  rw [String.toList_append, hkey]
  rfl

theorem mapM_textKey?_keyLine (keys : List String) :
    (keys.map keyLine).mapM textKey? = some keys := by
  induction keys with
  | nil => rfl
  | cons key keys ih =>
    rw [List.map_cons, List.mapM_cons, textKey?_keyLine, ih]
    rfl

theorem keyLine_ne_closing (key : String) : keyLine key ≠ "\x7d".toList := by
  intro h
  have hread := textKey?_keyLine key
  rw [h] at hread
  cases hread

theorem unindented_keyLine (key : String) : unindented (keyLine key) = keyLine key := by
  obtain ⟨c, cs, hs, hc⟩ := Script.exists_toList_propertyKey key
  rw [keyLine, String.toList_append, hs]
  exact List.dropWhile_cons_of_neg (by simpa using hc)

/-- The lines of an interface behind its first. -/
theorem linesOf_keys (keys : List String) (ts : List String) :
    linesOf ((keys.map fun k => propertyKey k ++ ": string;") ++ "\x7d" :: ts) =
      keys.map keyLine ++ "\x7d".toList :: linesOf ts := by
  rw [linesOf_append, linesOf, List.map_map]
  exact congrArg (· ++ _) (List.map_congr_left fun key _ => unindented_keyLine key)

/-- **The keys of an interface are read back**, whatever they are. -/
theorem interface?_linesOf {before : List String} (h : Passes "interface " before) (name : String)
    (f : Form) (after : List String) (tail : List (List Char)) :
    interface? name (linesOf (before ++ (textsAll (recordInterface name f) ++ after)) ++ tail) =
      some (f.keys, linesOf after ++ tail) := by
  have hstart : 'i' ≠ ' ' := by decide
  unfold interface? recordInterface
  by_cases hf : f.bindings.isEmpty = true
  · have hkeys : f.keys = [] := by simpa [Form.keys] using hf
    rw [if_pos hf, Outline.textsAll_line, Outline.textsAll_nil, String.append_assoc,
      List.singleton_append, place?_linesOf hstart h, String.toList_append]
    simp only [Option.bind_eq_bind, Option.bind_some, behind?_eq_some_iff.mpr rfl, if_true, hkeys]
  · have hall : ∀ line ∈ f.keys.map keyLine, (line ≠ "\x7d".toList : Bool) = true := by
      simpa using fun key _ => keyLine_ne_closing key
    have hempty : " \x7b".toList ≠ " \x7b\x7d".toList := by decide
    rw [if_neg hf, Outline.textsAll_block, Outline.textsAll_ofLines, String.append_assoc,
      List.cons_append, List.append_assoc, List.singleton_append, place?_linesOf hstart h,
      String.toList_append, linesOf_keys]
    simp only [Option.bind_eq_bind, Option.bind_some, behind?_eq_some_iff.mpr rfl, if_true,
      if_neg hempty, List.append_assoc, List.cons_append]
    rw [List.dropWhile_append_of_pos hall, List.takeWhile_append_of_pos hall,
      List.dropWhile_cons_of_neg (by simp), List.takeWhile_cons_of_neg (by simp), List.append_nil,
      mapM_textKey?_keyLine]
    rfl

/-! ## The lines of a component -/

/-- The texts between the statements of the rules and the submission. -/
def changeTexts : List String :=
  ["setErrors(nextErrors);", "return Object.values(nextErrors).every(error => !error);", "\x7d;",
    "", "const handleChange = (e: ChangeEvent<HTMLInputElement | HTMLTextAreaElement>) => \x7b",
    "const \x7b name, value, type \x7d = e.target;",
    "const val = type === \"checkbox\" ? (e.target as HTMLInputElement).checked.toString() : value;",
    "setFormData(prev => (\x7b ...prev, [name]: val \x7d));",
    "if (errors[name as keyof FormErrors]) \x7b",
    "setErrors(prev => (\x7b ...prev, [name]: \"\" \x7d));", "\x7d", "\x7d;", ""]

/-- The texts of a submission in front of the objects that the state is reset to. -/
def submissionTexts (o : Options) : List String :=
  ["e.preventDefault();", "if (!validateForm()) return;", "", "setIsSubmitting(true);", "try \x7b",
    "await new Promise(resolve => setTimeout(resolve, " ++ toString o.submitDelay ++ "));",
    "console.log(\"Form submitted:\", formData);"]

/-- The texts of a component as far as it declares something about its state. -/
def declaringTexts (o : Options) (f : Form) : List String :=
  ["import \x7b useState, FormEvent, ChangeEvent \x7d from \"react\";", ""] ++
    (textsAll (recordInterface "FormData" f) ++ ([""] ++
    (textsAll (recordInterface "FormErrors" f) ++
    (["", "export default function " ++ o.resolvedName ++ "() \x7b"] ++
    ("const [formData, setFormData] = useState<FormData>(" ++ blankRecord f ++ ");") ::
    ([] ++ ("const [errors, setErrors] = useState<FormErrors>(" ++ blankRecord f ++ ");") ::
    (["const [isSubmitting, setIsSubmitting] = useState(false);", "",
      "const validateForm = (): boolean => \x7b"] ++
    ("const nextErrors: FormErrors = " ++ blankRecord f ++ ";") ::
    (statementTexts f ++ changeTexts ++
    ("const handleSubmit = " ++ "async (e: FormEvent<HTMLFormElement>) => \x7b") ::
    (submissionTexts o ++ ("setFormData(" ++ blankRecord f ++ ");") ::
    ([] ++ ("setErrors(" ++ blankRecord f ++ ");") :: [])))))))))

theorem textsAll_code_declaring (o : Options) (f : Form) : ∃ t post,
    textsAll (code o f) = declaringTexts o f ++ t :: post := by
  refine ⟨"alert(\"Form submitted successfully!\");", ?_⟩
  have hsubmit : "const handleSubmit = " ++ "async (e: FormEvent<HTMLFormElement>) => \x7b" =
      "const handleSubmit = async (e: FormEvent<HTMLFormElement>) => \x7b" := by rfl
  have hchange : "const val = type === \"checkbox\" ? " ++
      "(e.target as HTMLInputElement).checked.toString() : value;" =
    "const val = type === \"checkbox\" ? (e.target as HTMLInputElement).checked.toString() : value;"
      := by rfl
  simp only [code, body, declaringTexts, changeTexts, changeHandler, submissionTexts, submitHandler,
    stateHooks,
    Outline.textsAll_line, Outline.textsAll_blank, Outline.textsAll_append, Outline.textsAll_block,
    Outline.textsAll_ofLines, textsAll_validator, List.cons_append, List.append_assoc,
    List.nil_append, hsubmit, hchange]
  exact ⟨_, rfl⟩

theorem newline_notMem_ofList {cs : List Char} (h : '\n' ∉ cs) :
    '\n' ∉ (String.ofList cs).toList := by rwa [String.toList_ofList]

theorem newline_notMem_changeTexts : ∀ t ∈ changeTexts, '\n' ∉ t.toList := by
  intro t ht
  simp only [changeTexts, List.mem_cons, List.not_mem_nil, or_false] at ht
  rcases ht with
    rfl | rfl | rfl | rfl | rfl | rfl | rfl | rfl | rfl | rfl | rfl | rfl | rfl
  all_goals exact newline_notMem_ofList (by decide)

theorem newline_notMem_submissionTexts (o : Options) :
    ∀ t ∈ submissionTexts o, '\n' ∉ t.toList := by
  intro t ht
  simp only [submissionTexts, List.mem_cons, List.not_mem_nil, or_false] at ht
  rcases ht with rfl | rfl | rfl | rfl | rfl | rfl | rfl
  case inr.inr.inr.inr.inr.inl => simp [newline_notMem_toDigits]
  all_goals exact newline_notMem_ofList (by decide)

/-- The texts in front of the submission are those of the validation, and more. -/
theorem declaringTexts_eq (o : Options) (f : Form) : declaringTexts o f =
    frontTexts o f ++ declaration f :: (statementTexts f ++ (changeTexts ++
      ("const handleSubmit = " ++ "async (e: FormEvent<HTMLFormElement>) => \x7b") ::
        (submissionTexts o ++
          ["setFormData(" ++ blankRecord f ++ ");", "setErrors(" ++ blankRecord f ++ ");"]))) := by
  unfold declaringTexts frontTexts stateHooks declaration
  rw [Outline.textsAll_ofLines]
  simp only [List.cons_append, List.append_assoc, List.nil_append]

theorem newline_notMem_declaringTexts {o : Options} {f : Form} :
    ∀ t ∈ declaringTexts o f, '\n' ∉ t.toList := by
  have hrecord := newline_notMem_blankRecord f
  intro t ht
  simp only [declaringTexts_eq, List.mem_append, List.mem_cons, List.not_mem_nil, or_false] at ht
  rcases ht with ht | rfl | ht | ht | rfl | ht | rfl | rfl
  · exact (front_of_mem_frontTexts t ht).newline
  · simp [toList_declaration, hrecord]
  · exact (inside_of_mem_statementTexts t ht).newline
  · exact newline_notMem_changeTexts t ht
  · simp
  · exact newline_notMem_submissionTexts o t ht
  · simp [hrecord]
  · simp [hrecord]

/-! ## Reading back -/

theorem passes_statementTexts (f : Form) : Passes "const handleSubmit = " (statementTexts f) := by
  intro t ht
  obtain ⟨⟨key, check, message⟩, -, ht⟩ := List.mem_flatMap.mp ht
  have hassignment : ∀ key message, behind? "const handleSubmit = ".toList
      (unindented (assignment key message).toList) = none := by
    intro key message
    obtain ⟨cs, hcs⟩ := Script.exists_toList_member "nextErrors" key
    rw [assignment, String.toList_append, String.toList_append, String.toList_append, hcs]
    rfl
  cases check with
  | presence =>
    obtain rfl := List.mem_singleton.mp ht
    simp only [String.toList_append, List.append_assoc]
    rfl
  | format c =>
    have ht : t ∈ [guard key c, assignment key message, "\x7d"] := ht
    simp only [List.mem_cons, List.not_mem_nil, or_false] at ht
    rcases ht with rfl | rfl | rfl
    · rw [toList_guard]
      rfl
    · exact hassignment key message
    · rfl

theorem passes_changeTexts : Passes "const handleSubmit = " changeTexts := by
  unfold changeTexts
  repeat' refine passes_cons rfl ?_
  exact passes_nil

theorem passes_submissionTexts (o : Options) : Passes "setFormData(" (submissionTexts o) :=
  passes_cons rfl <| passes_cons rfl <| passes_cons rfl <| passes_cons rfl <| passes_cons rfl <|
    passes_cons_append (fun _ => rfl) <| passes_cons rfl passes_nil

theorem exists_readLines_code (o : Options) (f : Form) :
    ∃ tail, readLines (Outline.render (code o f)) = linesOf (declaringTexts o f) ++ tail := by
  obtain ⟨t, post, hcode⟩ := textsAll_code_declaring o f
  exact Outline.exists_readLines_render hcode newline_notMem_declaringTexts (List.cons_ne_nil _ _)

/-- Components with the same text have the same state keys, whatever their options. -/
theorem keys_eq_of_render_eq {o o' : Options} {fs gs : List Field}
    (h : render o fs = render o' gs) : fs.map Field.stateKey = gs.map Field.stateKey := by
  have hread : ∀ o fs, (interface? "FormData" (readLines (render o fs))).map (·.1) =
      some (fs.map Field.stateKey) := by
    intro o fs
    obtain ⟨tail, hlines⟩ := exists_readLines_code o (Form.ofFields fs)
    rw [render, hlines, declaringTexts,
      interface?_linesOf (passes_cons rfl (passes_cons rfl passes_nil)), Option.map_some,
      Form.keys_ofFields]
  exact Option.some_inj.mp ((hread o fs).symm.trans (h ▸ hread o' gs))

/-- **The state of a component is read back from its text**: whatever the fields and the options,
the two interfaces declare the state keys of the fields, in their order, and the five objects have
these keys with empty texts. -/
theorem declarations?_agree (o : Options) (fs : List Field) :
    declarations? (render o fs) = some
      { dataKeys := fs.map Field.stateKey
        errorKeys := fs.map Field.stateKey
        initialData := fs.map fun f => (f.stateKey, "")
        initialErrors := fs.map fun f => (f.stateKey, "")
        nextErrors := fs.map fun f => (f.stateKey, "")
        resetData := fs.map fun f => (f.stateKey, "")
        resetErrors := fs.map fun f => (f.stateKey, "") } := by
  have hkeys := Form.keys_ofFields fs
  have hslots : blankSlots (Form.ofFields fs) = fs.map fun f => (f.stateKey, "") := by
    rw [blankSlots, hkeys, List.map_map]
    rfl
  have hc : 'c' ≠ ' ' := by decide
  have hs : 's' ≠ ' ' := by decide
  obtain ⟨tail, hlines⟩ := exists_readLines_code o (Form.ofFields fs)
  unfold declarations?
  -- one step for each place, from the top
  rw [render, hlines, declaringTexts,
    interface?_linesOf (passes_cons rfl (passes_cons rfl passes_nil))]
  simp only [Option.bind_eq_bind, Option.bind_some]
  rw [interface?_linesOf (passes_cons rfl passes_nil), Option.bind_some,
    record?_linesOf hc (passes_cons rfl (passes_cons_append (fun _ => rfl) passes_nil)),
    Option.bind_some, record?_linesOf hc passes_nil, Option.bind_some,
    record?_linesOf hc (passes_cons rfl (passes_cons rfl (passes_cons rfl passes_nil))),
    Option.bind_some,
    place?_linesOf hc (passes_append (passes_statementTexts _) passes_changeTexts),
    Option.bind_some, record?_linesOf hs (passes_submissionTexts o), Option.bind_some,
    record?_linesOf hs passes_nil, Option.bind_some, hkeys, hslots]

end Formwork.Component
