import Formwork.Generate
import Formwork.Proofs.Markup.Tree

/-!
# Reading HTML forms

The fields of a form, read back from its HTML. The reader goes over the tokens of the text, so it
sees a label or a tag only as characters of a text or as the value of an attribute.

* `read?` — the fields of a form: their labels, the tags of their kinds, and which are mandatory.
* `tags?` — the tags of a text with their attributes.

**Main statement**: `read?_render`.
-/

namespace Formwork.HtmlForm

open Markup

/-! ## The reader -/

/-- The label in the text in front of an input: all of it but the colon and the space at its end. -/
def caption? (text : List Char) : Option String :=
  match text.reverse with
  | ' ' :: ':' :: rev => some (String.ofList rev.reverse)
  | _ => none

/-- The type of an input, and whether it is mandatory. -/
def input? (tag : Tag) : Option (String × Bool) :=
  if tag.name = "input" then
    match tag.attrs with
    | [("type", some type)] => some (type, false)
    | [("type", some type), ("required", none)] => some (type, true)
    | _ => none
  else none

/-- What follows the tag of the button. -/
def ending : List Token :=
  "Submit".toList.map .char ++ [.closing "button", .char '\n', .closing "form"]

mutual

/-- The fields in a form, as far as its button. -/
def fields? : List Token → Option (List FieldDraft)
  | .char c :: ts => if c = '\n' ∨ c = ' ' then fields? ts else none
  | .opening tag false :: ts =>
    if tag = ⟨"label", []⟩ then labelled? [] ts
    else if tag = ⟨"button", [("type", some "submit")]⟩ ∧ ts = ending then some []
    else none
  | _ => none

/-- The fields behind a part of the text of a label. -/
def labelled? (text : List Char) : List Token → Option (List FieldDraft)
  | .char c :: ts => labelled? (text ++ [c]) ts
  | .opening tag true :: .closing "label" :: ts => do
    let label ← caption? text
    let (kind, required) ← input? tag
    let fields ← fields? ts
    some (⟨label, kind, required⟩ :: fields)
  | _ => none

end

/-- The fields of a form. -/
def read? (markup : String) : Option (List FieldDraft) :=
  match tokens? markup with
  | some (.opening tag false :: ts) => if tag = ⟨"form", []⟩ then fields? ts else none
  | _ => none

/-- Not a character between tags. -/
def isTag : Token → Bool
  | .char _ => false
  | _ => true

/-- The tags of a text with their attributes. -/
def tags? (markup : String) : Option (List Token) := (tokens? markup).map (·.filter isTag)

/-! ## The tokens of a form -/

/-- A field as a form shows it. -/
def shown (f : Field) : FieldDraft := ⟨f.label, f.kind.tag, f.required⟩

/-- The tag of the input of a field. -/
def inputTag (f : Field) : Tag :=
  ⟨"input", ("type", some f.kind.tag) :: if f.required then [("required", none)] else []⟩

/-- The tags of a field. -/
def fieldTags (f : Field) : List Token :=
  [.opening ⟨"label", []⟩ false, .opening (inputTag f) true, .closing "label"]

/-- The tags of a form. -/
def formTags (fs : List Field) : List Token :=
  .opening ⟨"form", []⟩ false :: (fs.flatMap fieldTags ++
    [.opening ⟨"button", [("type", some "submit")]⟩ false, .closing "button", .closing "form"])

/-- The line of a field, behind the line feed in front of it. -/
def fieldTokens (f : Field) : List Token :=
  .char '\n' :: .char ' ' :: .char ' ' :: .opening ⟨"label", []⟩ false ::
    ((f.label ++ ": ").toList.map .char ++ [.opening (inputTag f) true, .closing "label"])

/-- The line of the button and the last one. -/
def buttonTokens : List Token :=
  .char '\n' :: .char ' ' :: .char ' ' ::
    .opening ⟨"button", [("type", some "submit")]⟩ false :: ending

theorem tagOf_input (f : Field) :
    tagOf "input" (attr "type" f.kind.tag :: switch "required" f.required) = inputTag f := by
  unfold inputTag
  cases f.required <;> rfl

theorem inlineTokens_labelled (f : Field) : (labelled f).inlineTokens =
    .opening ⟨"label", []⟩ false ::
      ((f.label ++ ": ").toList.map .char ++ [.opening (inputTag f) true, .closing "label"]) := by
  rw [← tagOf_input, labelled, Element.inlineTokens]
  simp [Node.inlineTokens, inlineTokensAll, input, Element.inlineTokens, tagOf]

theorem tokenLinesAll_labelled (fs : List Field) :
    tokenLinesAll 1 (fs.map fun f => .element (labelled f)) =
      fs.map fun f => marginTokens 1 ++ (labelled f).inlineTokens := by
  induction fs with
  | nil => rfl
  | cons f fs ih =>
    rw [List.map_cons, tokenLinesAll, ih]
    rfl

/-- The tokens of a form, field by field. -/
theorem tokens_tree (fs : List Field) : (tree fs).tokens =
    .opening ⟨"form", []⟩ false :: (fs.flatMap fieldTokens ++ buttonTokens) := by
  -- a form holds no text of its own, so each field and the button have a line
  have htext : (fs.map (fun f => Node.element (labelled f)) ++ [Node.element button]).any
      Node.isText = false := by
    simp [Node.isText]
  have hlines := Element.tokenLines_block 0 "form" [] (by simp) htext
  rw [tokenLinesAll_append, tokenLinesAll_labelled] at hlines
  rw [tree, Element.tokens_of_tokenLines hlines]
  simp only [List.flatMap_append, List.flatMap_map, inlineTokens_labelled, List.append_assoc]
  rfl

theorem plain_labelled (f : Field) : (labelled f).Plain := by
  have hattrs : ∀ a ∈ attr "type" f.kind.tag :: switch "required" f.required, IsName a.name := by
    intro a ha
    rcases List.mem_cons.mp ha with rfl | ha
    · show IsName "type"
      decide
    · unfold switch at ha
      split at ha
      · rw [List.mem_singleton.mp ha]
        decide
      · cases ha
  have hinput : (input f).Plain := ⟨by decide, hattrs, trivial⟩
  exact ⟨by decide, by simp, trivial, hinput, trivial⟩

theorem plain_button : button.Plain := by
  refine ⟨by decide, fun a ha => ?_, trivial, trivial⟩
  rw [List.mem_singleton.mp ha]
  decide

/-- Whatever the fields, nothing but names stands where a name has to. -/
theorem plain_tree (fs : List Field) : (tree fs).Plain := by
  refine ⟨by decide, by simp, plainAll_iff.mpr ?_⟩
  rw [List.forall_mem_append, List.forall_mem_map, List.forall_mem_singleton]
  exact ⟨fun f _ => plain_labelled f, plain_button⟩

theorem tokens?_render (fs : List Field) : tokens? (render fs) =
    some (.opening ⟨"form", []⟩ false :: (fs.flatMap fieldTokens ++ buttonTokens)) := by
  rw [← tokens_tree]
  exact (Element.reads_render (plain_tree fs)).tokens?_eq

/-! ## Reading back -/

theorem caption?_append (s : String) : caption? (s ++ ": ").toList = some s := by
  have hrev : (s ++ ": ").toList.reverse = ' ' :: ':' :: s.toList.reverse := by simp
  rw [caption?, hrev]
  simp

theorem input?_inputTag (f : Field) : input? (inputTag f) = some (f.kind.tag, f.required) := by
  unfold inputTag
  cases f.required <;> rfl

/-- The characters of a label are collected up to the next tag. -/
theorem labelled?_chars (text cs : List Char) (ts : List Token) :
    labelled? text (cs.map .char ++ ts) = labelled? (text ++ cs) ts := by
  induction cs generalizing text with
  | nil => rw [List.append_nil]; rfl
  | cons c cs ih =>
    show labelled? (text ++ [c]) (cs.map .char ++ ts) = _
    rw [ih, List.append_assoc]
    rfl

/-- **A field is read back from its line**, and then those of the lines that follow. -/
theorem fields?_fieldTokens (f : Field) (ts : List Token) :
    fields? (fieldTokens f ++ ts) = (fields? ts).map (shown f :: ·) := by
  have hlabel : fields? (fieldTokens f ++ ts) =
      labelled? [] ((f.label ++ ": ").toList.map .char ++
        (.opening (inputTag f) true :: .closing "label" :: ts)) := by
    have hts : fieldTokens f ++ ts = .char '\n' :: .char ' ' :: .char ' ' ::
        .opening ⟨"label", []⟩ false :: ((f.label ++ ": ").toList.map .char ++
          (.opening (inputTag f) true :: .closing "label" :: ts)) := by
      simp [fieldTokens]
    rw [hts]
    rfl
  rw [hlabel, labelled?_chars, List.nil_append, labelled?, caption?_append, input?_inputTag]
  cases fields? ts <;> rfl

theorem fields?_buttonTokens : fields? buttonTokens = some [] := by decide

theorem fields?_flatMap (fs : List Field) :
    fields? (fs.flatMap fieldTokens ++ buttonTokens) = some (fs.map shown) := by
  induction fs with
  | nil => exact fields?_buttonTokens
  | cons f fs ih =>
    rw [List.flatMap_cons, List.append_assoc, fields?_fieldTokens, ih]
    rfl

/-- Forms with the same HTML have the same state keys. -/
theorem keys_eq_of_render_eq {fs gs : List Field} (h : render fs = render gs) :
    fs.map Field.stateKey = gs.map Field.stateKey := by
  have htokens := tokens?_render fs
  rw [h, tokens?_render gs, Option.some_inj, List.cons.injEq] at htokens
  have hshown := fields?_flatMap fs
  rw [← htokens.2, fields?_flatMap gs, Option.some_inj] at hshown
  have hkey : ∀ fs : List Field, fs.map Field.stateKey =
      (fs.map shown).map fun r => Text.lower r.label := by
    intro fs
    rw [List.map_map]
    rfl
  rw [hkey, hkey, hshown]

theorem filter_isTag_fieldTokens (f : Field) : (fieldTokens f).filter isTag = fieldTags f := by
  have hchars : ∀ cs : List Char, (cs.map Token.char).filter isTag = [] := by
    intro cs
    simp [List.filter_eq_nil_iff, isTag]
  rw [fieldTokens]
  simp only [List.filter_cons, isTag, List.filter_append, hchars]
  rfl

theorem tags?_render (fs : List Field) : tags? (render fs) = some (formTags fs) := by
  have hfields : (fs.flatMap fieldTokens).filter isTag = fs.flatMap fieldTags := by
    rw [List.filter_flatMap]
    simp only [filter_isTag_fieldTokens]
  rw [tags?, tokens?_render, Option.map_some, List.filter_cons_of_pos rfl, List.filter_append,
    hfields]
  rfl

/-- **A form is read back from its HTML**: the label, the tag and the requirement of each field, in
order, whatever characters they hold. So forms with the same HTML show the same fields, and the tags
of the HTML are those of the form and its fields: a text stands in them as the value of the attribute
`type` and nowhere else. -/
theorem read?_render :
    (∀ fs, read? (render fs) = some (fs.map shown)) ∧
    (∀ fs gs, render fs = render gs → fs.map shown = gs.map shown) ∧
    (∀ fs, tags? (render fs) = some (formTags fs)) := by
  have hread : ∀ fs, read? (render fs) = some (fs.map shown) := by
    intro fs
    rw [read?, tokens?_render]
    exact fields?_flatMap fs
  refine ⟨hread, fun fs gs h => ?_, tags?_render⟩
  rw [← Option.some_inj, ← hread fs, ← hread gs, h]

end Formwork.HtmlForm
