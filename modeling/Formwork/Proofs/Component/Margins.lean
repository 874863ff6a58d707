import Formwork.Proofs.Component.Declarations
import Formwork.Proofs.Markup.Margins

/-!
# The layout of a component

What a label says is not seen in the layout of a component. Two forms whose fields agree in
everything else have components with the same number of lines, and lines in the same place are
indented alike.

A state key is quoted wherever a script could be confused by it, so it brings no line feed into a
script, whatever it holds. In the markup a key or a label may stand as it is; there it must not
hold a line feed itself.

* `Binding.Twins`, `Form.Twins` — bindings and forms that agree in everything but their labels.

**Main statement**: `Component.alike_code`.
-/

namespace Formwork

open Outline (Alike AlikeText Solid alike_refl alike_cons alike_ofLines_solid)

/-! ## Forms that agree but for their labels -/

/-- A binding without line feeds. -/
structure Binding.Quiet (b : Binding) : Prop where
  key : '\n' ∉ b.key.toList
  displayLabel : '\n' ∉ b.displayLabel.toList
  type : ∀ t, b.control = .input t → '\n' ∉ t.toList

/-- Bindings without line feeds that agree in everything but the label. -/
structure Binding.Twins (b c : Binding) : Prop where
  left : b.Quiet
  right : c.Quiet
  required : b.required = c.required
  control : b.control = c.control

/-- Forms that agree in everything but the labels. Of the rules only the checks have to agree: a key
and a message depend on a label. -/
structure Form.Twins (f g : Form) : Prop where
  left : '\n' ∉ f.heading.toList
  right : '\n' ∉ g.heading.toList
  bindings : List.Forall₂ Binding.Twins f.bindings g.bindings
  rules : List.Forall₂ (fun r s => r.check = s.check) f.validation.rules g.validation.rules

namespace Component

open Markup

/-! ## Expressions -/

theorem newline_notMem_valueExpr (b : Binding) : '\n' ∉ (valueExpr b).toList :=
  Script.newline_notMem_member (by decide) b.key

theorem newline_notMem_errorExpr (b : Binding) : '\n' ∉ (errorExpr b).toList :=
  Script.newline_notMem_member (by decide) b.key

theorem newline_notMem_withBorder {before after error : String} (hb : '\n' ∉ before.toList)
    (ha : '\n' ∉ after.toList) (he : '\n' ∉ error.toList) :
    '\n' ∉ (withBorder before after error).toList := by
  simp [withBorder, template, interpolated, braced, hb, ha, he]

theorem newline_notMem_caption {b : Binding} (h : b.Quiet) : '\n' ∉ (caption b).toList := by
  unfold caption
  split
  · simp [h.displayLabel]
  · exact h.displayLabel

/-! ## The group of a field -/

variable {b c : Binding}

theorem quiet_className {names : List Char} (h : '\n' ∉ names) :
    (className (String.ofList names)).Quiet :=
  quiet_attr (by decide) (newline_notMem_ofList h)

theorem quiet_of_mem_bound (h : b.Quiet) : ∀ a ∈ bound b, a.Quiet := by
  have hstyle : '\n' ∉ (inputStyle (errorExpr b)).toList :=
    newline_notMem_withBorder (newline_notMem_ofList (by decide))
      (newline_notMem_ofList (by decide)) (newline_notMem_errorExpr b)
  intro a ha
  simp only [bound, List.mem_append, List.mem_cons, List.not_mem_nil, or_false] at ha
  rcases ha with ((rfl | rfl | rfl | rfl) | ha) | rfl
  · exact quiet_attr (by decide) h.key
  · exact quiet_attr (by decide) h.key
  · exact quiet_dynamic (by decide) (newline_notMem_valueExpr b)
  · exact quiet_dynamic (by decide) (by decide)
  · exact quiet_of_mem_switch (by decide) a ha
  · exact quiet_dynamic (by decide) hstyle

theorem quiet_of_mem_tickBoxAttrs (h : b.Quiet) : ∀ a ∈ tickBoxAttrs b, a.Quiet := by
  have hticked : '\n' ∉ (valueExpr b ++ " === " ++ Json.quote tickedValue).toList := by
    simp [newline_notMem_valueExpr, Json.newline_notMem_quote]
  have hstyle : '\n' ∉ (tickBoxStyle (errorExpr b)).toList :=
    newline_notMem_withBorder (newline_notMem_ofList (by decide))
      (newline_notMem_ofList (by decide)) (newline_notMem_errorExpr b)
  intro a ha
  simp only [tickBoxAttrs, List.mem_append, List.mem_cons, List.not_mem_nil, or_false] at ha
  rcases ha with ((rfl | rfl | rfl | rfl) | ha) | rfl
  · exact quiet_attr (by decide) (by decide)
  · exact quiet_attr (by decide) h.key
  · exact quiet_dynamic (by decide) hticked
  · exact quiet_dynamic (by decide) (by decide)
  · exact quiet_of_mem_switch (by decide) a ha
  · exact quiet_dynamic (by decide) hstyle

theorem length_bound (b : Binding) :
    (bound b).length = 5 + (switch "required" b.required).length := by
  simp [bound]
  omega

theorem length_tickBoxAttrs (b : Binding) :
    (tickBoxAttrs b).length = 5 + (switch "required" b.required).length := by
  simp [tickBoxAttrs]
  omega

/-- An element whose only child is a text. -/
theorem solid_inline_text {tag : String} {as : List Attr} {t : String}
    (htag : '\n' ∉ tag.toList) (ha : ∀ a ∈ as, a.Quiet) (ht : '\n' ∉ t.toList) :
    Solid ((Element.mk tag as [.text t]).inline .jsx) :=
  solid_inline htag ha <| List.forall_mem_singleton.mpr (newline_notMem_renderText .jsx ht)

theorem alike_complaint (b c : Binding) :
    Alike ((complaint b).outline .jsx) ((complaint c).outline .jsx) := by
  have hsolid : ∀ b, Solid ((complaint b).inline .jsx) := fun b =>
    solid_inline (by decide)
      (List.forall_mem_singleton.mpr (quiet_className (by decide)))
      (List.forall_mem_singleton.mpr (newline_notMem_braced (newline_notMem_errorExpr b)))
  exact Element.alike_inline rfl rfl (hsolid b) (hsolid c)

theorem alike_labelAbove (hb : b.Quiet) (hc : c.Quiet) :
    Alike ((labelAbove b).outline .jsx) ((labelAbove c).outline .jsx) := by
  have hsolid : ∀ {b : Binding}, b.Quiet → Solid ((labelAbove b).inline .jsx) := fun h =>
    solid_inline_text (by decide)
      (List.forall_mem_cons.mpr ⟨quiet_attr (by decide) h.key,
        List.forall_mem_singleton.mpr (quiet_className (by decide))⟩)
      (newline_notMem_caption h)
  exact Element.alike_inline rfl rfl (hsolid hb) (hsolid hc)

theorem alike_tickBox (h : b.Twins c) :
    Alike ((tickBox b).outline .jsx) ((tickBox c).outline .jsx) := by
  have hlen : (tickBoxAttrs b).length = (tickBoxAttrs c).length := by
    rw [length_tickBoxAttrs, length_tickBoxAttrs, h.required]
  have hattrs : AlikeAttrs (tickBoxAttrs b) (tickBoxAttrs c) :=
    .quiet hlen (quiet_of_mem_tickBoxAttrs h.left) (quiet_of_mem_tickBoxAttrs h.right)
  have hspan : ∀ {b : Binding}, b.Quiet → Solid (Element.inline .jsx
      (.mk "span" [className "ml-2 text-sm text-gray-600"] [.text (caption b)])) := fun hb =>
    solid_inline_text (by decide)
      (List.forall_mem_singleton.mpr (quiet_className (by decide)))
      (newline_notMem_caption hb)
  exact Element.alike_mk (by decide) (.same _)
    (.cons (Node.alike_element (Element.alike_mk (by decide) hattrs .nil))
      (.cons (Node.alike_element
        (Element.alike_inline rfl rfl (hspan h.left) (hspan h.right))) .nil))

theorem alike_controls (h : b.Twins c) : List.Forall₂ (Node.Alike .jsx)
    ((controls b).map .element) ((controls c).map .element) := by
  have hlen : (bound b).length = (bound c).length := by
    rw [length_bound, length_bound, h.required]
  have hlabel := Node.alike_element (alike_labelAbove h.left h.right)
  unfold controls
  rw [← h.control]
  cases hb : b.control with
  | checkbox => exact .cons (Node.alike_element (alike_tickBox h)) .nil
  | textArea =>
    have hquiet : ∀ {b : Binding}, b.Quiet → ∀ a ∈ bound b ++ [dynamic "rows" "4"], a.Quiet :=
      fun hq => List.forall_mem_append.mpr ⟨quiet_of_mem_bound hq,
        List.forall_mem_singleton.mpr (quiet_dynamic (by decide) (by decide))⟩
    have hattrs : AlikeAttrs (bound b ++ [dynamic "rows" "4"]) (bound c ++ [dynamic "rows" "4"]) :=
      .quiet (by simp [hlen]) (hquiet h.left) (hquiet h.right)
    exact .cons hlabel
      (.cons (Node.alike_element (Element.alike_mk (by decide) hattrs .nil)) .nil)
  | input type =>
    have htype : (attr "type" type).Quiet := quiet_attr (by decide) (h.left.type type hb)
    have hattrs : AlikeAttrs (attr "type" type :: bound b) (attr "type" type :: bound c) :=
      .quiet (by simp [hlen])
        (List.forall_mem_cons.mpr ⟨htype, quiet_of_mem_bound h.left⟩)
        (List.forall_mem_cons.mpr ⟨htype, quiet_of_mem_bound h.right⟩)
    exact .cons hlabel
      (.cons (Node.alike_element (Element.alike_mk (by decide) hattrs .nil)) .nil)

theorem alike_group (h : b.Twins c) :
    Alike ((group b).outline .jsx) ((group c).outline .jsx) := by
  have herror := Node.alike_conditional (newline_notMem_errorExpr b) (newline_notMem_errorExpr c)
    (alike_complaint b c)
  exact Element.alike_mk (by decide) (.same _)
    (List.rel_append (alike_controls h) (.cons herror .nil))

/-! ## The page -/

theorem alike_formElement {bs cs : List Binding} (h : List.Forall₂ Binding.Twins bs cs) :
    Alike ((formElement bs).outline .jsx) ((formElement cs).outline .jsx) := by
  have hgroups : List.Forall₂ (Node.Alike .jsx) (bs.map fun b => .element (group b))
      (cs.map fun b => .element (group b)) :=
    List.rel_map (fun _ _ hb => Node.alike_element (alike_group hb)) h
  exact Element.alike_mk (by decide) (.same _)
    (List.rel_append hgroups (.cons (Node.alike_element (alike_refl _)) .nil))

theorem alike_header {heading heading' : String} (h : '\n' ∉ heading.toList)
    (h' : '\n' ∉ heading'.toList) (subtitle : String) :
    Alike ((header heading subtitle).outline .jsx) ((header heading' subtitle).outline .jsx) := by
  have htitle : ∀ {t : String}, '\n' ∉ t.toList → Solid (Element.inline .jsx
      (.mk "h2" [className "text-3xl font-semibold text-gray-800"] [.text t])) := fun ht =>
    solid_inline_text (by decide)
      (List.forall_mem_singleton.mpr (quiet_className (by decide))) ht
  -- the line under the heading may hold anything, but it is the same on both sides
  exact Element.alike_mk (by decide) (.same _)
    (.cons (Node.alike_element (Element.alike_inline rfl rfl (htitle h) (htitle h')))
      (.cons (Node.alike_element (alike_refl _)) .nil))

theorem alike_page (o : Options) {f g : Form} (h : f.Twins g) :
    Alike ((page o f).outline .jsx) ((page o g).outline .jsx) := by
  have hcard : List.Forall₂ (Node.Alike .jsx)
      [.element (header f.heading o.subtitle), .element (formElement f.bindings)]
      [.element (header g.heading o.subtitle), .element (formElement g.bindings)] :=
    .cons (Node.alike_element (alike_header h.left h.right o.subtitle))
      (.cons (Node.alike_element (alike_formElement h.bindings)) .nil)
  exact Element.alike_mk (by decide) (.same _)
    (.cons (Node.alike_element (Element.alike_mk (by decide) (.same _) hcard)) .nil)

/-! ## The code -/

theorem length_keys_eq {f g : Form} (h : f.Twins g) : f.keys.length = g.keys.length := by
  simpa [Form.keys] using h.bindings.length_eq

theorem solid_property (key : String) : Solid (Script.propertyKey key ++ ": string;") := by
  obtain ⟨c, cs, hs, hc⟩ := Script.exists_toList_propertyKey key
  refine Solid.append ⟨Script.newline_notMem_propertyKey key, ?_⟩ (by decide)
  simpa [hs] using hc

theorem alike_recordInterface (name : String) {f g : Form} (h : f.Twins g) :
    Alike (recordInterface name f) (recordInterface name g) := by
  have hempty : f.bindings.isEmpty = g.bindings.isEmpty := by
    rw [Bool.eq_iff_iff, List.isEmpty_iff_length_eq_zero, List.isEmpty_iff_length_eq_zero,
      h.bindings.length_eq]
  unfold recordInterface
  rw [hempty]
  split
  · exact alike_refl _
  · refine .block (.same _) (alike_ofLines_solid ?_ ?_ ?_)
    · rw [List.length_map, List.length_map, length_keys_eq h]
    · exact List.forall_mem_map.mpr fun k _ => solid_property k
    · exact List.forall_mem_map.mpr fun k _ => solid_property k

/-- A line with the object of a form in its middle. -/
theorem alikeText_blankRecord {start ending : List Char}
    (hs : '\n' ∉ start ∧ start.head?.any (· ≠ ' ') = true) (he : '\n' ∉ ending) (f g : Form) :
    AlikeText (String.ofList start ++ blankRecord f ++ String.ofList ending)
      (String.ofList start ++ blankRecord g ++ String.ofList ending) := by
  have hline : ∀ f, Solid (String.ofList start ++ blankRecord f ++ String.ofList ending) := fun f =>
    ((Outline.solid_ofList hs).append (newline_notMem_blankRecord f)).append
      (newline_notMem_ofList he)
  exact .solid (hline f) (hline g)

theorem alike_stateHooks (f g : Form) : Alike (stateHooks f) (stateHooks g) :=
  .line (alikeText_blankRecord (by decide) (by decide) f g)
    (.line (alikeText_blankRecord (by decide) (by decide) f g) (alike_refl _))

theorem solid_assignment (key message : String) : Solid (assignment key message) := by
  obtain ⟨cs, hs⟩ := Script.exists_toList_member "nextErrors" key
  refine ⟨(inside_assignment key message).newline, ?_⟩
  simp [assignment, hs]

theorem solid_guard (key : String) (c : Constraint) : Solid (guard key c) :=
  ⟨(inside_guard key c).newline, by simp [toList_guard]⟩

/-- A statement has as many lines as its check asks for. -/
theorem alike_ruleStatement {r s : Rule} (h : r.check = s.check) :
    Alike (ruleStatement r) (ruleStatement s) := by
  obtain ⟨key, check, message⟩ := r
  obtain ⟨key', _, message'⟩ := s
  obtain rfl : check = _ := h
  cases check with
  | presence =>
    have hsolid : ∀ key message, Solid ("if (!" ++ Script.member "formData" key ++ ") " ++
        assignment key message) :=
      fun key message => ⟨(inside_presence key message).newline, by simp⟩
    exact .line (.solid (hsolid key message) (hsolid key' message')) .nil
  | format c =>
    exact .block (.solid (solid_guard key c) (solid_guard key' c))
      (.line (.solid (solid_assignment key message) (solid_assignment key' message')) .nil)

theorem alike_validator {f g : Form} (h : f.Twins g) : Alike (validator f) (validator g) := by
  have hrules : Alike (f.validation.rules.flatMap ruleStatement)
      (g.validation.rules.flatMap ruleStatement) :=
    Outline.alike_flatMap (h.rules.imp fun _ _ => alike_ruleStatement)
  exact .block (.same _)
    (.line (alikeText_blankRecord (by decide) (by decide) f g) (hrules.append (alike_refl _)))

theorem alike_submitHandler (f g : Form) (delay : Nat) :
    Alike (submitHandler f delay) (submitHandler g delay) := by
  -- only the two lines that reset the state depend on the form
  have hreset : Alike (Outline.ofLines [
        "await new Promise(resolve => setTimeout(resolve, " ++ toString delay ++ "));",
        "console.log(\"Form submitted:\", formData);",
        "setFormData(" ++ blankRecord f ++ ");",
        "setErrors(" ++ blankRecord f ++ ");",
        "alert(\"Form submitted successfully!\");"])
      (Outline.ofLines [
        "await new Promise(resolve => setTimeout(resolve, " ++ toString delay ++ "));",
        "console.log(\"Form submitted:\", formData);",
        "setFormData(" ++ blankRecord g ++ ");",
        "setErrors(" ++ blankRecord g ++ ");",
        "alert(\"Form submitted successfully!\");"]) :=
    .line (.same _) <| .line (.same _) <|
      .line (alikeText_blankRecord (by decide) (by decide) f g) <|
      .line (alikeText_blankRecord (by decide) (by decide) f g) <| alike_refl _
  exact .block (.same _)
    (((alike_refl _).append (.block (.same _) hreset)).append (alike_refl _))

theorem alike_body (o : Options) {f g : Form} (h : f.Twins g) : Alike (body o f) (body o g) := by
  have hreturn : Alike (Outline.block "return (" ");" ((page o f).outline .jsx))
      (Outline.block "return (" ");" ((page o g).outline .jsx)) := .block (.same _) (alike_page o h)
  -- one `append` for each part; an empty line stands in front of all but the first
  exact ((((alike_stateHooks f g).append (alike_cons _ (alike_validator h))).append
    (alike_refl _)).append (alike_cons _ (alike_submitHandler f g o.submitDelay))).append
    (alike_cons _ hreturn)

/-- **Components of forms that agree but for their labels have the same layout.** -/
theorem alike_code (o : Options) {f g : Form} (h : f.Twins g) : Alike (code o f) (code o g) :=
  ((alike_cons _ (alike_cons _ (alike_recordInterface "FormData" h))).append
    (alike_cons _ (alike_recordInterface "FormErrors" h))).append
    (alike_cons _ (.block (.same _) (alike_body o h)))

end Component

end Formwork
