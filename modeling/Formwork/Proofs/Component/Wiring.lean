import Formwork.Component.Page
import Formwork.Proofs.Markup.Elements
import Formwork.Proofs.Script.Member
import Mathlib.Data.List.Nodup

/-!
# The wiring of a page

The parts of a page refer to each other and to the state by names: a label points to a control, a
control has the key under which its value is kept, and an error is looked up under that key again.
All of these come from the binding of one field. So they meet in the group of that field, and where
the keys of a form are distinct they meet nowhere else.

* `Script.equality?` — reads a comparison of a property with a text.
* `Wired` — what holds in the group of one field.
* `elements_page` — all that is wired on a page stands in the groups.
* `WiredPage` — what holds of the whole page.

**Main statement**: `exists_wiredPage`.
-/

namespace Formwork

/-! ## Comparisons -/

/-- The key and the text of a comparison `target.key === "text"`. -/
def Script.equality? (target : String) (cs : List Char) : Option (String × String) := do
  let (key, rest) ← member? target cs
  let rest ← behind? " === ".toList rest
  let (text, rest) ← Json.literal? rest
  if rest = [] then some (key, text) else none

theorem Script.equality?_source (target key text : String) :
    equality? target (member target key ++ " === " ++ Json.quote text).toList =
      some (key, text) := by
  have hs : (member target key ++ " === " ++ Json.quote text).toList =
      (member target key).toList ++ (" === ".toList ++ ((Json.quote text).toList ++ [])) := by
    simp
  have hbehind : behind? " === ".toList (" === ".toList ++ ((Json.quote text).toList ++ [])) =
      some ((Json.quote text).toList ++ []) := behind?_eq_some_iff.mpr rfl
  rw [hs, equality?, member?_member target key (breaks_append _ (by decide) _)]
  simp only [Option.bind_eq_bind, Option.bind_some, hbehind, Json.literal?_quote, if_true]

namespace Component

open Markup

variable {b : Binding}

/-! ## The parts of a field -/

/-- The elements of a page that belong to one field. -/
structure Parts where
  group : Element
  label : Element
  control : Element

/-- The group of a field hangs together.

The control is the only element in the group with a name, which is the state key, and it is
mandatory if the field is. The label is the only one there, and it shows what the field is called.
If the field is no box to tick, the label points to the control and the control holds the value at
the key. A box to tick stands in its label, and it is ticked while the value at the key says so. The
message is shown while there is one at the key, and it is that one. -/
structure Wired (f : Field) (x : Parts) : Prop where
  control : x.group.elements.filter (·.values "name" ≠ []) = [x.control]
  name : x.control.values "name" = [.text f.stateKey]
  required : x.control.values "required" = if f.required then [.present] else []
  label : x.group.elements.filter (·.tag = "label") = [x.label]
  caption : x.label.elements.flatMap Element.texts = [caption (.ofField f)]
  pointed : f.kind ≠ .checkbox →
    x.label.values "htmlFor" = [.text f.stateKey] ∧ x.control.values "id" = [.text f.stateKey]
  value : f.kind ≠ .checkbox → ∃ e, x.control.values "value" = [.expr e] ∧
    Script.member? "formData" e.toList = some (f.stateKey, [])
  wrapped : f.kind = .checkbox → x.control ∈ x.label.elements ∧
    x.label.values "htmlFor" = [] ∧ x.control.values "id" = []
  checked : f.kind = .checkbox → ∃ e, x.control.values "checked" = [.expr e] ∧
    Script.equality? "formData" e.toList = some (f.stateKey, "true")
  message : ∃ condition body e, x.group.conditionals = [(condition, body)] ∧
    Script.member? "errors" condition.toList = some (f.stateKey, []) ∧
    body.children = [.expr e] ∧ Script.member? "errors" e.toList = some (f.stateKey, [])

/-- The control of a field. -/
def control (b : Binding) : Element :=
  match b.control with
  | .checkbox => .mk "input" (tickBoxAttrs b) []
  | .textArea => .mk "textarea" (bound b ++ [dynamic "rows" "4"]) []
  | .input type => .mk "input" (attr "type" type :: bound b) []

/-- The label of a field. -/
def label (b : Binding) : Element :=
  match b.control with
  | .checkbox => tickBox b
  | _ => labelAbove b

/-- The parts of a field. -/
def parts (b : Binding) : Parts := ⟨group b, label b, control b⟩

/-- What else stands in the group of a field. -/
def rest (b : Binding) : List Element :=
  match b.control with
  | .checkbox =>
    [.mk "span" [className "ml-2 text-sm text-gray-600"] [.text (caption b)], complaint b]
  | _ => [complaint b]

theorem elements_group (b : Binding) :
    (group b).elements = group b :: label b :: control b :: rest b := by
  unfold label control rest
  cases h : b.control <;> simp [group, controls, h] <;> rfl

/-! ### Attributes -/

/-- Nothing that the parts of a page refer to. -/
structure Bare (e : Element) : Prop where
  name : e.values "name" = []
  id : e.values "id" = []
  htmlFor : e.values "htmlFor" = []
  conditionals : e.conditionals = []

theorem values_control (b : Binding) :
    (control b).values "name" = [.text b.key] ∧ (control b).values "htmlFor" = [] ∧
      (control b).values "required" = if b.required then [.present] else [] := by
  unfold control
  cases b.control <;> cases hr : b.required <;>
    simp [Element.values, Element.attrs, tickBoxAttrs, bound, switch, attr, dynamic, hr]

/-- What the label of a field points to, and what its control is called. A box to tick stands in its
label and needs no identifier. -/
def identifier (b : Binding) : List AttrValue :=
  if b.control = .checkbox then [] else [.text b.key]

theorem eq_text_of_mem_identifier {v : AttrValue} (h : v ∈ identifier b) : v = .text b.key := by
  unfold identifier at h
  split at h
  · cases h
  · exact List.mem_singleton.mp h

theorem values_id_control (b : Binding) : (control b).values "id" = identifier b := by
  unfold control identifier
  cases b.control <;> cases hr : b.required <;>
    simp [Element.values, Element.attrs, tickBoxAttrs, bound, switch, attr, dynamic, hr]

theorem values_htmlFor_label (b : Binding) : (label b).values "htmlFor" = identifier b := by
  unfold label identifier
  cases b.control <;> rfl

theorem values_checked (h : b.control = .checkbox) : (control b).values "checked" =
    [.expr (valueExpr b ++ " === " ++ Json.quote tickedValue)] := by
  unfold control
  rw [h]
  cases hr : b.required <;>
    simp [Element.values, Element.attrs, tickBoxAttrs, switch, attr, dynamic, hr]

theorem values_value (h : b.control ≠ .checkbox) :
    (control b).values "value" = [.expr (valueExpr b)] := by
  unfold control
  cases hc : b.control with
  | checkbox => exact absurd hc h
  | textArea =>
    cases hr : b.required <;>
      simp [Element.values, Element.attrs, bound, switch, attr, dynamic, hr]
  | input type =>
    cases hr : b.required <;>
      simp [Element.values, Element.attrs, bound, switch, attr, dynamic, hr]

theorem values_label (b : Binding) :
    (label b).values "name" = [] ∧ (label b).values "id" = [] ∧ (label b).conditionals = [] := by
  unfold label
  cases b.control <;> exact ⟨rfl, rfl, rfl⟩

theorem values_group (b : Binding) :
    (group b).values "name" = [] ∧ (group b).values "id" = [] ∧
      (group b).values "htmlFor" = [] := ⟨rfl, rfl, rfl⟩

theorem conditionals_group (b : Binding) :
    (group b).conditionals = [(errorExpr b, complaint b)] := by
  rw [group, Element.conditionals, Element.children, List.filterMap_append, List.filterMap_map]
  exact congrArg (· ++ _) (List.filterMap_eq_nil_iff.mpr fun _ _ => rfl)

theorem bare_of_mem_rest : ∀ e ∈ rest b, Bare e := by
  have hcomplaint : Bare (complaint b) := ⟨rfl, rfl, rfl, rfl⟩
  unfold rest
  cases b.control with
  | checkbox =>
    exact List.forall_mem_cons.mpr
      ⟨⟨rfl, rfl, rfl, rfl⟩, List.forall_mem_singleton.mpr hcomplaint⟩
  | textArea => exact List.forall_mem_singleton.mpr hcomplaint
  | input type => exact List.forall_mem_singleton.mpr hcomplaint

/-! ### The elements of a group -/

theorem filter_eq_flatMap {α : Type} (p : α → Bool) (xs : List α) :
    xs.filter p = xs.flatMap fun x => (Option.guard p x).toList := by
  rw [← List.filterMap_eq_flatMap_toList, List.filterMap_eq_filter]

/-- What the elements of a group say, where only its label and its control say something. -/
theorem flatMap_group {α : Type} {g : Element → List α} (hgroup : g (group b) = [])
    (hbare : ∀ e, Bare e → g e = []) :
    (group b).elements.flatMap g = g (label b) ++ g (control b) := by
  have hrest : (rest b).flatMap g = [] :=
    List.flatMap_eq_nil_iff.mpr fun e he => hbare e (bare_of_mem_rest e he)
  rw [elements_group, List.flatMap_cons, List.flatMap_cons, List.flatMap_cons, hrest, hgroup]
  simp

theorem filter_group {p : Element → Bool} (hgroup : p (group b) = false)
    (hbare : ∀ e, Bare e → p e = false) :
    (group b).elements.filter p = [label b, control b].filter p := by
  rw [filter_eq_flatMap, filter_eq_flatMap, flatMap_group (by simp [Option.guard, hgroup])
    fun e he => by simp [Option.guard, hbare e he]]
  simp

theorem filter_name_group (b : Binding) :
    (group b).elements.filter (·.values "name" ≠ []) = [control b] := by
  rw [filter_group (by simp [(values_group b).1]) fun e he => by simp [he.name]]
  simp [(values_label b).1, (values_control b).1]

theorem filter_label_group (b : Binding) :
    (group b).elements.filter (·.tag = "label") = [label b] := by
  rw [elements_group]
  unfold label control rest
  cases b.control <;> simp [group, tickBox, labelAbove, complaint, Element.tag]

/-- The label of a field shows what the field is called. -/
theorem texts_label (b : Binding) : (label b).elements.flatMap Element.texts = [caption b] := by
  unfold label
  cases b.control <;> rfl

theorem control_mem_label (h : b.control = .checkbox) : control b ∈ (label b).elements := by
  simp [label, control, h, tickBox, Element.elements, Node.elements, elementsAll]

theorem flatMap_conditionals_group (b : Binding) :
    (group b).elements.flatMap Element.conditionals = (group b).conditionals := by
  have hrest : (rest b).flatMap Element.conditionals = [] :=
    List.flatMap_eq_nil_iff.mpr fun e he => (bare_of_mem_rest e he).conditionals
  have hcontrol : (control b).conditionals = [] := by
    unfold control
    cases b.control <;> rfl
  rw [elements_group, List.flatMap_cons, List.flatMap_cons, List.flatMap_cons, hrest, hcontrol,
    (values_label b).2.2]
  simp

/-! ### From a field -/

theorem ofKind_eq_checkbox_iff (k : Kind) : Control.ofKind k = .checkbox ↔ k = .checkbox := by
  cases k <;> simp [Control.ofKind]

/-- The group of a field hangs together. -/
theorem wired_parts (f : Field) : Wired f (parts (.ofField f)) := by
  have hbox : (Binding.ofField f).control = .checkbox ↔ f.kind = .checkbox :=
    ofKind_eq_checkbox_iff f.kind
  have hmember (target : String) :
      Script.member? target (Script.member target f.stateKey).toList = some (f.stateKey, []) := by
    have hread := Script.member?_member target f.stateKey (show Script.Breaks [] by
      intro c hc
      cases hc)
    rwa [List.append_nil] at hread
  constructor
  case control => exact filter_name_group _
  case name => exact (values_control _).1
  case required => exact (values_control _).2.2
  case label => exact filter_label_group _
  case caption => exact texts_label _
  case pointed =>
    intro h
    have hid : identifier (.ofField f) = [.text f.stateKey] := if_neg (mt hbox.mp h)
    exact ⟨(values_htmlFor_label _).trans hid, (values_id_control _).trans hid⟩
  case value =>
    intro h
    exact ⟨_, values_value (mt hbox.mp h), hmember "formData"⟩
  case wrapped =>
    intro h
    have hid : identifier (.ofField f) = [] := if_pos (hbox.mpr h)
    exact ⟨control_mem_label (hbox.mpr h), (values_htmlFor_label _).trans hid,
      (values_id_control _).trans hid⟩
  case checked =>
    intro h
    exact ⟨_, values_checked (hbox.mpr h), Script.equality?_source "formData" f.stateKey _⟩
  case message =>
    exact ⟨_, _, _, conditionals_group _, hmember "errors", rfl, hmember "errors"⟩

/-! ## The whole page -/

/-- The first element of a page, and the card in it. -/
theorem exists_page_eq (o : Options) (f : Form) : ∃ outer inner, page o f =
    .mk "div" [className outer] [.element (.mk "div" [className inner]
      [.element (header f.heading o.subtitle), .element (formElement f.bindings)])] :=
  ⟨_, _, rfl⟩

theorem conditionals_formElement (bs : List Binding) : (formElement bs).conditionals = [] := by
  rw [formElement, Element.conditionals, Element.children, List.filterMap_append,
    List.filterMap_map]
  exact congrArg (· ++ _) (List.filterMap_eq_nil_iff.mpr fun _ _ => rfl)

theorem elements_formElement (bs : List Binding) : (formElement bs).elements =
    formElement bs :: ((bs.flatMap fun b => (group b).elements) ++
      (Element.mk "div" [className "pt-4"] [.element button]).elements) := by
  simp [formElement, Element.elements, elementsAll_eq_flatMap, Node.elements, List.flatMap_map]

/-- **What is wired on a page** stands in the groups of its fields. -/
theorem elements_page (o : Options) (f : Form) : ∃ before after,
    (page o f).elements =
      before ++ (f.bindings.flatMap fun b => (group b).elements) ++ after ∧
    ∀ e ∈ before ++ after, Bare e := by
  obtain ⟨outer, inner, hpage⟩ := exists_page_eq o f
  refine ⟨[page o f, .mk "div" [className inner]
      [.element (header f.heading o.subtitle), .element (formElement f.bindings)]] ++
      (header f.heading o.subtitle).elements ++ [formElement f.bindings],
    (Element.mk "div" [className "pt-4"] [.element button]).elements, ?_, ?_⟩
  · simp [hpage, Element.elements, Node.elements, elementsAll, elements_formElement]
  · have hform : Bare (formElement f.bindings) := ⟨rfl, rfl, rfl, conditionals_formElement _⟩
    rw [hpage]
    simp only [header, button, Element.elements, Node.elements, elementsAll, List.append_nil,
      List.cons_append, List.nil_append, List.forall_mem_cons, List.not_mem_nil, false_imp_iff,
      implies_true, and_true]
    exact ⟨⟨rfl, rfl, rfl, rfl⟩, ⟨rfl, rfl, rfl, rfl⟩, ⟨rfl, rfl, rfl, rfl⟩, ⟨rfl, rfl, rfl, rfl⟩,
      ⟨rfl, rfl, rfl, rfl⟩, hform, ⟨rfl, rfl, rfl, rfl⟩, ⟨rfl, rfl, rfl, rfl⟩⟩

/-- What the elements of a page say, where only those in groups say something. -/
theorem flatMap_page {α : Type} {g : Element → List α} (h : ∀ e, Bare e → g e = [])
    (o : Options) (f : Form) : (page o f).elements.flatMap g =
      f.bindings.flatMap fun b => (group b).elements.flatMap g := by
  obtain ⟨before, after, hpage, hbare⟩ := elements_page o f
  rw [List.forall_mem_append] at hbare
  have hbefore : before.flatMap g = [] :=
    List.flatMap_eq_nil_iff.mpr fun e he => h e (hbare.1 e he)
  have hafter : after.flatMap g = [] :=
    List.flatMap_eq_nil_iff.mpr fun e he => h e (hbare.2 e he)
  rw [hpage, List.flatMap_append, List.flatMap_append, hbefore, hafter, List.flatMap_assoc,
    List.nil_append, List.append_nil]

theorem filter_page {p : Element → Bool} (h : ∀ e, Bare e → p e = false) (o : Options)
    (f : Form) : (page o f).elements.filter p =
      f.bindings.flatMap fun b => (group b).elements.filter p := by
  simp only [filter_eq_flatMap]
  exact flatMap_page (fun e he => by simp [Option.guard, h e he]) o f

/-! ### References -/

/-- Where nothing but a label has a pointer, what points to `v` on a page are the labels of the
fields with that identifier. -/
theorem filter_htmlFor_page (v : AttrValue) (o : Options) (f : Form) :
    ((page o f).elements.filter fun e => v ∈ e.values "htmlFor") =
      (f.bindings.filter fun b => v ∈ identifier b).map label := by
  rw [filter_page fun e he => by simp [he.htmlFor]]
  induction f.bindings with
  | nil => rfl
  | cons b bs ih =>
    rw [List.flatMap_cons, ih,
      filter_group (by simp [(values_group b).2.2]) fun e he => by simp [he.htmlFor]]
    by_cases h : v ∈ identifier b <;>
      simp [values_htmlFor_label, (values_control b).2.1, h]

theorem filter_id_page (v : AttrValue) (o : Options) (f : Form) :
    ((page o f).elements.filter fun e => v ∈ e.values "id") =
      (f.bindings.filter fun b => v ∈ identifier b).map control := by
  rw [filter_page fun e he => by simp [he.id]]
  induction f.bindings with
  | nil => rfl
  | cons b bs ih =>
    rw [List.flatMap_cons, ih,
      filter_group (by simp [(values_group b).2.1]) fun e he => by simp [he.id]]
    by_cases h : v ∈ identifier b <;> simp [values_id_control, (values_label b).2.1, h]

/-- Where keys are distinct, an identifier belongs to one field. -/
theorem filter_identifier {bs : List Binding} (h : (bs.map (·.key)).Nodup) (v : AttrValue) :
    (bs.filter fun b => v ∈ identifier b) = [] ∨
      ∃ b ∈ bs, (bs.filter fun b => v ∈ identifier b) = [b] := by
  by_cases hex : ∃ b ∈ bs, v ∈ identifier b
  · obtain ⟨b, hb, hv⟩ := hex
    refine .inr ⟨b, hb, ?_⟩
    have hunique : ∀ c ∈ bs, decide (v ∈ identifier c) = decide (c = b) := by
      intro c hc
      rw [decide_eq_decide]
      refine ⟨fun hvc => List.inj_on_of_nodup_map h hc hb ?_, fun hcb => hcb ▸ hv⟩
      have hkey := (eq_text_of_mem_identifier hvc).symm.trans (eq_text_of_mem_identifier hv)
      exact AttrValue.text.inj hkey
    rw [List.filter_congr hunique, List.filter_eq, List.count_eq_one_of_mem h.of_map hb]
    rfl
  · refine .inl (List.filter_eq_nil_iff.mpr fun b hb => ?_)
    simpa using fun hv => hex ⟨b, hb, hv⟩

theorem nodup_identifiers {bs : List Binding} (h : (bs.map (·.key)).Nodup) :
    (bs.flatMap identifier).Nodup := by
  rw [List.nodup_flatMap]
  refine ⟨fun b _ => ?_, (List.pairwise_map.mp h).imp fun hne v hb hc => hne ?_⟩
  · unfold identifier
    split
    · exact List.nodup_nil
    · exact List.nodup_singleton _
  · have hkey := (eq_text_of_mem_identifier hb).symm.trans (eq_text_of_mem_identifier hc)
    exact AttrValue.text.inj hkey

/-- A page is wired as a whole: besides what holds in the group of each field, nothing outside the
groups takes part, the controls have the keys as their names in the order of the fields, no
identifier occurs twice, and what a label points to is the control of the same field. -/
structure WiredPage (fs : List Field) (p : Element) (xs : List Parts) : Prop where
  fields : List.Forall₂ Wired fs xs
  groups : ∃ before after, p.elements = before ++ xs.flatMap (·.group.elements) ++ after ∧
    ∀ e ∈ before ++ after, Bare e
  controls : p.elements.filter (·.values "name" ≠ []) = xs.map (·.control)
  names : p.elements.flatMap (·.values "name") = fs.map fun f => .text f.stateKey
  identifiers : (p.elements.flatMap (·.values "id")).Nodup
  /-- A text is an identifier on the page if and only if there is a label for it. -/
  pointers : ∀ v,
    ((p.elements.filter fun e => v ∈ e.values "htmlFor") = [] ∧
      (p.elements.filter fun e => v ∈ e.values "id") = []) ∨
    ∃ x ∈ xs, (p.elements.filter fun e => v ∈ e.values "htmlFor") = [x.label] ∧
      (p.elements.filter fun e => v ∈ e.values "id") = [x.control]
  messages : p.elements.flatMap Element.conditionals = xs.flatMap (·.group.conditionals)

/-- **A page is wired consistently** where the state keys are distinct. -/
theorem exists_wiredPage (o : Options) {fs : List Field} (h : (fs.map Field.stateKey).Nodup) :
    ∃ xs, WiredPage fs (page o (.ofFields fs)) xs := by
  have hbindings : (Form.ofFields fs).bindings = fs.map .ofField := rfl
  have hkeys : ((fs.map Binding.ofField).map (·.key)).Nodup := by
    simpa [List.map_map, Function.comp_def, Binding.ofField] using h
  refine ⟨(fs.map .ofField).map parts, ?_⟩
  constructor
  case fields =>
    rw [List.map_map, List.forall₂_map_right_iff, List.forall₂_same]
    exact fun f _ => wired_parts f
  case groups =>
    rw [List.flatMap_map]
    exact elements_page o _
  case controls =>
    rw [filter_page fun e he => by simp [he.name], List.map_map, List.map_eq_flatMap]
    exact List.flatMap_congr fun b _ => filter_name_group b
  case names =>
    have hgroup (b : Binding) :
        (group b).elements.flatMap (·.values "name") = [.text b.key] := by
      rw [flatMap_group (values_group b).1 fun e he => he.name, (values_label b).1,
        (values_control b).1, List.nil_append]
    rw [flatMap_page fun e he => he.name, List.flatMap_congr fun b _ => hgroup b,
      ← List.map_eq_flatMap, hbindings, List.map_map]
    rfl
  case identifiers =>
    have hgroup (b : Binding) : (group b).elements.flatMap (·.values "id") = identifier b := by
      rw [flatMap_group (values_group b).2.1 fun e he => he.id, (values_label b).2.1,
        values_id_control, List.nil_append]
    rw [flatMap_page fun e he => he.id, List.flatMap_congr fun b _ => hgroup b, hbindings]
    exact nodup_identifiers hkeys
  case pointers =>
    intro v
    rw [filter_htmlFor_page, filter_id_page, hbindings]
    rcases filter_identifier hkeys v with hnone | ⟨b, hb, hone⟩
    · rw [hnone]
      exact .inl ⟨rfl, rfl⟩
    · rw [hone]
      exact .inr ⟨parts b, List.mem_map_of_mem hb, rfl, rfl⟩
  case messages =>
    rw [flatMap_page fun e he => he.conditionals, List.flatMap_map, hbindings]
    exact List.flatMap_congr fun b _ => flatMap_conditionals_group b

/-- Three sorts of controls, and a key that is no name of a script. -/
theorem exists_wiredPage_three :
    ([⟨"Full Name", .text, true⟩, ⟨"Bio", .textarea, false⟩, ⟨"Accept", .checkbox, true⟩].map
      Field.stateKey).Nodup ∧
    ∃ xs, WiredPage
      [⟨"Full Name", .text, true⟩, ⟨"Bio", .textarea, false⟩, ⟨"Accept", .checkbox, true⟩]
      (page .standard (.ofFields
        [⟨"Full Name", .text, true⟩, ⟨"Bio", .textarea, false⟩, ⟨"Accept", .checkbox, true⟩]))
      xs :=
  ⟨by decide, exists_wiredPage .standard (by decide)⟩

end Component

end Formwork
