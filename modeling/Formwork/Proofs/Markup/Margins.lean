import Formwork.Markup.Layout
import Formwork.Proofs.Json.Literal
import Formwork.Proofs.Source.Margins

/-!
# The layout of markup

How an element is laid out depends on the number of its attributes and on the sorts of its children.
What its texts say is not seen, as long as none of them holds a line feed: quoting brings none in.

* `Attr.Quiet` — an attribute without a line feed.
* `Node.Alike` — children of a block that have the same layout.

There is one lemma for each way to lay an element out: `Element.alike_inline` for one line and
`Element.alike_mk` for a tag or a block.
-/

namespace Formwork.Markup

open Outline (Alike AlikeText Solid alike_refl)

/-! ## Quoting -/

theorem newline_notMem_escapeChar {c : Char} (hc : c ≠ '\n') : '\n' ∉ escapeChar c := by
  unfold escapeChar
  split
  · decide
  split
  · decide
  split
  · decide
  split
  · decide
  split
  · decide
  · simpa using hc.symm

theorem newline_notMem_escape {s : String} (h : '\n' ∉ s.toList) : '\n' ∉ (escape s).toList := by
  rw [escape, String.toList_ofList]
  intro hmem
  obtain ⟨c, hc, hcs⟩ := List.mem_flatMap.mp hmem
  exact newline_notMem_escapeChar (fun heq => h (heq ▸ hc)) hcs

theorem newline_notMem_braced {e : String} (h : '\n' ∉ e.toList) : '\n' ∉ (braced e).toList := by
  simp [braced, h]

theorem newline_notMem_renderText (d : Dialect) {t : String} (h : '\n' ∉ t.toList) :
    '\n' ∉ (renderText d t).toList := by
  cases d with
  | html =>
    rw [renderText]
    exact newline_notMem_escape h
  | jsx =>
    rw [renderText]
    split
    · exact newline_notMem_braced (Json.newline_notMem_quote t)
    · exact h

/-! ## Attributes -/

/-- An attribute on one line that begins with its name. -/
structure Attr.Quiet (a : Attr) : Prop where
  name : Solid a.name
  text : ∀ v, a.value = .text v → '\n' ∉ v.toList
  expr : ∀ e, a.value = .expr e → '\n' ∉ e.toList

theorem quiet_attr {name value : String} (hn : Solid name) (hv : '\n' ∉ value.toList) :
    (attr name value).Quiet where
  name := hn
  text := by
    rintro v ⟨⟩
    exact hv
  expr := by rintro e ⟨⟩

theorem quiet_dynamic {name value : String} (hn : Solid name) (hv : '\n' ∉ value.toList) :
    (dynamic name value).Quiet where
  name := hn
  text := by rintro v ⟨⟩
  expr := by
    rintro e ⟨⟩
    exact hv

theorem quiet_of_mem_switch {name : String} (hn : Solid name) {on : Bool} :
    ∀ a ∈ switch name on, a.Quiet := by
  intro a ha
  cases on with
  | false => cases ha
  | true =>
    obtain rfl := List.mem_singleton.mp ha
    exact { name := hn, text := fun _ h => AttrValue.noConfusion h,
            expr := fun _ h => AttrValue.noConfusion h }

theorem Attr.Quiet.solid_render {a : Attr} (h : a.Quiet) (d : Dialect) : Solid (a.render d) := by
  obtain ⟨name, value⟩ := a
  have hn : Solid name := h.name
  have hgap : '\n' ∉ "=".toList := by decide
  have hopen : '\n' ∉ "=\"".toList := by decide
  have hclose : '\n' ∉ "\"".toList := by decide
  cases value with
  | present => exact hn
  | text v =>
    have hv := h.text v rfl
    cases d with
    | html => exact ((hn.append hopen).append (newline_notMem_escape hv)).append hclose
    | jsx =>
      show Solid (if mentions ['"', '&'] v then _ else _)
      split
      · exact (hn.append hgap).append (newline_notMem_braced (Json.newline_notMem_quote v))
      · exact ((hn.append hopen).append hv).append hclose
  | expr e =>
    have he := h.expr e rfl
    cases d with
    | html => exact ((hn.append hopen).append (newline_notMem_escape he)).append hclose
    | jsx => exact (hn.append hgap).append (newline_notMem_braced he)

/-- Attributes that cannot be told apart by the layout. -/
inductive AlikeAttrs : List Attr → List Attr → Prop
  | same (as : List Attr) : AlikeAttrs as as
  | quiet {as bs : List Attr} : as.length = bs.length → (∀ a ∈ as, a.Quiet) → (∀ b ∈ bs, b.Quiet) →
      AlikeAttrs as bs

/-! ## Tags -/

variable {d : Dialect} {tag : String} {as bs : List Attr}

theorem newline_notMem_renderAttrs (h : ∀ a ∈ as, a.Quiet) :
    '\n' ∉ (renderAttrs d as).toList := by
  simpa [renderAttrs] using fun a ha => ((h a ha).solid_render d).1

theorem solid_openTag (htag : '\n' ∉ tag.toList) (h : ∀ a ∈ as, a.Quiet) :
    Solid (openTag d tag as) :=
  (Solid.append (by decide) htag).append (newline_notMem_renderAttrs h)

theorem AlikeAttrs.openTag_append (h : AlikeAttrs as bs) (htag : '\n' ∉ tag.toList)
    {ending : String} (hending : '\n' ∉ ending.toList) :
    AlikeText (openTag d tag as ++ ending) (openTag d tag bs ++ ending) := by
  cases h with
  | same => exact .same _
  | quiet _ ha hb =>
    exact .solid ((solid_openTag htag ha).append hending) ((solid_openTag htag hb).append hending)

theorem AlikeAttrs.opening (h : AlikeAttrs as bs) (htag : '\n' ∉ tag.toList) {gap ending : String}
    (hgap : '\n' ∉ (gap ++ ending).toList) :
    Alike (opening d tag as gap ending) (opening d tag bs gap ending) := by
  unfold Markup.opening
  cases h with
  | same => exact alike_refl _
  | quiet hlen ha hb =>
    rw [hlen]
    split
    · refine .block (.same _) (Outline.alike_ofLines_solid (by simpa using hlen) ?_ ?_)
      · exact List.forall_mem_map.mpr fun a hmem => (ha a hmem).solid_render d
      · exact List.forall_mem_map.mpr fun b hmem => (hb b hmem).solid_render d
    · rw [String.append_assoc, String.append_assoc]
      exact .line ((AlikeAttrs.quiet hlen ha hb).openTag_append htag hgap) .nil

theorem AlikeAttrs.leaf (h : AlikeAttrs as bs) (htag : '\n' ∉ tag.toList) :
    Alike (leaf d tag as) (leaf d tag bs) := by
  cases d with
  | jsx => exact h.opening htag (by decide)
  | html =>
    unfold Markup.leaf
    simp only []
    split
    · exact .line (h.openTag_append htag (by decide)) .nil
    · have hclose : '\n' ∉ (">" ++ closeTag tag).toList := by simp [closeTag, htag]
      rw [String.append_assoc, String.append_assoc]
      exact .line (h.openTag_append htag hclose) .nil

/-! ## Elements -/

/-- Children of a block with the same layout. -/
structure Node.Alike (d : Dialect) (m n : Node) : Prop where
  left : m.isText = false
  right : n.isText = false
  outline : Outline.Alike (m.outline d) (n.outline d)

theorem Node.alike_element {e f : Element} (h : Outline.Alike (e.outline d) (f.outline d)) :
    Node.Alike d (.element e) (.element f) := ⟨rfl, rfl, h⟩

theorem Node.alike_conditional {s t : String} (hs : '\n' ∉ s.toList) (ht : '\n' ∉ t.toList)
    {e f : Element} (h : Outline.Alike (e.outline d) (f.outline d)) :
    Node.Alike d (.conditional s e) (.conditional t f) where
  left := rfl
  right := rfl
  outline := by
    have hsolid : ∀ {u : String}, '\n' ∉ u.toList → Solid ("\x7b" ++ u ++ " && (") :=
      fun hu => (Solid.append (by decide) hu).append (by decide)
    exact .block (.solid (hsolid hs) (hsolid ht)) h

theorem alike_outlineAll {ms ns : List Node} (h : List.Forall₂ (Node.Alike d) ms ns) :
    Outline.Alike (outlineAll d ms) (outlineAll d ns) := by
  induction h with
  | nil => exact .nil
  | cons hm _ ih => exact hm.outline.append ih

theorem any_isText_eq_false {ms ns : List Node} (h : List.Forall₂ (Node.Alike d) ms ns) :
    ms.any Node.isText = false ∧ ns.any Node.isText = false := by
  induction h with
  | nil => exact ⟨rfl, rfl⟩
  | cons hm _ ih => simp [hm.left, hm.right, ih.1, ih.2]

/-- **Tags and blocks** with the same layout: that of the attributes and that of the children. -/
theorem Element.alike_mk (htag : '\n' ∉ tag.toList) (hattrs : AlikeAttrs as bs)
    {ms ns : List Node} (h : List.Forall₂ (Node.Alike d) ms ns) :
    Outline.Alike ((Element.mk tag as ms).outline d) ((Element.mk tag bs ns).outline d) := by
  have htext := any_isText_eq_false h
  cases h with
  | nil => exact hattrs.leaf htag
  | @cons m n ms ns hm hms =>
    rw [Element.outline, Element.outline, if_neg (by simp [htext.1]), if_neg (by simp [htext.2])]
    refine (hattrs.opening htag (by decide)).append (.deeper ?_ (alike_refl _))
    exact hm.outline.append (alike_outlineAll hms)

theorem newline_notMem_inlineAll {ms : List Node} (h : ∀ m ∈ ms, '\n' ∉ (m.inline d).toList) :
    '\n' ∉ (inlineAll d ms).toList := by
  induction ms with
  | nil => simp [inlineAll]
  | cons m ms ih =>
    have hm := h m List.mem_cons_self
    have ih := ih fun n hn => h n (List.mem_cons_of_mem m hn)
    simpa [inlineAll] using ⟨hm, ih⟩

theorem solid_inline (htag : '\n' ∉ tag.toList) (ha : ∀ a ∈ as, a.Quiet) {ms : List Node}
    (h : ∀ m ∈ ms, '\n' ∉ (m.inline d).toList) : Solid ((Element.mk tag as ms).inline d) := by
  have hopen : Solid (openTag d tag as) := solid_openTag htag ha
  have hclose : '\n' ∉ (closeTag tag).toList := by simp [closeTag, htag]
  cases ms with
  | nil =>
    rw [Element.inline]
    exact hopen.append (by decide)
  | cons m ms =>
    have hms := newline_notMem_inlineAll h
    rw [inlineAll] at hms
    have h : (Element.mk tag as (m :: ms)).inline d =
        openTag d tag as ++ ">" ++ (m.inline d ++ inlineAll d ms) ++ closeTag tag := by
      rw [Element.inline, ← String.append_assoc]
    rw [h]
    exact ((hopen.append (by decide)).append hms).append hclose

/-- **Elements on one line** all have the same layout. -/
theorem Element.alike_inline {e f : Element} (he : e.isInline = true) (hf : f.isInline = true)
    (hes : Solid (e.inline d)) (hfs : Solid (f.inline d)) :
    Outline.Alike (e.outline d) (f.outline d) := by
  have hline : ∀ {e : Element}, e.isInline = true → e.outline d = [.line (e.inline d)] := by
    rintro ⟨tag, as, ms⟩ h
    cases ms with
    | nil => cases h
    | cons m ms =>
      have h : (m :: ms).any Node.isText = true := h
      rw [Element.outline, if_pos h]
  rw [hline he, hline hf]
  exact .line (.solid hes hfs) .nil

end Formwork.Markup
