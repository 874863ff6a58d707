import Formwork.Generate
import Formwork.Proofs.Component.Margins
import Formwork.Proofs.Description.Roundtrip
import Formwork.Proofs.Form.Collision
import Formwork.Proofs.Report.Acceptance
import Formwork.Proofs.Text.CaseMaps

/-!
# Labels and the layout of code

A label says nothing to the layout. Descriptions whose fields have the same kinds, and the same of
them mandatory, have code with the same number of lines and the same indentation in both targets,
whatever the labels are: no label brings a line into the code or moves one.

This rests on a label that was read being on one line, and on the case mappings, the quoting and the
splitting of a heading keeping it there.

**Main statement**: `Description.margins_generate`.
-/

namespace Formwork

open Outline (Solid)
open Source (margins)

/-! ## What is made of a label -/

section

variable {f g : Field} {fs gs : List Field}

theorem Field.Writable.newline_notMem_label (h : f.Writable) : '\n' ∉ f.label.toList :=
  fun hmem => h.label_chars '\n' hmem (by decide)

theorem Field.Writable.newline_notMem_stateKey (h : f.Writable) : '\n' ∉ f.stateKey.toList := by
  have hmark : Text.IsMark '\n' := ⟨by decide, by decide, by decide⟩
  rw [Field.stateKey, Text.mem_lower_iff hmark]
  exact h.newline_notMem_label

theorem newline_notMem_spaceCapitals {cs : List Char} (h : '\n' ∉ cs) :
    '\n' ∉ spaceCapitals cs := by
  intro hmem
  obtain ⟨c, hc, hcs⟩ := List.mem_flatMap.mp hmem
  have hne : '\n' ≠ c := fun heq => h (heq ▸ hc)
  split at hcs <;> simp [hne] at hcs

theorem Field.Writable.newline_notMem_spaced (h : f.Writable) :
    '\n' ∉ (spaced f.label).toList := by
  have hlabel := h.newline_notMem_label
  unfold spaced
  cases hcs : f.label.toList with
  | nil => simp
  | cons c cs =>
    rw [hcs, List.mem_cons, not_or] at hlabel
    simpa using ⟨hlabel.1, newline_notMem_spaceCapitals hlabel.2⟩

theorem Field.Writable.quiet_ofField (h : f.Writable) : (Binding.ofField f).Quiet where
  key := h.newline_notMem_stateKey
  displayLabel := Text.newline_notMem_capitalize h.newline_notMem_label
  type := by
    intro t ht
    have htag : t = f.kind.tag := by
      have ht : Control.ofKind f.kind = .input t := ht
      unfold Control.ofKind at ht
      split at ht <;> cases ht
      rfl
    exact fun hmem => h.tag_chars '\n' (htag ▸ hmem) (by decide)

/-! ## Fields that agree but for their labels -/

/-- Fields that agree in everything but the label. -/
structure Field.Twins (f g : Field) : Prop where
  left : f.Writable
  right : g.Writable
  kind : f.kind = g.kind
  required : f.required = g.required

theorem Field.Twins.ofField (h : f.Twins g) : (Binding.ofField f).Twins (Binding.ofField g) :=
  ⟨h.left.quiet_ofField, h.right.quiet_ofField, h.required, congrArg Control.ofKind h.kind⟩

theorem Field.Twins.rules (h : f.Twins g) :
    List.Forall₂ (fun r s : Rule => r.check = s.check) (Rule.ofField f) (Rule.ofField g) := by
  unfold Rule.ofField
  rw [h.kind, h.required]
  -- the presence rule, then the format rule, each on both sides or on neither
  refine List.rel_append ?_ ?_
  · split
    · exact .cons rfl .nil
    · exact .nil
  · cases Constraint.ofKind? g.kind with
    | none => exact .nil
    | some c => exact .cons rfl .nil

theorem twins_ofFields (h : List.Forall₂ Field.Twins fs gs) :
    (Form.ofFields fs).Twins (Form.ofFields gs) where
  left := by
    cases h with
    | nil => decide
    | cons hf _ => exact hf.left.newline_notMem_spaced
  right := by
    cases h with
    | nil => decide
    | cons hf _ => exact hf.right.newline_notMem_spaced
  bindings := List.rel_map (fun _ _ hf => hf.ofField) h
  rules := List.rel_flatMap h fun _ _ hf => hf.rules

/-- Fields that were read are twins if they have the same kinds and the same are mandatory. -/
theorem forall₂_twins (hf : ∀ f ∈ fs, f.Writable) (hg : ∀ g ∈ gs, g.Writable)
    (h : fs.map (fun f => (f.kind, f.required)) = gs.map fun f => (f.kind, f.required)) :
    List.Forall₂ Field.Twins fs gs := by
  rw [← List.forall₂_eq_eq_eq, List.forall₂_map_left_iff, List.forall₂_map_right_iff,
    List.forall₂_iff_zip] at h
  refine List.forall₂_iff_zip.mpr ⟨h.1, fun hmem => ?_⟩
  obtain ⟨hfmem, hgmem⟩ := List.of_mem_zip hmem
  obtain ⟨hkind, hrequired⟩ := Prod.ext_iff.mp (h.2 hmem)
  exact ⟨hf _ hfmem, hg _ hgmem, hkind, hrequired⟩

end

/-! ## HTML forms -/

namespace HtmlForm

open Markup

/-- A label with its input is on one line. -/
theorem solid_labelled {f : Field} (h : f.Writable) : Solid ((labelled f).inline .html) := by
  have htype : '\n' ∉ f.kind.tag.toList := fun hmem => h.tag_chars '\n' hmem (by decide)
  have hlabel : '\n' ∉ (f.label ++ ": ").toList := by simp [h.newline_notMem_label]
  have hinput : Solid ((input f).inline .html) :=
    solid_inline (by decide)
      (List.forall_mem_cons.mpr ⟨quiet_attr (by decide) htype, quiet_of_mem_switch (by decide)⟩)
      (List.forall_mem_nil _)
  exact solid_inline (by decide) (List.forall_mem_nil _)
    (List.forall_mem_cons.mpr ⟨newline_notMem_renderText .html hlabel,
      List.forall_mem_singleton.mpr hinput.1⟩)

/-- **HTML forms of fields that agree but for their labels have the same layout.** -/
theorem alike_tree {fs gs : List Field} (h : List.Forall₂ Field.Twins fs gs) :
    Outline.Alike ((tree fs).outline .html) ((tree gs).outline .html) := by
  have hlabels : List.Forall₂ (Node.Alike .html) (fs.map fun f => .element (labelled f))
      (gs.map fun f => .element (labelled f)) :=
    List.rel_map (fun _ _ hf => Node.alike_element
      (Element.alike_inline rfl rfl (solid_labelled hf.left) (solid_labelled hf.right))) h
  exact Element.alike_mk (by decide) (.same _)
    (List.rel_append hlabels (.cons (Node.alike_element (Outline.alike_refl _)) .nil))

end HtmlForm

/-! ## Code -/

namespace Description

/-- **Labels do not show in the layout of code.** Let two texts be descriptions with the same kinds
of fields in the same places, of which the same are mandatory. Then their components, without
strictness and under the same options, have the same number of lines, and lines in the same place
begin with the same number of spaces. So have their HTML forms. -/
theorem margins_generate (o : Component.Options) {text text' : String} {fs gs : List Field}
    (h : read text = .ok fs) (h' : read text' = .ok gs)
    (hkinds : fs.map (fun f => (f.kind, f.required)) = gs.map fun f => (f.kind, f.required)) :
    (∃ code code', generate text .react { o with strictKeys := false } = .ok code ∧
      generate text' .react { o with strictKeys := false } = .ok code' ∧
      margins code = margins code') ∧
    (∃ code code', generate text .html o = .ok code ∧ generate text' .html o = .ok code' ∧
      margins code = margins code') := by
  have htwins := forall₂_twins (writable_of_read h).2 (writable_of_read h').2 hkinds
  constructor
  · refine ⟨Component.render o fs, Component.render o gs, ?_, ?_, ?_⟩
    · rw [generate_eq, h]
      exact Component.generate_lenient o fs
    · rw [generate_eq, h']
      exact Component.generate_lenient o gs
    · exact (Component.alike_code o (twins_ofFields htwins)).margins_render
  · refine ⟨HtmlForm.render fs, HtmlForm.render gs, ?_, ?_, ?_⟩
    · rw [generate_eq, h]
      rfl
    · rw [generate_eq, h']
      rfl
    · rw [HtmlForm.render, HtmlForm.render, Markup.Element.render_eq, Markup.Element.render_eq]
      exact (HtmlForm.alike_tree htwins).margins_render

/-- A plain label, and one with the marks of each notation in it. -/
theorem margins_generate_marks :
    (∃ code code', generate "Name (text, required)" .react
        { Component.Options.standard with strictKeys := false } = .ok code ∧
      generate "</h2> \"&\" \x7b\\\x7d (text, required)" .react
        { Component.Options.standard with strictKeys := false } = .ok code' ∧
      margins code = margins code') ∧
    (∃ code code', generate "Name (text, required)" .html .standard = .ok code ∧
      generate "</h2> \"&\" \x7b\\\x7d (text, required)" .html .standard = .ok code' ∧
      margins code = margins code') := by
  have hplain : read "Name (text, required)" = .ok [⟨"Name", .text, true⟩] := by decide
  have hmarks : read "</h2> \"&\" \x7b\\\x7d (text, required)" =
      .ok [⟨"</h2> \"&\" \x7b\\\x7d", .text, true⟩] := by decide
  exact margins_generate .standard hplain hmarks rfl

end Description

end Formwork
