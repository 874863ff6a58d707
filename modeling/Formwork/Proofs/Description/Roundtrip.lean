import Formwork.Proofs.Description.Grammar

/-!
# Fields as a description, and back

`Description.ofFields` has no escapes, so not every field survives being written and read. Those
that do are the ones that some description spells: `Field.Writable` says which.

## The two directions

* **What comes back.** A field that was read is writable (`Line.Spells.writable`), whatever text it
  was read from. So a list that comes back from its own description was writable all along.
* **What survives.** A writable field spells itself (`spells_line`), and neither the margin that is
  trimmed nor a line end falls into one of its characters (`lines_ofFields`).
-/

namespace Formwork

open Text (Trimmed AllBlank)

/-- A field that a line can spell. Nothing is escaped in a line, so the label is not empty and holds
no `(`, neither text has a blank margin or a line end, and a known tag is not kept as another. -/
structure Field.Writable (f : Field) : Prop where
  label_ne : f.label ≠ ""
  trim_label : Text.trim f.label = f.label
  label_chars : ∀ c ∈ f.label.toList, c ∉ ['(', '\n', '\r', '\u2028', '\u2029']
  trim_tag : Text.trim f.kind.tag = f.kind.tag
  tag_chars : ∀ c ∈ f.kind.tag.toList, c ∉ ['\n', '\r', '\u2028', '\u2029']
  kind_eq : f.kind = Kind.ofTag f.kind.tag

/-! ## What comes back -/

/-- A field that a line spells can be written. -/
theorem Line.Spells.writable {line : String} {f : Field} (h : Line.Spells line f) :
    f.Writable := by
  obtain ⟨hline, label, kind, blanks, rfl, hlabel, -, hf, hne, hk⟩ := h
  have htag : f.kind.tag = Text.trim kind := by rw [hk, Kind.tag_ofTag]
  constructor
  case label_ne => exact hne
  case trim_label => rw [hf, Text.trim_trim]
  case label_chars =>
    intro c hc
    rw [hf, Text.toList_trim] at hc
    have hmem := Text.mem_of_mem_trimChars hc
    rw [List.mem_cons, not_or]
    exact ⟨fun he => hlabel (he ▸ hmem), hline c (by simp [hmem])⟩
  case trim_tag => rw [htag, Text.trim_trim]
  case tag_chars =>
    intro c hc
    rw [htag, Text.toList_trim] at hc
    exact hline c (by simp [Text.mem_of_mem_trimChars hc])
  case kind_eq => rw [htag, hk]

/-- Reading yields a field at least, and fields that can be written. -/
theorem Description.writable_of_read {text : String} {fs : List Field}
    (h : read text = .ok fs) : fs ≠ [] ∧ ∀ f ∈ fs, f.Writable := by
  have hall := read_eq_ok_iff.mp h
  constructor
  · rintro rfl
    exact lines_ne_nil text (List.forall₂_nil_right_iff.mp hall)
  · intro f hf
    obtain ⟨line, hline⟩ := exists_of_forall₂ hall.flip hf
    exact hline.writable

/-! ## A written field -/

namespace Field

theorem toList_line (f : Field) : f.line.toList =
    f.label.toList ++ " (".toList ++ f.kind.tag.toList ++ ", ".toList ++
      Line.closing f.required := by
  simp [line, Line.closing]

theorem closing_chars (required : Bool) :
    ∀ c ∈ Line.closing required, c ∉ ['\n', '\r', '\u2028', '\u2029'] := by
  cases required <;> simp [Line.closing, requirementWord]

theorem getLast?_line (f : Field) : f.line.toList.getLast? = some ')' := by
  rw [toList_line, Line.closing, ← List.append_assoc, List.getLast?_concat]

namespace Writable

variable {f : Field} (h : f.Writable)
include h

/-- A written field is on one line. -/
theorem line_chars : ∀ c ∈ f.line.toList, c ∉ ['\n', '\r', '\u2028', '\u2029'] := by
  have hopening : ∀ c ∈ " (".toList, c ∉ ['\n', '\r', '\u2028', '\u2029'] := by simp
  have hcomma : ∀ c ∈ ", ".toList, c ∉ ['\n', '\r', '\u2028', '\u2029'] := by simp
  intro c hc
  simp only [toList_line, List.mem_append] at hc
  rcases hc with (((hc | hc) | hc) | hc) | hc
  · exact fun hm => h.label_chars c hc (List.mem_cons_of_mem _ hm)
  · exact hopening c hc
  · exact h.tag_chars c hc
  · exact hcomma c hc
  · exact closing_chars _ c hc

theorem label_toList_ne : f.label.toList ≠ [] := by
  rw [Ne, String.toList_eq_nil_iff]
  exact h.label_ne

/-- A written field has no blank margin. -/
theorem trimmed_line : Trimmed f.line.toList := by
  constructor
  · rw [toList_line]
    have hhead := (Text.trim_eq_self_iff.mp h.trim_label).head
    cases hl : f.label.toList with
    | nil => exact absurd hl h.label_toList_ne
    | cons c cs =>
      rw [hl] at hhead
      simpa using hhead
  · rw [getLast?_line]
    rintro c ⟨⟩
    decide

/-- **A field that can be written spells itself.** -/
theorem spells_line : Line.Spells f.line f := by
  have hblank : ∀ c ∈ " ".toList, Text.isBlank c = true := by simp [Text.isBlank]
  refine ⟨h.line_chars, f.label ++ " ", f.kind.tag, " ", ?_, ?_, hblank, ?_, h.label_ne, ?_⟩
  · rw [← String.toList_inj, toList_line]
    simp [Line.closing, requirementWord]
  · simp only [String.toList_append, List.mem_append, not_or]
    exact ⟨fun hm => h.label_chars _ hm (by simp), by decide⟩
  · rw [← String.toList_inj, Text.toList_trim, String.toList_append]
    exact (Text.trimChars_append (a := []) (by simp [AllBlank])
      (Text.trim_eq_self_iff.mp h.trim_label) (by simp [AllBlank]; decide)).symm
  · rw [h.trim_tag]
    exact h.kind_eq

end Writable

end Field

/-! ## Written fields -/

namespace Description

theorem trimmed_intercalate {l : List Char} {ls : List (List Char)}
    (h : ∀ m ∈ l :: ls, Trimmed m ∧ m ≠ []) :
    Trimmed (['\n'].intercalate (l :: ls)) ∧ ['\n'].intercalate (l :: ls) ≠ [] := by
  induction ls generalizing l with
  | nil => simpa using h
  | cons m ls ih =>
    obtain ⟨hl, hne⟩ := h l List.mem_cons_self
    obtain ⟨hrest, hrest_ne⟩ := ih (fun n hn => h n (List.mem_cons_of_mem _ hn))
    rw [List.intercalate_cons_cons]
    refine ⟨⟨?_, ?_⟩, by simp [hne]⟩
    · obtain ⟨c, cs, rfl⟩ := List.exists_cons_of_ne_nil hne
      exact hl.head
    · rw [List.getLast?_append_of_ne_nil _ hrest_ne]
      exact hrest.last

/-- The lines of written fields are those that were written. -/
theorem lines_ofFields {fs : List Field} (hne : fs ≠ []) (h : ∀ f ∈ fs, f.Writable) :
    lines (ofFields fs) = fs.map Field.line := by
  have hpieces : (ofFields fs).toList = ['\n'].intercalate (fs.map fun f => f.line.toList) := by
    rw [ofFields, String.toList_intercalate, List.map_map]
    rfl
  have htrim : Text.trim (ofFields fs) = ofFields fs := by
    rw [Text.trim_eq_self_iff, hpieces]
    obtain ⟨f, gs, rfl⟩ := List.exists_cons_of_ne_nil hne
    refine (trimmed_intercalate ?_).1
    intro m hm
    obtain ⟨g, hg, rfl⟩ : ∃ g ∈ f :: gs, g.line.toList = m :=
      List.mem_map.mp (by simpa using hm)
    exact ⟨(h g hg).trimmed_line, by simp [Field.toList_line, (h g hg).label_toList_ne]⟩
  have hsplit : (ofFields fs).toList.splitOn '\n' = fs.map fun f => f.line.toList := by
    rw [hpieces]
    refine List.splitOn_intercalate '\n' ?_ (by simpa using hne)
    intro m hm hmem
    obtain ⟨g, hg, rfl⟩ := List.mem_map.mp hm
    exact (h g hg).line_chars _ hmem (by simp)
  rw [lines, htrim, hsplit, List.map_map]
  refine List.map_congr_left fun f _ => ?_
  rw [Function.comp_apply, Line.dropReturn_of_last (by simp [Field.getLast?_line]),
    String.ofList_toList]

theorem read_ofFields {fs : List Field} (hne : fs ≠ []) (h : ∀ f ∈ fs, f.Writable) :
    read (ofFields fs) = .ok fs := by
  rw [read_eq_ok_iff, lines_ofFields hne h, List.forall₂_map_left_iff, List.forall₂_same]
  exact fun f hf => (h f hf).spells_line

/-- **Writing and reading are inverse on what can be read.** Fields come back from their own
description exactly if there are any and each can be written; and whatever was read from some
text is such a list. -/
theorem read_ofFields_iff :
    (∀ fs, read (ofFields fs) = .ok fs ↔ fs ≠ [] ∧ ∀ f ∈ fs, f.Writable) ∧
    (∀ text fs, read text = .ok fs → read (ofFields fs) = .ok fs) := by
  refine ⟨fun fs => ⟨writable_of_read, fun h => read_ofFields h.1 h.2⟩, ?_⟩
  intro text fs h
  obtain ⟨hne, hw⟩ := writable_of_read h
  exact read_ofFields hne hw

end Description

end Formwork
