import Formwork.Gallery
import Formwork.Proofs.Source.Lines
import Mathlib.Data.List.Forall2
import Mathlib.Data.String.Basic

/-!
# The listing of a gallery

A listing shows each template on a line of its own, with the icons in one column. The room for the
keys is counted in bytes but filled up by the character. A character takes at least a byte, so there
is always room, whatever the keys are written in.

* `Template.ShownAt` — a line that shows a template, with the icon in a given column.
* `Template.OneLine` — a template whose texts hold no line feed.

**Main statement**: `Template.listing_aligned`.
-/

namespace Formwork.Template

/-- The line shows a template with the icon in a column: the whole key, spaces up to the column, and
then everything else. -/
def ShownAt (column : Nat) (t : Template) (line : String) : Prop :=
  ∃ gap : String, (∀ c ∈ gap.toList, c = ' ') ∧ (t.key ++ gap).length = column ∧
    line = t.key ++ gap ++ t.icon ++ " " ++ t.name ++ " (" ++ t.fieldCount ++ ") - " ++
      t.description

/-- The texts that a listing shows hold no line feed. -/
structure OneLine (t : Template) : Prop where
  key : '\n' ∉ t.key.toList
  icon : '\n' ∉ t.icon.toList
  name : '\n' ∉ t.name.toList
  description : '\n' ∉ t.description.toList

variable {ts : List Template} {t : Template} {width column : Nat}

/-! ## The room for the keys -/

/-- A text takes at least as many bytes as it has characters. -/
theorem length_le_utf8ByteSize (s : String) : s.length ≤ s.utf8ByteSize := by
  have hchars : ∀ cs : List Char, cs.length ≤ String.utf8Len cs := by
    intro cs
    induction cs with
    | nil => exact Nat.le_refl 0
    | cons c cs ih =>
      have hc := c.utf8Size_pos
      rw [List.length_cons, String.utf8Len_cons]
      omega
  have hs := hchars s.toList
  rwa [String.length_toList, ← String.utf8ByteSize_ofList, String.ofList_toList] at hs

theorem length_key_le_keyWidth (ht : t ∈ ts) : t.key.length ≤ keyWidth ts := by
  have hmem : t.key.utf8ByteSize ∈ ts.map (·.key.utf8ByteSize) := List.mem_map_of_mem ht
  calc t.key.length
    _ ≤ t.key.utf8ByteSize := length_le_utf8ByteSize t.key
    _ ≤ keyWidth ts := by
      rw [keyWidth, List.foldl_max]
      exact Nat.le_trans (List.le_max?_getD_of_mem hmem) (Nat.le_max_right _ _)

/-! ## Entries -/

/-- Where there is room for its key, a template is shown on a line, with the icon two columns behind
that room. -/
theorem exists_entry_eq (h : t.key.length ≤ width) :
    ∃ line, ShownAt (width + 2) t line ∧ entry width t = line ++ "\n" := by
  have hgap : ∀ c ∈ (String.ofList (List.replicate (width - t.key.length) ' ') ++ "  ").toList,
      c = ' ' := by
    intro c hc
    rw [String.toList_append, String.toList_ofList, List.mem_append] at hc
    rcases hc with hc | hc
    · exact List.eq_of_mem_replicate hc
    · simpa using hc
  have hcolumn : (t.key ++ (String.ofList (List.replicate (width - t.key.length) ' ') ++
      "  ")).length = width + 2 := by
    rw [String.length_append, String.length_append, String.length_ofList, List.length_replicate]
    show t.key.length + (width - t.key.length + 2) = width + 2
    omega
  exact ⟨_, ⟨_, hgap, hcolumn, rfl⟩, by simp only [entry, padRight, String.append_assoc]⟩

theorem exists_lines (h : ∀ t ∈ ts, t.key.length ≤ width) :
    ∃ lines, List.Forall₂ (ShownAt (width + 2)) ts lines ∧
      ts.map (entry width) = lines.map (· ++ "\n") := by
  induction ts with
  | nil => exact ⟨[], .nil, rfl⟩
  | cons t ts ih =>
    rw [List.forall_mem_cons] at h
    obtain ⟨line, hline, hentry⟩ := exists_entry_eq h.1
    obtain ⟨lines, hlines, hentries⟩ := ih h.2
    refine ⟨line :: lines, .cons hline hlines, ?_⟩
    rw [List.map_cons, hentry, hentries, List.map_cons]

/-! ## Lines -/

theorem newline_notMem_fieldCount (t : Template) : '\n' ∉ t.fieldCount.toList := by
  unfold fieldCount
  split <;> simp [newline_notMem_toDigits]

/-- A template is shown on one line if its texts are each on one line. -/
theorem ShownAt.newline_notMem_iff {line : String} (h : ShownAt column t line) :
    '\n' ∉ line.toList ↔ t.OneLine := by
  obtain ⟨gap, hgap, -, rfl⟩ := h
  have hspaces : '\n' ∉ gap.toList := fun hmem => absurd (hgap _ hmem) (by decide)
  constructor
  · intro hline
    simp only [String.toList_append, List.mem_append, not_or] at hline
    obtain ⟨⟨⟨⟨⟨⟨⟨⟨hkey, -⟩, hicon⟩, -⟩, hname⟩, -⟩, -⟩, -⟩, hdescription⟩ := hline
    exact ⟨hkey, hicon, hname, hdescription⟩
  · intro ht
    simp [ht.key, ht.icon, ht.name, ht.description, hspaces, newline_notMem_fieldCount]

theorem forall_oneLine_iff {lines : List String} (h : List.Forall₂ (ShownAt column) ts lines) :
    (∀ t ∈ ts, t.OneLine) ↔ ∀ line ∈ lines, '\n' ∉ line.toList := by
  induction h with
  | nil => simp
  | cons hline _ ih => rw [List.forall_mem_cons, List.forall_mem_cons, ih, hline.newline_notMem_iff]

/-- **A listing is aligned and complete**: it shows every template, in order, each key in full and all
icons in one column, which is at least two columns behind every key. If and only if no text of a
template holds a line feed, the lines of the listing are those of the templates, each with a line
feed at its end. -/
theorem listing_aligned (ts : List Template) :
    ∃ column lines, (∀ t ∈ ts, t.key.length + 2 ≤ column) ∧
      List.Forall₂ (ShownAt column) ts lines ∧
      listing ts = String.join (lines.map (· ++ "\n")) ∧
      ((∀ t ∈ ts, t.OneLine) ↔
        (listing ts).toList.splitOn '\n' = lines.map String.toList ++ [[]]) := by
  have hroom : ∀ t ∈ ts, t.key.length ≤ keyWidth ts := fun t ht => length_key_le_keyWidth ht
  obtain ⟨lines, hshown, hentries⟩ := exists_lines hroom
  have hlisting : listing ts = String.join (lines.map (· ++ "\n")) := by rw [listing, hentries]
  have hchars : (listing ts).toList = (lines.map String.toList).flatMap (· ++ ['\n']) := by
    rw [hlisting, String.toList_join, List.flatMap_map, List.flatMap_map]
    simp
  refine ⟨keyWidth ts + 2, lines, fun t ht => Nat.add_le_add_right (hroom t ht) 2, hshown, hlisting,
    ?_⟩
  rw [hchars, splitOn_flatMap_concat, List.append_cancel_right_eq, flatMap_splitOn_eq_self_iff,
    forall_oneLine_iff hshown]
  simp

/-- Two characters of six bytes and three of three leave the same room. -/
example : listing [⟨"名前", "N", "*", "D", []⟩, ⟨"abc", "M", "*", "E", []⟩] =
    "名前      * N (0 fields) - D\nabc     * M (0 fields) - E\n" := by decide

end Formwork.Template
