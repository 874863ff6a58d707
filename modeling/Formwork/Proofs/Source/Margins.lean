import Formwork.Proofs.Source.Lines
import Mathlib.Data.List.Forall2

/-!
# The layout of a source text

The layout of a text is how many lines it has, and how far each is indented. Two outlines of the same
shape have the same layout if the texts in the same place are the same, or if both are *solid*: what
is solid neither ends its line nor adds to the margin.

* `Source.margins` — the layout of a text.
* `Outline.Solid` — a text that cannot be told from another by the layout.
* `Outline.Alike` — outlines that differ in solid texts only. There is one rule for each part that an
  outline can begin with, and the lemmas below give one for each way to put outlines together.

**Main statement**: `Outline.Alike.margins_render`.
-/

namespace Formwork

/-- The number of spaces at the front. -/
def Source.leadingSpaces (cs : List Char) : Nat := (cs.takeWhile (· = ' ')).length

/-- The number of spaces in front of each line of a text. -/
def Source.margins (text : String) : List Nat := (text.toList.splitOn '\n').map leadingSpaces

namespace Outline

open Source (margins leadingSpaces)

/-! ## Solid texts -/

/-- A text on one line that begins with a character, and not with a space. -/
def Solid (text : String) : Prop := '\n' ∉ text.toList ∧ text.toList.head?.any (· ≠ ' ') = true

instance (text : String) : Decidable (Solid text) := inferInstanceAs (Decidable (_ ∧ _))

theorem solid_ofList {cs : List Char} (h : '\n' ∉ cs ∧ cs.head?.any (· ≠ ' ') = true) :
    Solid (String.ofList cs) := by rwa [Solid, String.toList_ofList]

theorem Solid.exists_cons {text : String} (h : Solid text) :
    ∃ c cs, text.toList = c :: cs ∧ c ≠ ' ' := by
  obtain ⟨-, hhead⟩ := h
  cases hcs : text.toList with
  | nil =>
    rw [hcs] at hhead
    cases hhead
  | cons c cs =>
    rw [hcs] at hhead
    exact ⟨c, cs, rfl, by simpa using hhead⟩

theorem Solid.append {s t : String} (hs : Solid s) (ht : '\n' ∉ t.toList) : Solid (s ++ t) := by
  obtain ⟨c, cs, hcs, hc⟩ := hs.exists_cons
  constructor
  · simpa using ⟨hs.1, ht⟩
  · simp [hcs, hc]

/-- A solid text has the margin of its depth. -/
theorem Solid.margins_entryLine {text : String} (h : Solid text) (depth : Nat) :
    margins (entryLine (depth, text)) = [2 * depth] := by
  obtain ⟨c, cs, hcs, hc⟩ := h.exists_cons
  have hspaces : ∀ d ∈ List.replicate (2 * depth) ' ', decide (d = ' ') = true := by simp
  have hline : (entryLine (depth, text)).toList =
      List.replicate (2 * depth) ' ' ++ c :: cs := by
    have hne : text.isEmpty = false := by
      rw [← Bool.not_eq_true, String.isEmpty_iff, ← String.toList_inj, hcs]
      exact List.cons_ne_nil c cs
    simp [entryLine, Source.indented, Source.margin, hne, hcs]
  rw [margins, List.splitOn_eq_singleton (newline_notMem_entryLine h.1), List.map_singleton,
    leadingSpaces, hline, List.takeWhile_append_of_pos hspaces,
    List.takeWhile_cons_of_neg (by simpa using hc), List.append_nil, List.length_replicate]

/-! ## Outlines that are alike -/

/-- Texts that cannot be told apart by the layout. -/
inductive AlikeText : String → String → Prop
  | same (text : String) : AlikeText text text
  | solid {s t : String} : Solid s → Solid t → AlikeText s t

/-- Outlines of the same shape, with texts in it that cannot be told apart by the layout. -/
inductive Alike : List Outline → List Outline → Prop
  | nil : Alike [] []
  | line {s t : String} {ps qs : List Outline} :
      AlikeText s t → Alike ps qs → Alike (line s :: ps) (line t :: qs)
  | deeper {xs ys ps qs : List Outline} :
      Alike xs ys → Alike ps qs → Alike (deeper xs :: ps) (deeper ys :: qs)

mutual

theorem alike_cons (p : Outline) {ps qs : List Outline} (h : Alike ps qs) :
    Alike (p :: ps) (p :: qs) := by
  match p with
  | line text => exact .line (.same text) h
  | deeper parts => exact .deeper (alike_refl parts) h

/-- Every outline is alike to itself. -/
theorem alike_refl (ps : List Outline) : Alike ps ps := by
  match ps with
  | [] => exact .nil
  | p :: ps => exact alike_cons p (alike_refl ps)

end

theorem Alike.append {ps ps' qs qs' : List Outline} (hp : Alike ps ps') (hq : Alike qs qs') :
    Alike (ps ++ qs) (ps' ++ qs') := by
  induction hp with
  | nil => exact hq
  | line ht _ ih => exact .line ht ih
  | deeper hx _ _ ih => exact .deeper hx ih

theorem Alike.block {opening opening' closing : String} {ps qs : List Outline}
    (ho : AlikeText opening opening') (h : Alike ps qs) :
    Alike (Outline.block opening closing ps) (Outline.block opening' closing qs) :=
  .line ho (.deeper h (alike_refl [.line closing]))

theorem alike_ofLines {ts us : List String} (h : List.Forall₂ AlikeText ts us) :
    Alike (ofLines ts) (ofLines us) := by
  induction h with
  | nil => exact .nil
  | cons ht _ ih => exact .line ht ih

/-- Solid texts may stand for each other, if there are as many of them. -/
theorem alike_ofLines_solid {ts us : List String} (hlen : ts.length = us.length)
    (ht : ∀ t ∈ ts, Solid t) (hu : ∀ u ∈ us, Solid u) : Alike (ofLines ts) (ofLines us) := by
  refine alike_ofLines (List.forall₂_iff_zip.mpr ⟨hlen, fun h => ?_⟩)
  obtain ⟨htmem, humem⟩ := List.of_mem_zip h
  exact .solid (ht _ htmem) (hu _ humem)

theorem alike_flatMap {α β : Type} {f : α → List Outline} {g : β → List Outline} {xs : List α}
    {ys : List β} (h : List.Forall₂ (fun x y => Alike (f x) (g y)) xs ys) :
    Alike (xs.flatMap f) (ys.flatMap g) := by
  induction h with
  | nil => exact .nil
  | cons hx _ ih => exact hx.append ih

/-! ## The layout -/

/-- The margins of some parts that stand at a depth. -/
def marginsAll (depth : Nat) (ps : List Outline) : List Nat :=
  (entriesAll depth ps).flatMap fun e => margins (entryLine e)

theorem marginsAll_line (depth : Nat) (text : String) (ps : List Outline) :
    marginsAll depth (line text :: ps) = margins (entryLine (depth, text)) ++ marginsAll depth ps :=
  rfl

theorem marginsAll_deeper (depth : Nat) (parts ps : List Outline) :
    marginsAll depth (deeper parts :: ps) =
      marginsAll (depth + 1) parts ++ marginsAll depth ps := List.flatMap_append

/-- The layout of an outline is that of its lines, one after the other. -/
theorem margins_render (ps : List Outline) :
    margins (render ps) = if marginsAll 0 ps = [] then [0] else marginsAll 0 ps := by
  have hlines : (render ps).toList =
      ['\n'].intercalate ((entriesAll 0 ps).map fun e => (entryLine e).toList) := by
    rw [render_eq, String.toList_intercalate, List.map_map]
    rfl
  cases hes : entriesAll 0 ps with
  | nil =>
    rw [hes] at hlines
    have hnil : marginsAll 0 ps = [] := by rw [marginsAll, hes]; rfl
    rw [if_pos hnil, margins, hlines]
    rfl
  | cons e es =>
    rw [hes] at hlines
    have hne : marginsAll 0 ps ≠ [] := by
      rw [marginsAll, hes, List.flatMap_cons]
      simp [margins]
    rw [if_neg hne, margins, hlines, splitOn_intercalate_eq_flatMap _ (by simp), marginsAll, hes,
      List.map_flatMap, List.flatMap_map]
    rfl

theorem AlikeText.margins_eq {s t : String} (h : AlikeText s t) (depth : Nat) :
    margins (entryLine (depth, s)) = margins (entryLine (depth, t)) := by
  cases h with
  | same => rfl
  | solid hs ht => rw [hs.margins_entryLine, ht.margins_entryLine]

theorem Alike.marginsAll_eq {ps qs : List Outline} (h : Alike ps qs) (depth : Nat) :
    marginsAll depth ps = marginsAll depth qs := by
  induction h generalizing depth with
  | nil => rfl
  | line ht _ ih =>
    rw [marginsAll_line, marginsAll_line, ht.margins_eq, ih]
  | deeper _ _ hx hp =>
    rw [marginsAll_deeper, marginsAll_deeper, hx, hp]

/-- **Outlines that are alike have the same layout**: their texts have the same number of lines, and
lines in the same place begin with the same number of spaces. -/
theorem Alike.margins_render {ps qs : List Outline} (h : Alike ps qs) :
    margins (render ps) = margins (render qs) := by
  rw [Outline.margins_render, Outline.margins_render, h.marginsAll_eq]

end Outline

end Formwork
