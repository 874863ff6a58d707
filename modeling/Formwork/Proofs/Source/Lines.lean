import Formwork.Source

/-!
# The lines of a source text

What stands on the lines of a text that was written from an outline, with the indentation taken
apart from the texts.

* `Outline.entriesAll` — the lines of some parts, each with its depth. Writing appends them
  (`lines_writeAll`).
* `Outline.textsAll` — the texts alone.
* `splitOn_intercalate_eq_flatMap`, `splitOn_flatMap_concat` — splitting texts that stand with a
  separator between them, or each in front of one.
* `Source.readLines` — the lines of a text without their margins. A line that holds a line feed comes
  back as several, so only the lines in front of the first such line are known
  (`exists_readLines_render`).
-/

namespace Formwork

namespace Outline

mutual

/-- The lines of a part that stands at a depth. -/
def entries (depth : Nat) : Outline → List (Nat × String)
  | line text => [(depth, text)]
  | deeper parts => entriesAll (depth + 1) parts

/-- The lines of some parts, with their depths. -/
def entriesAll (depth : Nat) : List Outline → List (Nat × String)
  | [] => []
  | p :: ps => p.entries depth ++ entriesAll depth ps

end

mutual

/-- The lines of a part without their depths. -/
def texts : Outline → List String
  | line text => [text]
  | deeper parts => textsAll parts

/-- The lines of some parts without their depths. -/
def textsAll : List Outline → List String
  | [] => []
  | p :: ps => p.texts ++ textsAll ps

end

/-! ## Texts -/

@[simp]
theorem textsAll_nil : textsAll [] = [] := rfl

@[simp]
theorem textsAll_line (text : String) (ps : List Outline) :
    textsAll (line text :: ps) = text :: textsAll ps := rfl

@[simp]
theorem textsAll_blank (ps : List Outline) : textsAll (blank :: ps) = "" :: textsAll ps := rfl

@[simp]
theorem textsAll_append (ps qs : List Outline) :
    textsAll (ps ++ qs) = textsAll ps ++ textsAll qs := by
  induction ps with
  | nil => rfl
  | cons p ps ih => rw [List.cons_append, textsAll, ih, textsAll, List.append_assoc]

@[simp]
theorem textsAll_ofLines (ts : List String) : textsAll (ofLines ts) = ts := by
  induction ts with
  | nil => rfl
  | cons t ts ih =>
    show t :: textsAll (ofLines ts) = t :: ts
    rw [ih]

@[simp]
theorem textsAll_block (opening closing : String) (parts : List Outline) :
    textsAll (block opening closing parts) = opening :: (textsAll parts ++ [closing]) := rfl

theorem textsAll_flatMap {α : Type} (f : α → List Outline) (xs : List α) :
    textsAll (xs.flatMap f) = xs.flatMap fun x => textsAll (f x) := by
  induction xs with
  | nil => rfl
  | cons x xs ih => rw [List.flatMap_cons, textsAll_append, ih, List.flatMap_cons]

mutual

theorem map_snd_entries (depth : Nat) (p : Outline) : (p.entries depth).map (·.2) = p.texts := by
  match p with
  | line text => rfl
  | deeper parts => exact map_snd_entriesAll (depth + 1) parts

theorem map_snd_entriesAll (depth : Nat) (ps : List Outline) :
    (entriesAll depth ps).map (·.2) = textsAll ps := by
  match ps with
  | [] => rfl
  | p :: ps =>
    rw [entriesAll, List.map_append, map_snd_entries depth p, map_snd_entriesAll depth ps, textsAll]

end

theorem entriesAll_append (depth : Nat) (ps qs : List Outline) :
    entriesAll depth (ps ++ qs) = entriesAll depth ps ++ entriesAll depth qs := by
  induction ps with
  | nil => rfl
  | cons p ps ih => rw [List.cons_append, entriesAll, ih, entriesAll, List.append_assoc]

/-! ## Writing -/

/-- A line behind its margin. -/
def entryLine (e : Nat × String) : String := Source.indented e.1 e.2

mutual

/-- Writing a part appends its lines. -/
theorem lines_write (p : Outline) (w : Source) :
    (p.write w).lines.toList = w.lines.toList ++ (p.entries w.depth).map entryLine := by
  match p with
  | line text =>
    show (w.lines.push (Source.indented w.depth text)).toList = _
    rw [Array.toList_push]
    rfl
  | deeper parts => exact lines_writeAll parts w.indent

/-- Writing parts appends their lines. -/
theorem lines_writeAll (ps : List Outline) (w : Source) :
    (writeAll ps w).lines.toList = w.lines.toList ++ (entriesAll w.depth ps).map entryLine := by
  match ps with
  | [] => exact (List.append_nil _).symm
  | p :: ps =>
    rw [writeAll, lines_writeAll ps (p.write w), lines_write p w, depth_write, entriesAll,
      List.map_append, List.append_assoc]

end

/-- The text of an outline is its lines with line feeds between them. -/
theorem render_eq (ps : List Outline) :
    render ps = "\n".intercalate ((entriesAll 0 ps).map entryLine) := by
  rw [render, Source.text, lines_writeAll]
  rfl

end Outline

/-! ## Splitting -/

/-- Splitting takes joined texts apart again, and each of them further. -/
theorem splitOn_intercalate_eq_flatMap (c : Char) {ls : List (List Char)} (hne : ls ≠ []) :
    ([c].intercalate ls).splitOn c = ls.flatMap (·.splitOn c) := by
  induction ls with
  | nil => exact absurd rfl hne
  | cons l ls ih =>
    by_cases hls : ls = []
    · simp [hls]
    · rw [List.intercalate_cons_of_ne_nil hls, List.append_assoc, List.singleton_append,
        List.splitOn_append_cons_self, ih hls, List.flatMap_cons]

/-- Texts that each end in a separator fall apart at it, each of them further, and nothing is left
behind the last. -/
theorem splitOn_flatMap_concat (c : Char) (ls : List (List Char)) :
    (ls.flatMap (· ++ [c])).splitOn c = ls.flatMap (·.splitOn c) ++ [[]] := by
  induction ls with
  | nil => rfl
  | cons l ls ih =>
    rw [List.flatMap_cons, List.append_assoc, List.singleton_append, List.splitOn_append_cons_self,
      ih, List.flatMap_cons, List.append_assoc]

theorem length_splitOn (c : Char) (cs : List Char) : (cs.splitOn c).length = cs.count c + 1 := by
  induction cs with
  | nil => simp
  | cons d cs ih =>
    rw [List.splitOn_cons_eq_if_modifyHead, List.count_cons]
    split
    · rw [List.length_cons, ih]
    · rw [List.length_modifyHead, ih]

theorem length_flatMap_splitOn (c : Char) (ls : List (List Char)) :
    (ls.flatMap (·.splitOn c)).length = ls.flatten.count c + ls.length := by
  induction ls with
  | nil => rfl
  | cons l ls ih =>
    rw [List.flatMap_cons, List.length_append, ih, length_splitOn, List.flatten_cons,
      List.count_append, List.length_cons]
    omega

/-- The pieces are the texts themselves exactly if no text holds the separator. -/
theorem flatMap_splitOn_eq_self_iff (c : Char) (ls : List (List Char)) :
    ls.flatMap (·.splitOn c) = ls ↔ ∀ l ∈ ls, c ∉ l := by
  constructor
  · intro h l hl hc
    have hlen := length_flatMap_splitOn c ls
    rw [h] at hlen
    have hcount : 0 < ls.flatten.count c := List.count_pos_iff.mpr (List.mem_flatten_of_mem hl hc)
    omega
  · intro h
    induction ls with
    | nil => rfl
    | cons l ls ih =>
      rw [List.forall_mem_cons] at h
      rw [List.flatMap_cons, List.splitOn_eq_singleton h.1, ih h.2, List.singleton_append]

theorem newline_notMem_toDigits (n : Nat) : '\n' ∉ Nat.toDigits 10 n := by
  intro h
  exact absurd (Nat.isDigit_of_mem_toDigits (by decide) (by decide) h) (by decide)

/-! ## Reading -/

/-- A line without its margin. -/
def Source.unindented (cs : List Char) : List Char := cs.dropWhile (· = ' ')

/-- The lines of a text without their margins. -/
def Source.readLines (text : String) : List (List Char) :=
  (text.toList.splitOn '\n').map unindented

namespace Outline

open Source (unindented readLines)

theorem unindented_entryLine (e : Nat × String) :
    unindented (entryLine e).toList = unindented e.2.toList := by
  unfold entryLine Source.indented
  split
  · next h => rw [String.isEmpty_iff.mp h]
  · rw [String.toList_append, Source.margin, String.toList_ofList]
    exact List.dropWhile_append_of_pos (by simp)

theorem newline_notMem_entryLine {e : Nat × String} (h : '\n' ∉ e.2.toList) :
    '\n' ∉ (entryLine e).toList := by
  unfold entryLine Source.indented
  split
  · simp
  · rw [String.toList_append, Source.margin, String.toList_ofList]
    simp [h]

/-- What is neither in the separator nor in a part is not in the whole. -/
theorem notMem_intercalate {α : Type} {a : α} {sep : List α} {xs : List (List α)} (hsep : a ∉ sep)
    (hxs : ∀ x ∈ xs, a ∉ x) : a ∉ sep.intercalate xs := by
  induction xs with
  | nil => simp
  | cons x xs ih =>
    have ih := ih fun y hy => hxs y (List.mem_cons_of_mem _ hy)
    have hx := hxs x List.mem_cons_self
    by_cases hne : xs = []
    · simpa [hne] using hx
    · rw [List.intercalate_cons_of_ne_nil hne]
      simp [hx, hsep, ih]

theorem splitOn_intercalate_append {sep : Char} {pre post : List (List Char)}
    (hpre : ∀ cs ∈ pre, sep ∉ cs) (hpost : post ≠ []) :
    ([sep].intercalate (pre ++ post)).splitOn sep = pre ++ ([sep].intercalate post).splitOn sep := by
  induction pre with
  | nil => rfl
  | cons cs pre ih =>
    have hne : pre ++ post ≠ [] := by simp [hpost]
    rw [List.cons_append, List.intercalate_cons_of_ne_nil hne, List.append_assoc,
      List.singleton_append, List.splitOn_append_cons_self_of_not_mem (hpre cs List.mem_cons_self),
      ih fun ds hds => hpre ds (List.mem_cons_of_mem _ hds)]
    rfl

/-- **The lines in front are read back**: as far as the texts hold no line feed, they are the lines
of the text that was written, whatever comes behind. -/
theorem exists_readLines_render {ps : List Outline} {pre post : List String}
    (h : textsAll ps = pre ++ post) (hpre : ∀ t ∈ pre, '\n' ∉ t.toList) (hpost : post ≠ []) :
    ∃ tail, readLines (render ps) = (pre.map fun t => unindented t.toList) ++ tail := by
  -- cut the lines with their depths where the texts are cut
  rw [← map_snd_entriesAll 0, List.map_eq_append_iff] at h
  obtain ⟨es, fs, hes, rfl, rfl⟩ := h
  have hfs : (fs.map entryLine).map String.toList ≠ [] := by
    simpa using hpost
  have hlines : ∀ cs ∈ (es.map entryLine).map String.toList, '\n' ∉ cs := by
    intro cs hcs
    simp only [List.map_map, List.mem_map, Function.comp_apply] at hcs
    obtain ⟨e, he, rfl⟩ := hcs
    exact newline_notMem_entryLine (hpre e.2 (List.mem_map_of_mem he))
  have hsplit : (render ps).toList.splitOn '\n' = (es.map entryLine).map String.toList ++
      (['\n'].intercalate ((fs.map entryLine).map String.toList)).splitOn '\n' := by
    rw [render_eq, hes, String.toList_intercalate, List.map_append, List.map_append]
    exact splitOn_intercalate_append hlines hfs
  have hread : ((es.map entryLine).map String.toList).map unindented =
      (es.map (·.2)).map fun t => unindented t.toList := by
    simp only [List.map_map]
    exact List.map_congr_left fun e _ => unindented_entryLine e
  rw [readLines, hsplit, List.map_append, hread]
  exact ⟨_, rfl⟩

end Outline

end Formwork
