import Formwork.Markup.Layout

/-!
# Markup at any place of a source text

What an element adds to a source text does not depend on what stands there already, and where it is
put only moves its lines. So a generator may write the parts of a page one after the other, at
whatever depth it stands.

* `Source.indented_add` — margins add up. A line that is empty at one depth is empty at all.
* `Source.Adds` — a step of writing that adds certain lines wherever it stands, and ends at the depth
  where it began. Such steps follow each other (`Adds.comp`), stand deeper (`Adds.deeper`) and stand
  between two lines (`Adds.block`).
* `Markup.Element.exists_adds` — an element is such a step, by induction over the tree.

**Main statement**: `Element.write_appends`.
-/

namespace Formwork

/-! ## Margins -/

namespace Source

theorem margin_add (m n : Nat) : margin (m + n) = margin m ++ margin n := by
  rw [margin, margin, margin, ← String.ofList_append, List.replicate_append_replicate, Nat.mul_add]

/-- A line behind two margins stands behind their sum. -/
theorem indented_add (m n : Nat) (text : String) :
    indented (m + n) text = indented m (indented n text) := by
  -- the second margin must see an empty line as empty, and no other
  by_cases h : text.isEmpty = true
  · have hn : indented n text = "" := if_pos h
    rw [hn, indented, if_pos h]
    rfl
  · have hn : indented n text = margin n ++ text := if_neg h
    have hne : ¬(margin n ++ text).isEmpty = true := by
      rw [String.isEmpty_iff] at h ⊢
      exact fun he => h (String.append_eq_empty_iff.mp he).2
    rw [hn, indented, if_neg h, indented, if_neg hne, margin_add, String.append_assoc]

theorem indented_zero (text : String) : indented 0 text = text := by
  unfold indented
  split
  · next h => exact (String.isEmpty_iff.mp h).symm
  · exact String.empty_append

/-! ## Steps of writing -/

/-- The step adds the lines, behind the margin of the place where it stands, and ends at the depth
where it began. -/
def Adds (f : Source → Source) (ls : List String) : Prop :=
  ∀ w : Source, (f w).depth = w.depth ∧
    (f w).lines.toList = w.lines.toList ++ ls.map (indented w.depth)

variable {f g : Source → Source} {ls ms : List String}

theorem Adds.id : Adds (fun w => w) [] := fun _ => ⟨rfl, (List.append_nil _).symm⟩

theorem Adds.line (text : String) : Adds (line text) [text] :=
  fun _ => ⟨rfl, Array.toList_push⟩

theorem Adds.congr (hf : Adds f ls) (h : ∀ w, g w = f w) : Adds g ls := by
  intro w
  rw [h w]
  exact hf w

/-- One step behind the other adds the lines of both. -/
theorem Adds.comp (hf : Adds f ls) (hg : Adds g ms) : Adds (fun w => g (f w)) (ls ++ ms) := by
  intro w
  obtain ⟨hdepth, hlines⟩ := hf w
  obtain ⟨hdepth', hlines'⟩ := hg (f w)
  constructor
  · rw [hdepth', hdepth]
  · rw [hlines', hlines, hdepth, List.map_append, List.append_assoc]

/-- A step one level deeper adds its lines behind one more margin. The way out ends where the way in
began, since the step itself keeps the depth. -/
theorem Adds.deeper (hf : Adds f ls) :
    Adds (fun w => (f w.indent).outdent) (ls.map (indented 1)) := by
  intro w
  obtain ⟨hdepth, hlines⟩ := hf w.indent
  constructor
  · show (f w.indent).depth - 1 = w.depth
    rw [hdepth]
    rfl
  · show (f w.indent).lines.toList = _
    rw [hlines, List.map_map]
    congr 1
    exact List.map_congr_left fun text _ => indented_add w.depth 1 text

/-- A block is its two lines with the lines of its body between them, deeper. -/
theorem Adds.block (opening closing : String) (hf : Adds f ls) :
    Adds (block opening closing f) (opening :: (ls.map (indented 1) ++ [closing])) :=
  ((Adds.line opening).comp hf.deeper).comp (Adds.line closing)

/-- A line for each member of a list. -/
theorem Adds.foldl {α : Type} (text : α → String) (xs : List α) :
    Adds (fun w => xs.foldl (fun w x => w.line (text x)) w) (xs.map text) := by
  induction xs with
  | nil => exact Adds.id
  | cons x xs ih => exact (Adds.line (text x)).comp ih

/-- The lines that a step adds are those that it writes on its own. -/
theorem Adds.eq_lines_start (hf : Adds f ls) : ls = (f .start).lines.toList := by
  have hstart : (f .start).lines.toList = ls.map (indented 0) := (hf .start).2
  rw [hstart, List.map_congr_left fun text _ => indented_zero text, List.map_id']

end Source

/-! ## Elements -/

namespace Markup

open Source (Adds)

theorem exists_adds_writeOpening (d : Dialect) (tag : String) (as : List Attr)
    (gap ending : String) : ∃ ls, Adds (writeOpening d tag as gap ending) ls := by
  by_cases hmany : d = .jsx ∧ attrsPerLine < as.length
  · have hblock := (Adds.foldl (Attr.render d) as).block ("<" ++ tag) ending
    exact ⟨_, hblock.congr fun w => if_pos hmany⟩
  · exact ⟨_, (Adds.line _).congr fun w => if_neg hmany⟩

theorem exists_adds_writeLeaf (d : Dialect) (tag : String) (as : List Attr) :
    ∃ ls, Adds (writeLeaf d tag as) ls := by
  cases d with
  | jsx => exact exists_adds_writeOpening .jsx tag as " " "/>"
  | html =>
    by_cases hvoid : voidTags.contains tag = true
    · exact ⟨_, (Adds.line _).congr fun w => if_pos hvoid⟩
    · exact ⟨_, (Adds.line _).congr fun w => if_neg hvoid⟩

mutual

/-- Writing an element adds lines, and goes out as often as it goes in. -/
theorem Element.exists_adds (d : Dialect) (e : Element) : ∃ ls, Adds (e.write d) ls := by
  match e with
  | .mk tag as [] => exact exists_adds_writeLeaf d tag as
  | .mk tag as (c :: cs) =>
    by_cases htext : (c :: cs).any Node.isText = true
    · exact ⟨_, (Adds.line _).congr fun w => if_pos htext⟩
    · obtain ⟨ls, hopening⟩ := exists_adds_writeOpening d tag as "" ">"
      obtain ⟨ms, hc⟩ := c.exists_adds d
      obtain ⟨ns, hcs⟩ := exists_adds_writeAll d cs
      have hblock := (hopening.comp (hc.comp hcs).deeper).comp (Adds.line (closeTag tag))
      exact ⟨_, hblock.congr fun w => if_neg htext⟩

theorem Node.exists_adds (d : Dialect) (c : Node) : ∃ ls, Adds (c.write d) ls := by
  match c with
  | .element e => exact e.exists_adds d
  | .text t => exact ⟨_, Adds.line (renderText d t)⟩
  | .expr e => exact ⟨_, Adds.line (braced e)⟩
  | .conditional condition body =>
    obtain ⟨ls, hbody⟩ := body.exists_adds d
    exact ⟨_, hbody.block _ _⟩

theorem exists_adds_writeAll (d : Dialect) (cs : List Node) : ∃ ls, Adds (writeAll d cs) ls := by
  match cs with
  | [] => exact ⟨[], Adds.id⟩
  | c :: cs =>
    obtain ⟨ls, hc⟩ := c.exists_adds d
    obtain ⟨ms, hcs⟩ := exists_adds_writeAll d cs
    exact ⟨ls ++ ms, hc.comp hcs⟩

end

/-- **An element is written at the end of what there is, at any depth alike**: the depth is as it was
before, and the new lines are those of the element on its own, behind the margin of the depth. -/
theorem Element.write_appends (d : Dialect) (e : Element) (w : Source) :
    (e.write d w).depth = w.depth ∧
      (e.write d w).lines.toList =
        w.lines.toList ++ (e.write d .start).lines.toList.map (Source.indented w.depth) := by
  obtain ⟨ls, hadds⟩ := e.exists_adds d
  rw [← hadds.eq_lines_start]
  exact hadds w

/-- An element with many attributes, behind a line and two levels deep. -/
example : (Element.write .jsx (.mk "p" [attr "a" "", attr "b" "", attr "c" "", attr "d" ""] [])
    ⟨#["x"], 2⟩) = ⟨#["x", "    <p", "      a=\"\"", "      b=\"\"", "      c=\"\"", "      d=\"\"",
      "    />"], 2⟩ := by decide

end Markup

end Formwork
