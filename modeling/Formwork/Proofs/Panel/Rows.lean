import Formwork.Panel
import Formwork.Proofs.Component.Declarations
import Formwork.Proofs.Description.Roundtrip
import Formwork.Proofs.HtmlForm.Fields
import Formwork.Proofs.Text.CaseMaps

/-!
# The rows of a panel and the fields of its code

A panel writes its rows as a description without any escapes, and generates from what is read back.
A `(` in a label ends the label there, and a line feed in a type ends the line. These two are the
only marks that can take a row apart: any other row that is read at all is read as it was meant.

* `FieldDraft.WrittenAs` — the texts that a row may be in the trimmed description.
* `FieldDraft.Plain` — a row without the two marks.

## The two directions

* **Plain rows** come back as one field each (`fields_eq_of_plain`). A line feed may still
  stand in a label, but then the line in front of it has no parenthesis and is no field.
* **Same code**, same state keys (`Target.keys_eq_of_generate`). So there are as many fields as
  rows, which leaves no line feed in a type, and the labels of the rows hold no more parentheses
  than those of the fields.

**Main statement**: `generate_eq_rows_iff`.
-/

namespace Formwork

open Text (AllBlank)

/-! ## A row in the description -/

namespace FieldDraft

/-- The field of a row, with trimmed texts. -/
def trimmed (r : FieldDraft) : Field :=
  ⟨Text.trim r.label, Kind.ofTag (Text.trim r.kind), r.required⟩

/-- The row holds no mark that a line would be taken apart at. -/
structure Plain (r : FieldDraft) : Prop where
  label : '(' ∉ r.label.toList
  kind : '\n' ∉ r.kind.toList

/-- What stands in the line of a row behind the parenthesis that the line opens. -/
def inside (r : FieldDraft) : List Char :=
  r.kind.toList ++ ',' :: (" ".toList ++ Line.closing r.required)

/-- The line of a row, or what is left of it when some of the blanks at its front are gone. -/
def WrittenAs (r : FieldDraft) (cs : List Char) : Prop :=
  ∃ margin label, AllBlank margin ∧ r.label.toList ++ " ".toList = margin ++ label ∧
    cs = label ++ '(' :: r.inside

variable {r : FieldDraft} {cs : List Char}

theorem toList_line (r : FieldDraft) :
    r.line.toList = r.label.toList ++ " ".toList ++ '(' :: r.inside := by
  rw [← line_toField, Field.toList_line]
  simp [toField, inside, Kind.tag_ofTag]

theorem getLast?_line (r : FieldDraft) : r.line.toList.getLast? = some ')' := by
  rw [← line_toField, Field.getLast?_line]

theorem writtenAs_line (r : FieldDraft) : r.WrittenAs r.line.toList :=
  ⟨[], _, Text.allBlank_nil, rfl, r.toList_line⟩

theorem writtenAs_dropWhile (r : FieldDraft) :
    r.WrittenAs (r.line.toList.dropWhile Text.isBlank) := by
  refine ⟨_, _, fun c hc => List.mem_takeWhile_imp hc, List.takeWhile_append_dropWhile.symm, ?_⟩
  rw [toList_line, Text.dropWhile_append_cons (by decide)]

namespace WrittenAs

theorem getLast?_eq (h : r.WrittenAs cs) : cs.getLast? = some ')' := by
  obtain ⟨margin, label, -, hfront, rfl⟩ := h
  have hlast := r.getLast?_line
  rw [toList_line, hfront, List.append_assoc] at hlast
  rwa [List.getLast?_append_of_ne_nil _ (by simp)] at hlast

/-- What is in front of the parenthesis has no other one, in a plain row. -/
theorem parenthesis_notMem {margin label : List Char} (hr : r.Plain)
    (hfront : r.label.toList ++ " ".toList = margin ++ label) : '(' ∉ label := by
  intro hc
  have hmem : '(' ∈ r.label.toList ++ " ".toList := hfront ▸ List.mem_append_right _ hc
  rcases List.mem_append.mp hmem with hmem | hmem
  · exact hr.label hmem
  · exact absurd hmem (by decide)

/-- A line of a plain row is whole if every piece of it is a field. -/
theorem newline_notMem (h : r.WrittenAs cs) (hr : r.Plain)
    (hpieces : ∀ piece ∈ cs.splitOn '\n',
      ∃ f, Line.Spells (String.ofList (Line.dropReturn piece)) f) : '\n' ∉ cs := by
  obtain ⟨margin, label, -, hfront, rfl⟩ := h
  rw [List.mem_append, List.mem_cons, not_or, not_or]
  refine ⟨?_, by decide, ?_⟩
  · -- the piece in front of a line feed in the label would have no parenthesis
    intro hnl
    obtain ⟨piece, rest, rfl, hpiece⟩ := List.eq_append_cons_of_mem hnl
    rw [List.append_assoc, List.cons_append,
      List.splitOn_append_cons_self_of_not_mem hpiece] at hpieces
    obtain ⟨f, hf⟩ := hpieces piece List.mem_cons_self
    have hmem := hf.parenthesis_mem
    rw [String.toList_ofList] at hmem
    exact parenthesis_notMem hr hfront
      (List.mem_append_left _ (Line.mem_of_mem_dropReturn hmem))
  · have hclosing : '\n' ∉ Line.closing r.required :=
      fun hc => Field.closing_chars _ _ hc (by simp)
    simp [inside, hr.kind, hclosing]

/-- A plain row is read as its field. -/
theorem eq_trimmed (h : r.WrittenAs cs) (hr : r.Plain) {f : Field}
    (hf : Line.Spells (String.ofList cs) f) : f = r.trimmed := by
  obtain ⟨margin, label, hmargin, hfront, rfl⟩ := h
  have hspace : AllBlank " ".toList := by simp [AllBlank, Text.isBlank]
  have hread := Line.field?_toList_eq_some_iff.mpr hf
  rw [String.toList_ofList] at hread
  have htrim : Text.trimChars label = Text.trimChars r.label.toList := by
    have hleft := Text.trimChars_margins hmargin Text.allBlank_nil label
    have hright := Text.trimChars_margins Text.allBlank_nil hspace r.label.toList
    rw [List.append_nil, ← hfront] at hleft
    exact hleft.symm.trans hright
  rw [Line.eq_of_field?_eq_some (parenthesis_notMem hr hfront) hspace hread, htrim]
  rfl

end WrittenAs

end FieldDraft

/-! ## The trimmed description -/

theorem getLast?_intercalate {c d : Char} {l : List Char} {ls : List (List Char)}
    (h : ∀ m ∈ l :: ls, m.getLast? = some d) : ([c].intercalate (l :: ls)).getLast? = some d := by
  induction ls generalizing l with
  | nil => simpa using h
  | cons m ls ih =>
    have ih := ih fun n hn => h n (List.mem_cons_of_mem _ hn)
    have hne : [c].intercalate (m :: ls) ≠ [] := by
      intro he
      rw [he] at ih
      cases ih
    rw [List.intercalate_cons_cons, List.getLast?_append_of_ne_nil _ hne, ih]

/-- The text behind the first item does not depend on that item. -/
theorem exists_intercalate_eq (c : Char) (ls : List (List Char)) :
    ∃ tail, ∀ l, [c].intercalate (l :: ls) = l ++ tail := by
  cases ls with
  | nil => exact ⟨[], fun l => by simp⟩
  | cons m ls => exact ⟨[c] ++ [c].intercalate (m :: ls), fun l => by
      rw [List.intercalate_cons_cons, List.append_assoc]⟩

namespace Panel

variable {p : Panel} {t : Target} {o : Component.Options} {fs : List Field}

/-- Trimming a description takes blanks from the front of the first row. -/
theorem exists_trim_description (hne : p.rows ≠ []) :
    ∃ ls, ls ≠ [] ∧ List.Forall₂ FieldDraft.WrittenAs p.rows ls ∧
      (Text.trim p.description).toList = ['\n'].intercalate ls := by
  obtain ⟨r, rs, hrows⟩ := List.exists_cons_of_ne_nil hne
  let first := r.line.toList.dropWhile Text.isBlank
  have hwritten : List.Forall₂ FieldDraft.WrittenAs (r :: rs)
      (first :: rs.map fun s => s.line.toList) := by
    refine .cons r.writtenAs_dropWhile ?_
    rw [List.forall₂_map_right_iff, List.forall₂_same]
    exact fun s _ => s.writtenAs_line
  refine ⟨_, List.cons_ne_nil _ _, hrows ▸ hwritten, ?_⟩
  obtain ⟨tail, htail⟩ := exists_intercalate_eq '\n' (rs.map fun s => s.line.toList)
  have hdescription : p.description.toList = r.line.toList ++ tail := by
    rw [← htail, description, hrows, String.toList_intercalate, List.map_map]
    rfl
  have hlast : p.description.toList.getLast? = some ')' := by
    rw [hdescription, ← htail]
    refine getLast?_intercalate ?_
    rw [List.forall_mem_cons, List.forall_mem_map]
    exact ⟨r.getLast?_line, fun s _ => s.getLast?_line⟩
  have hfirst : ¬ first.isEmpty = true := by
    intro he
    have h := r.writtenAs_dropWhile.getLast?_eq
    rw [show r.line.toList.dropWhile Text.isBlank = [] from List.isEmpty_iff.mp he] at h
    cases h
  rw [Text.toList_trim, Text.trimChars_eq_dropWhile (by rw [hlast]; rintro c ⟨⟩; decide),
    hdescription, List.dropWhile_append, if_neg hfirst, htail]

/-- The fields of a description come from the pieces of the lines of its rows. -/
theorem exists_pieces (hne : p.rows ≠ []) (h : Description.read p.description = .ok fs) :
    ∃ ls, ls ≠ [] ∧ List.Forall₂ FieldDraft.WrittenAs p.rows ls ∧
      (ls.flatMap (·.splitOn '\n')).Forall₂
        (fun piece f => Line.Spells (String.ofList (Line.dropReturn piece)) f) fs := by
  obtain ⟨ls, hls, hwritten, htrim⟩ := exists_trim_description hne
  have hlines := Description.read_eq_ok_iff.mp h
  rw [Description.lines, htrim, splitOn_intercalate_eq_flatMap '\n' hls,
    List.forall₂_map_left_iff] at hlines
  exact ⟨ls, hls, hwritten, hlines⟩

theorem eq_map_trimmed {rows : List FieldDraft} {ls : List (List Char)}
    (hplain : ∀ r ∈ rows, r.Plain) (hwritten : List.Forall₂ FieldDraft.WrittenAs rows ls)
    (hfields : List.Forall₂
      (fun cs f => Line.Spells (String.ofList (Line.dropReturn cs)) f) ls fs) :
    fs = rows.map FieldDraft.trimmed := by
  induction hwritten generalizing fs with
  | nil =>
    cases hfields
    rfl
  | @cons r cs rows ls hr _ ih =>
    obtain ⟨f, gs, hf, hgs, rfl⟩ := List.forall₂_cons_left_iff.mp hfields
    obtain ⟨hplain, hrest⟩ := List.forall_mem_cons.mp hplain
    rw [Line.dropReturn_of_last (by simp [hr.getLast?_eq])] at hf
    rw [List.map_cons, hr.eq_trimmed hplain hf, ih hrest hgs]

/-- **Plain rows are read as one field each**, if they are read at all. -/
theorem fields_eq_of_plain (hne : p.rows ≠ [])
    (h : Description.read p.description = .ok fs) (hplain : ∀ r ∈ p.rows, r.Plain) :
    fs = p.rows.map FieldDraft.trimmed := by
  obtain ⟨ls, hls, hwritten, hfields⟩ := exists_pieces hne h
  have hwhole : ∀ cs ∈ ls, '\n' ∉ cs := by
    intro cs hcs
    obtain ⟨r, hr, hrcs⟩ := exists_of_forall₂
      ((List.forall₂_and_left _ _).mpr ⟨hplain, hwritten⟩).flip hcs
    refine hrcs.newline_notMem hr fun piece hpiece => ?_
    exact exists_of_forall₂ hfields (List.mem_flatMap.mpr ⟨cs, hcs, hpiece⟩)
  rw [← splitOn_intercalate_eq_flatMap '\n' hls,
    List.splitOn_intercalate '\n' hwhole hls] at hfields
  exact eq_map_trimmed hplain hwritten hfields

end Panel

/-! ## Same code, same state keys -/

theorem Component.generate_eq_ok {o : Component.Options} {fs : List Field} {code : String}
    (h : Component.generate o fs = .ok code) : Component.render o fs = code := by
  unfold Component.generate at h
  split at h
  · cases h
  · exact Except.ok.inj h

/-- Fields with the same code have the same state keys, whatever the target. -/
theorem Target.keys_eq_of_generate {t : Target} {o : Component.Options} {fs gs : List Field}
    {code : String} (hf : t.generate o fs = .ok code) (hg : t.generate o gs = .ok code) :
    fs.map Field.stateKey = gs.map Field.stateKey := by
  cases t with
  | html => exact HtmlForm.keys_eq_of_render_eq (Except.ok.inj (hf.trans hg.symm))
  | react =>
    exact Component.keys_eq_of_render_eq
      ((Component.generate_eq_ok hf).trans (Component.generate_eq_ok hg).symm)

namespace Panel

variable {p : Panel} {t : Target} {o : Component.Options} {fs : List Field} {code : String}

/-- Rows whose fields have the state keys that come back are plain. -/
theorem plain_of_keys_eq (hne : p.rows ≠ []) (h : Description.read p.description = .ok fs)
    (hkeys : fs.map Field.stateKey = (p.rows.map FieldDraft.trimmed).map Field.stateKey) :
    ∀ r ∈ p.rows, r.Plain := by
  obtain ⟨ls, -, hwritten, hfields⟩ := exists_pieces hne h
  have hlength : fs.length = p.rows.length := by simpa using congrArg List.length hkeys
  have hwhole : ∀ cs ∈ ls, '\n' ∉ cs := by
    -- the pieces are as many as the lines, so no line is cut
    have hcount := length_flatMap_splitOn '\n' ls
    rw [hfields.length_eq, hlength, hwritten.length_eq] at hcount
    have hnone : '\n' ∉ ls.flatten := List.count_eq_zero.mp (by omega)
    exact fun cs hcs hnl => hnone (List.mem_flatten.mpr ⟨cs, hcs, hnl⟩)
  intro r hr
  constructor
  case label =>
    intro hc
    have hmem : r.trimmed.stateKey ∈ fs.map Field.stateKey := by
      rw [hkeys, List.map_map]
      exact List.mem_map_of_mem hr
    obtain ⟨f, hf, hkey⟩ := List.mem_map.mp hmem
    have hlower : '(' ∈ f.stateKey.toList := by
      rw [hkey, Field.stateKey, Text.mem_lower_iff Text.isMark_parenthesis]
      show '(' ∈ (Text.trim r.label).toList
      rw [Text.toList_trim]
      exact Text.mem_trimChars_of_mem (by decide) hc
    rw [Field.stateKey, Text.mem_lower_iff Text.isMark_parenthesis] at hlower
    exact ((Description.writable_of_read h).2 f hf).label_chars _ hlower (by simp)
  case kind =>
    intro hc
    obtain ⟨cs, hcs, margin, label, -, -, rfl⟩ := exists_of_forall₂
      ((List.forall₂_and_left _ _).mpr ⟨hwhole, hwritten.flip⟩).flip hr
    exact hcs (by simp [FieldDraft.inside, hc])

theorem exists_read_of_generate (h : p.generate t o = .ok code) :
    p.rows ≠ [] ∧ ∃ fs, Description.read p.description = .ok fs ∧ t.generate o fs = .ok code := by
  unfold Panel.generate at h
  split at h
  · cases h
  next hrows =>
  refine ⟨by simpa using hrows, ?_⟩
  unfold Description.generate at h
  cases hread : Description.read p.description with
  | error e =>
    rw [hread] at h
    cases h
  | ok fs =>
    rw [hread] at h
    refine ⟨fs, rfl, ?_⟩
    change (t.generate o fs).mapError PanelError.generate = .ok code at h
    cases hcode : t.generate o fs with
    | error e =>
      rw [hcode] at h
      cases h
    | ok text =>
      rw [hcode] at h
      rw [Except.ok.inj h]

/-- **The code of a panel is that of its rows exactly if they are plain**: no label holds a `(` and
no type a line feed. Then the description is read as one field for each row, with the trimmed label,
the trimmed type and the requirement of that row. -/
theorem generate_eq_rows_iff (h : p.generate t o = .ok code) :
    (t.generate o (p.rows.map FieldDraft.trimmed) = .ok code ↔ ∀ r ∈ p.rows, r.Plain) ∧
    ((∀ r ∈ p.rows, r.Plain) →
      Description.read p.description = .ok (p.rows.map FieldDraft.trimmed)) := by
  obtain ⟨hne, fs, hread, hcode⟩ := exists_read_of_generate h
  refine ⟨⟨fun hrows => ?_, fun hplain => ?_⟩, fun hplain => ?_⟩
  · exact plain_of_keys_eq hne hread (Target.keys_eq_of_generate hcode hrows)
  · rwa [← fields_eq_of_plain hne hread hplain]
  · rwa [← fields_eq_of_plain hne hread hplain]

/-- Blanks around a label do no harm, nor do commas and parentheses in a type. -/
theorem generate_eq_rows_size :
    (start.run [.add, .update 0 ⟨" Size ", "choice (S, M)", false⟩]).generate .html .standard =
      .ok (HtmlForm.render [⟨"Size", .other "choice (S, M)", false⟩]) ∧
    Target.html.generate .standard [FieldDraft.trimmed ⟨" Size ", "choice (S, M)", false⟩] =
      .ok (HtmlForm.render [⟨"Size", .other "choice (S, M)", false⟩]) ∧
    Description.read " Size  (choice (S, M), optional)" =
      .ok [FieldDraft.trimmed ⟨" Size ", "choice (S, M)", false⟩] := by
  have hgenerate : (start.run [.add, .update 0 ⟨" Size ", "choice (S, M)", false⟩]).generate .html
      .standard = .ok (HtmlForm.render [⟨"Size", .other "choice (S, M)", false⟩]) := rfl
  obtain ⟨hcode, hread⟩ := generate_eq_rows_iff hgenerate
  have hplain : ∀ r ∈ [(⟨" Size ", "choice (S, M)", false⟩ : FieldDraft)], r.Plain := by
    intro r hr
    obtain rfl := List.mem_singleton.mp hr
    exact ⟨by decide, by decide⟩
  exact ⟨hgenerate, hcode.mpr hplain, hread hplain⟩

-- a line feed in a type makes two fields of a row
example : Description.read
    (Panel.description ⟨"blank", [⟨"Name", "text, optional)\nMail (email", true⟩], false⟩) =
    .ok [⟨"Name", .text, false⟩, ⟨"Mail", .email, true⟩] := by rfl

/-- Not every row is plain, and the code is then another: a parenthesis in a label ends the label,
and what follows it goes to the type. -/
theorem generate_ne_rows : ¬ ∀ (as : List Action) (t : Target) (o : Component.Options)
    (code : String), (start.run as).generate t o = .ok code →
      t.generate o ((start.run as).rows.map FieldDraft.trimmed) = .ok code := by
  intro h
  have hrows := h [.add, .update 0 ⟨"Phone (home)", "tel", true⟩] .html .standard
    (HtmlForm.render [⟨"Phone", .other "home) (tel", true⟩]) rfl
  have hkeys := Target.keys_eq_of_generate (t := .html) (o := .standard) rfl hrows
  exact absurd hkeys (by decide)

end Panel

end Formwork
