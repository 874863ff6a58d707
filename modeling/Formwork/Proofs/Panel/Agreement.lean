import Formwork.Proofs.Description.Roundtrip
import Formwork.Proofs.HtmlForm.Fields
import Formwork.Proofs.Panel.Runs

/-!
# A panel and a typed description

A form may be typed as a description or filled into the rows of a panel. The panel writes its own
description, with other margins and line ends than the user's, and reads that. Where the rows say
what was read from the user's text, the panel reads the same fields: they can be written, because
they were read (`Description.writable_of_read`).

* `exists_run_rows` — the actions of a panel lead to any rows.
* `read_description` — fields that were read come back from rows that say them.
* `Target.exists_collision_of_generate` — for fields, a repeated key is the only error.

**Main statement**: `generate_eq_typed`.
-/

namespace Formwork

open HtmlForm (shown)

/-- Once there are fields, only a repeated key stands in the way of code. -/
theorem Target.exists_collision_of_generate {t : Target} {o : Component.Options} {fs : List Field}
    {e : GenerateError} (h : t.generate o fs = .error e) : ∃ c, e = .collision c := by
  cases t with
  | html => cases h
  | react =>
    change Component.generate o fs = .error e at h
    unfold Component.generate at h
    split at h
    · next c _ => exact ⟨c, (Except.error.inj h).symm⟩
    · cases h

namespace Panel

/-! ## Rows that can be reached -/

theorem run_append (p : Panel) (as bs : List Action) : p.run (as ++ bs) = (p.run as).run bs :=
  List.foldl_append

/-- A row is added and filled. -/
theorem rows_run_add_update (p : Panel) (r : FieldDraft) :
    (p.run [.add, .update p.rows.length r]).rows = p.rows ++ [r] := by
  simp [run, perform]

/-- **Any rows can be reached**, one after the other. -/
theorem exists_run_rows (rows : List FieldDraft) : ∃ as, (start.run as).rows = rows := by
  induction rows using List.reverseRecOn with
  | nil => exact ⟨[], rfl⟩
  | append_singleton rows r ih =>
    obtain ⟨as, rfl⟩ := ih
    exact ⟨as ++ [.add, .update (start.run as).rows.length r], by
      rw [run_append, rows_run_add_update]⟩

/-! ## What the rows are read as -/

variable {p : Panel} {text : String} {fs : List Field}

theorem description_of_rows (hrows : p.rows = fs.map shown) :
    p.description = Description.ofFields fs := by
  rw [description, hrows, Description.ofFields, List.map_map]
  rfl

/-- **Fields that were read come back** from the rows that say them. -/
theorem read_description (h : Description.read text = .ok fs) (hrows : p.rows = fs.map shown) :
    p.rows ≠ [] ∧ Description.read p.description = .ok fs := by
  obtain ⟨hne, hwritable⟩ := Description.writable_of_read h
  constructor
  · simpa [hrows] using hne
  · rw [description_of_rows hrows]
    exact Description.read_ofFields hne hwritable

/-- What can be generated depends on a text only through its fields. -/
theorem generate_of_read (h : Description.read text = .ok fs) (t : Target)
    (o : Component.Options) : Description.generate text t o = t.generate o fs := by
  rw [Description.generate, h]
  rfl

/-- **A panel agrees with a typed description.** Whatever text some fields were read from, a panel
can come to rows that say these fields; and however it came to them, it answers like the text: with
the same code, or with the same error, which is that of a repeated key. -/
theorem generate_eq_typed (h : Description.read text = .ok fs) (t : Target)
    (o : Component.Options) :
    (∃ as, (start.run as).rows = fs.map shown) ∧
    ∀ as, (start.run as).rows = fs.map shown →
      (start.run as).generate t o = (Description.generate text t o).mapError .generate ∧
      ∀ e, (start.run as).generate t o = .error e → ∃ c, e = .generate (.collision c) := by
  refine ⟨exists_run_rows _, fun as hrows => ?_⟩
  obtain ⟨hne, hread⟩ := read_description h hrows
  have hgenerate : (start.run as).generate t o =
      (t.generate o fs).mapError PanelError.generate := by
    rw [Panel.generate, if_neg (by simpa using hne), generate_of_read hread]
  refine ⟨by rw [hgenerate, generate_of_read h], fun e he => ?_⟩
  rw [hgenerate] at he
  cases hcode : t.generate o fs with
  | ok code =>
    rw [hcode] at he
    cases he
  | error err =>
    obtain ⟨c, rfl⟩ := Target.exists_collision_of_generate hcode
    rw [hcode] at he
    exact ⟨c, (Except.error.inj he).symm⟩

/-- A text with other margins, line ends and a tag in parentheses, and a panel that was toggled on
the way. The two labels share a key, so a strict component is refused on both ways. -/
theorem generate_eq_typed_collision :
    Description.read "\t Size  ( choice (S, M) ,required)\r\nSIZE(text,  optional) \n" =
      .ok [⟨"Size", .other "choice (S, M)", true⟩, ⟨"SIZE", .text, false⟩] ∧
    (start.run [.add, .toggle, .update 0 ⟨"Size", "choice (S, M)", true⟩, .add,
        .update 1 ⟨"SIZE", "text", false⟩]).generate .react
        { Component.Options.standard with strictKeys := true } =
      .error (.generate (.collision ⟨"size", "Size", "SIZE"⟩)) := by
  have hread : Description.read
      "\t Size  ( choice (S, M) ,required)\r\nSIZE(text,  optional) \n" =
      .ok [⟨"Size", .other "choice (S, M)", true⟩, ⟨"SIZE", .text, false⟩] := by decide +kernel
  refine ⟨hread, ?_⟩
  rw [((generate_eq_typed hread .react _).2 _ rfl).1, generate_of_read hread]
  decide +kernel

end Panel

end Formwork
