import Formwork.Text.Basic
import Mathlib.Data.List.DropRight

/-!
# Trimmed texts

A text is trimmed when neither its first nor its last character is blank. Trimming takes a blank
margin away on either side and nothing else, so it leaves trimmed texts alone.

* `Trimmed` — the texts that trimming leaves alone.
* `trimChars_append` — a trimmed text inside a blank margin is what trimming finds.
* `exists_margins` — every text is a trimmed one inside a blank margin.
-/

namespace Formwork.Text

/-- Characters that are all blank. -/
def AllBlank (cs : List Char) : Prop := ∀ c ∈ cs, isBlank c = true

theorem allBlank_nil : AllBlank [] := fun _ hc => absurd hc List.not_mem_nil

/-- Characters that neither begin nor end with a blank one. -/
structure Trimmed (cs : List Char) : Prop where
  head : ∀ c ∈ cs.head?, isBlank c = false
  last : ∀ c ∈ cs.getLast?, isBlank c = false

/-! ## One side at a time -/

theorem dropWhile_of_head {cs : List Char} (h : ∀ c ∈ cs.head?, isBlank c = false) :
    cs.dropWhile isBlank = cs := by
  cases cs with
  | nil => rfl
  | cons c cs => exact List.dropWhile_cons_of_neg (by simp [h c rfl])

theorem rdropWhile_of_last {cs : List Char} (h : ∀ c ∈ cs.getLast?, isBlank c = false) :
    cs.rdropWhile isBlank = cs := by
  rw [List.rdropWhile_eq_self_iff]
  intro hne
  simp [h _ (List.getLast?_eq_some_getLast hne)]

theorem head_dropWhile (cs : List Char) :
    ∀ c ∈ (cs.dropWhile isBlank).head?, isBlank c = false := by
  intro c hc
  have h := List.head?_dropWhile_not isBlank cs
  rw [Option.mem_def.mp hc] at h
  simpa using h

theorem last_rdropWhile (cs : List Char) :
    ∀ c ∈ (cs.rdropWhile isBlank).getLast?, isBlank c = false := by
  intro c hc
  have hne : cs.rdropWhile isBlank ≠ [] := by
    intro he
    rw [he] at hc
    cases hc
  have h := List.rdropWhile_last_not isBlank cs hne
  rw [List.getLast?_eq_some_getLast hne] at hc
  rw [Option.mem_some.mp hc] at h
  simpa using h

/-- Only the blanks in front of a character that is not blank can go. -/
theorem dropWhile_append_cons {c : Char} (hc : isBlank c = false) (cs ds : List Char) :
    (cs ++ c :: ds).dropWhile isBlank = cs.dropWhile isBlank ++ c :: ds := by
  rw [List.dropWhile_append]
  split
  · next h =>
    rw [List.isEmpty_iff.mp h, List.dropWhile_cons_of_neg (by simp [hc]), List.nil_append]
  · rfl

/-! ## Both sides -/

theorem trimChars_eq_rdropWhile (cs : List Char) :
    trimChars cs = (cs.dropWhile isBlank).rdropWhile isBlank := rfl

/-- A text with no blank at its end is trimmed at its front only. -/
theorem trimChars_eq_dropWhile {cs : List Char} (h : ∀ c ∈ cs.getLast?, isBlank c = false) :
    trimChars cs = cs.dropWhile isBlank := by
  rw [trimChars_eq_rdropWhile]
  refine rdropWhile_of_last fun c hc => h c ?_
  obtain ⟨a, ha⟩ := List.dropWhile_suffix (l := cs) isBlank
  have hne : cs.dropWhile isBlank ≠ [] := by
    intro he
    rw [he] at hc
    cases hc
  rwa [← ha, List.getLast?_append_of_ne_nil _ hne]

theorem trimmed_trimChars (cs : List Char) : Trimmed (trimChars cs) := by
  rw [trimChars_eq_rdropWhile]
  refine ⟨?_, last_rdropWhile _⟩
  intro c hc
  -- what is left on the right side begins where the left side has begun
  obtain ⟨b, hb⟩ := List.rdropWhile_prefix isBlank (cs.dropWhile isBlank)
  refine head_dropWhile cs c ?_
  rw [← hb]
  cases hr : (cs.dropWhile isBlank).rdropWhile isBlank with
  | nil => rw [hr] at hc; cases hc
  | cons d ds => rw [hr] at hc; exact hc

/-- Trimming leaves trimmed texts alone. -/
theorem Trimmed.trimChars_eq {cs : List Char} (h : Trimmed cs) : trimChars cs = cs := by
  rw [trimChars_eq_rdropWhile, dropWhile_of_head h.head, rdropWhile_of_last h.last]

theorem trimChars_eq_self_iff {cs : List Char} : trimChars cs = cs ↔ Trimmed cs := by
  constructor
  · intro h
    rw [← h]
    exact trimmed_trimChars cs
  · exact Trimmed.trimChars_eq

/-- Every text is a trimmed one inside a blank margin. -/
theorem exists_margins (cs : List Char) :
    ∃ a b, AllBlank a ∧ AllBlank b ∧ cs = a ++ trimChars cs ++ b := by
  refine ⟨cs.takeWhile isBlank, (cs.dropWhile isBlank).rtakeWhile isBlank, ?_, ?_, ?_⟩
  · exact fun c hc => List.mem_takeWhile_imp hc
  · exact fun c hc => List.mem_rtakeWhile_imp hc
  · rw [trimChars_eq_rdropWhile, List.append_assoc, List.rdropWhile_append_rtakeWhile,
      List.takeWhile_append_dropWhile]

theorem dropWhile_margin {a : List Char} (ha : AllBlank a) (cs : List Char) :
    (a ++ cs).dropWhile isBlank = cs.dropWhile isBlank :=
  List.dropWhile_append_of_pos ha

theorem rdropWhile_margin {b : List Char} (hb : AllBlank b) (cs : List Char) :
    (cs ++ b).rdropWhile isBlank = cs.rdropWhile isBlank := by
  rw [List.rdropWhile, List.rdropWhile, List.reverse_append,
    dropWhile_margin (fun c hc => hb c (List.mem_reverse.mp hc))]

/-- **A trimmed text inside a blank margin is what trimming finds.** -/
theorem trimChars_append {a cs b : List Char} (ha : AllBlank a) (hcs : Trimmed cs)
    (hb : AllBlank b) : trimChars (a ++ cs ++ b) = cs := by
  rw [trimChars_eq_rdropWhile, List.append_assoc, dropWhile_margin ha]
  cases cs with
  | nil =>
    rw [List.nil_append, List.dropWhile_eq_nil_iff.mpr hb, List.rdropWhile_nil]
  | cons c cs =>
    rw [dropWhile_of_head (by simpa using hcs.head), rdropWhile_margin hb,
      rdropWhile_of_last hcs.last]

/-- A blank margin makes no difference to what trimming finds. -/
theorem trimChars_margins {a b : List Char} (ha : AllBlank a) (hb : AllBlank b) (cs : List Char) :
    trimChars (a ++ cs ++ b) = trimChars cs := by
  obtain ⟨c, d, hc, hd, hcs⟩ := exists_margins cs
  have hall : a ++ cs ++ b = (a ++ c) ++ trimChars cs ++ (d ++ b) := by
    conv_lhs => rw [hcs]
    simp only [List.append_assoc]
  rw [hall]
  exact trimChars_append (List.forall_mem_append.mpr ⟨ha, hc⟩) (trimmed_trimChars cs)
    (List.forall_mem_append.mpr ⟨hd, hb⟩)

theorem mem_of_mem_trimChars {c : Char} {cs : List Char} (h : c ∈ trimChars cs) : c ∈ cs := by
  obtain ⟨a, b, -, -, hcs⟩ := exists_margins cs
  rw [hcs]
  simp [h]

/-- Trimming loses blanks only. -/
theorem mem_trimChars_of_mem {c : Char} {cs : List Char} (hc : isBlank c = false) (h : c ∈ cs) :
    c ∈ trimChars cs := by
  obtain ⟨a, b, ha, hb, hcs⟩ := exists_margins cs
  have hblank : ∀ ds, AllBlank ds → c ∉ ds := fun ds hds hm => absurd (hds c hm) (by simp [hc])
  rw [hcs, List.mem_append, List.mem_append] at h
  exact (h.resolve_right (hblank b hb)).resolve_left (hblank a ha)

theorem toList_trim (s : String) : (trim s).toList = trimChars s.toList := by
  simp [trim]

/-- Trimming a text a second time changes nothing. -/
theorem trim_trim (s : String) : trim (trim s) = trim s := by
  rw [← String.toList_inj, toList_trim, toList_trim, (trimmed_trimChars s.toList).trimChars_eq]

theorem trim_eq_self_iff {s : String} : trim s = s ↔ Trimmed s.toList := by
  rw [← String.toList_inj, toList_trim, trimChars_eq_self_iff]

end Formwork.Text
