import Formwork.Proofs.Validation.Matching
import Mathlib.Data.List.Forall2

/-!
# The parts of the patterns

The patterns of the constraints are sequences of simple parts: a fixed text, a text that may be left
out, a run of characters of one class. Here is what each of them matches, said without patterns.

* `Pattern.matches_all_iff` — a sequence of patterns matches what falls into one part for each.
* `Pattern.matches_text_iff`, `Pattern.matches_optional_text_iff` — fixed texts.
* `Constraint.contains_alphanum_iff` — the classes of characters, by the predicates of characters.
* `Constraint.matches_plus_iff` — a run of letters, digits and some marks.

Other runs of characters are in `Pattern.IsRepeat.matches_chars_iff`.
-/

namespace Formwork

namespace Pattern

/-! ## Sequences -/

/-- A sequence matches the texts that fall into one part for each of its patterns. -/
theorem matches_all_iff {ps : List Pattern} {cs : List Char} :
    (all ps).Matches cs ↔
      ∃ parts : List (List Char), ps.Forall₂ Matches parts ∧ cs = parts.flatten := by
  induction ps generalizing cs with
  | nil =>
    show empty.Matches cs ↔ _
    simp [matches_empty_iff]
  | cons p ps ih =>
    show (Pattern.seq p (all ps)).Matches cs ↔ _
    rw [matches_seq_iff]
    constructor
    · rintro ⟨u, v, hu, hv, rfl⟩
      obtain ⟨parts, hparts, rfl⟩ := ih.mp hv
      exact ⟨u :: parts, .cons hu hparts, rfl⟩
    · rintro ⟨_, hparts, rfl⟩
      cases hparts with
      | cons hu hparts => exact ⟨_, _, hu, ih.mpr ⟨_, hparts, rfl⟩, rfl⟩

/-! ## Fixed texts -/

theorem contains_ofList_singleton {c d : Char} :
    (CharSet.ofList [c]).contains d = true ↔ d = c := by
  show (CharSet.within [(c, c)]).contains d = true ↔ _
  rw [contains_iff_within, inRanges_singleton]
  exact Char.toNat_inj

theorem matches_text_iff {s : String} {cs : List Char} :
    (text s).Matches cs ↔ cs = s.toList := by
  unfold text
  generalize s.toList = ds
  induction ds generalizing cs with
  | nil => exact matches_empty_iff
  | cons d ds ih =>
    rw [List.foldr_cons, matches_seq_iff]
    constructor
    · rintro ⟨u, v, hu, hv, rfl⟩
      obtain ⟨c, hc, rfl⟩ := matches_char_iff.mp hu
      rw [contains_ofList_singleton.mp hc, ih.mp hv]
      rfl
    · rintro rfl
      exact ⟨[d], ds, .char (contains_ofList_singleton.mpr rfl), ih.mpr rfl, rfl⟩

theorem matches_optional_iff {p : Pattern} {cs : List Char} :
    (optional p).Matches cs ↔ p.Matches cs ∨ cs = [] := by
  rw [optional, matches_alt_iff, matches_empty_iff]

theorem matches_optional_text_iff {s : String} {cs : List Char} :
    (optional (text s)).Matches cs ↔ ∃ given : Bool, cs = if given then s.toList else [] := by
  rw [matches_optional_iff, matches_text_iff, Bool.exists_bool, or_comm]
  rfl

end Pattern

/-! ## Classes of characters -/

namespace Constraint

open Pattern (InRanges inRanges_singleton contains_iff_within)

theorem inRanges_append {as bs : List (Char × Char)} {n : Nat} :
    InRanges (as ++ bs) n ↔ InRanges as n ∨ InRanges bs n := by
  simp only [InRanges, List.mem_append, or_and_right, exists_or]

theorem inRanges_only_iff {marks : List Char} {c : Char} :
    InRanges (only marks) c.toNat ↔ c ∈ marks := by
  induction marks with
  | nil => simp [only, InRanges]
  | cons d marks ih =>
    have hcons : only (d :: marks) = [(d, d)] ++ only marks := rfl
    rw [hcons, inRanges_append, inRanges_singleton, Char.toNat_inj, ih, List.mem_cons]

theorem inRanges_letters_iff_isAlpha {c : Char} :
    InRanges letters c.toNat ↔ c.isAlpha = true := by
  have hupper : c.isUpper = true ↔ 0x41 ≤ c.toNat ∧ c.toNat ≤ 0x5A := decide_eq_true_iff
  have hlower : c.isLower = true ↔ 0x61 ≤ c.toNat ∧ c.toNat ≤ 0x7A :=
    Bool.and_eq_true_iff.trans (and_congr decide_eq_true_iff decide_eq_true_iff)
  show _ ↔ (c.isUpper || c.isLower) = true
  rw [Bool.or_eq_true, hupper, hlower]
  simp [InRanges, letters]

theorem inRanges_digits_iff_isDigit {c : Char} :
    InRanges digits c.toNat ↔ c.isDigit = true := by
  rw [Char.isDigit_iff_toNat]
  simp [InRanges, digits]

theorem contains_letters_iff {c : Char} :
    (CharSet.within letters).contains c = true ↔ c.isAlpha = true :=
  contains_iff_within.trans inRanges_letters_iff_isAlpha

theorem contains_digits_iff {c : Char} :
    (CharSet.within digits).contains c = true ↔ c.isDigit = true :=
  contains_iff_within.trans inRanges_digits_iff_isDigit

/-- A letter or digit of ASCII, or one of some marks. -/
def isAlphanumOr (marks : List Char) (c : Char) : Bool := c.isAlphanum || marks.contains c

theorem contains_alphanum_iff {marks : List Char} {c : Char} :
    (CharSet.within (letters ++ digits ++ only marks)).contains c = true ↔
      isAlphanumOr marks c = true := by
  rw [contains_iff_within, inRanges_append, inRanges_append, inRanges_letters_iff_isAlpha,
    inRanges_digits_iff_isDigit, inRanges_only_iff, isAlphanumOr, Char.isAlphanum, Bool.or_eq_true,
    Bool.or_eq_true, List.contains_iff_mem]

theorem matches_plus_iff {marks us : List Char} :
    (Pattern.plus (oneOf (letters ++ digits ++ only marks))).Matches us ↔
      us ≠ [] ∧ us.all (isAlphanumOr marks) = true := by
  rw [oneOf, Pattern.isRepeat_plus.matches_chars_iff, Nat.one_le_iff_ne_zero, ne_eq,
    List.length_eq_zero_iff, List.all_eq_true]
  simp only [contains_alphanum_iff]

end Constraint

end Formwork
