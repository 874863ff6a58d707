import Formwork.Proofs.Text.CaseMaps
import Mathlib

/-!
# Case and ASCII letters

Inside ASCII, both case conversions take letters to letters. Few other characters have an ASCII
letter as their upper or lower case: the long s and the dotless i become `S` and `I`, the sign of
the Kelvin becomes `k`, and a ligature becomes several capitals in a row. Apart from these, what
becomes a text of ASCII letters is one already.

* `IsPlain` — the letters that are the case of ASCII letters only, but for ligatures.
* `Spread` — no two capitals follow each other, as in a ligature.
* `IsUpperOf` — the forms of the upper case of a character.
* `isAlpha_of_plain_lower`, `isAlpha_of_plain_upper` — what becomes such letters.
-/

namespace Formwork.Text

/-- An ASCII letter that is the case of no other character, but for ligatures. -/
def IsPlain (d : Char) : Prop := d.isAlpha = true ∧ d ∉ ['S', 'I', 'k']

instance (d : Char) : Decidable (IsPlain d) := inferInstanceAs (Decidable (_ ∧ _))

/-- No two capitals follow each other. -/
def Spread (cs : List Char) : Prop := cs.IsChain fun c d => ¬ (c.isUpper = true ∧ d.isUpper = true)

instance (cs : List Char) : Decidable (Spread cs) := inferInstanceAs (Decidable (List.IsChain _ _))

/-! ## Letters -/

theorem toNat_lt_of_isAlpha {c : Char} (h : c.isAlpha = true) : c.toNat < 0x80 := by
  simp only [Char.isAlpha, Char.isUpper, Char.isLower, Bool.or_eq_true, Bool.and_eq_true,
    decide_eq_true_eq, ge_iff_le, UInt32.le_iff_toNat_le] at h
  rcases h with ⟨-, h⟩ | ⟨-, h⟩
  · exact Nat.lt_of_le_of_lt h (by decide)
  · exact Nat.lt_of_le_of_lt h (by decide)

theorem isAlpha_ofNat_eq_false {n : Nat} (h : 0x80 ≤ n) : (Char.ofNat n).isAlpha = false := by
  by_cases hn : n.isValidChar
  · refine Bool.eq_false_iff.mpr fun halpha => ?_
    have hlt := toNat_lt_of_isAlpha halpha
    rw [Char.toNat_ofNat, if_pos hn] at hlt
    omega
  · rw [show Char.ofNat n = '\x00' from dif_neg hn]
    decide

theorem not_isPlain_ofNat {n : Nat} (h : 0x80 ≤ n) : ¬ IsPlain (Char.ofNat n) :=
  fun hplain => absurd (hplain.1.symm.trans (isAlpha_ofNat_eq_false h)) (by decide)

theorem lowerChar_of_isAlpha {c : Char} (h : c.isAlpha = true) : lowerChar c = [c.toLower] :=
  if_pos (toNat_lt_of_isAlpha h)

theorem upperChar_of_isAlpha {c : Char} (h : c.isAlpha = true) : upperChar c = [c.toUpper] :=
  if_pos (toNat_lt_of_isAlpha h)

/-! ## Lower case -/

theorem lowerAfter_of_isAlpha {cs : List Char} (h : ∀ c ∈ cs, c.isAlpha = true)
    (before : List Char) : lowerAfter before cs = cs.map Char.toLower := by
  induction cs generalizing before with
  | nil => rfl
  | cons c cs ih =>
    rw [List.forall_mem_cons] at h
    have hsigma : c ≠ 'Σ' := by
      rintro rfl
      exact absurd h.1 (by decide)
    rw [lowerAfter, if_neg hsigma, lowerChar_of_isAlpha h.1, ih h.2, List.map_cons,
      List.singleton_append]

theorem isAlpha_of_plain_lowerChar {c : Char} (h : ∀ d ∈ lowerChar c, IsPlain d) :
    c.isAlpha = true := by
  unfold lowerChar at h
  split at h
  · rw [List.forall_mem_singleton] at h
    rw [← Char.isAlpha_toLower_eq_isAlpha]
    exact h.1
  · next hc =>
    split at h
    · exact absurd (h '\u0307' (by simp)) (by decide)
    · rw [List.forall_mem_singleton] at h
      rcases mapRuns_lowerRuns (Nat.not_lt.mp hc) with habove | hk
      · exact absurd h (not_isPlain_ofNat habove)
      · rw [hk] at h
        exact absurd h (by decide)

/-- Only ASCII letters have plain letters as their lower case. -/
theorem isAlpha_of_plain_lower {before cs : List Char} (h : ∀ d ∈ lowerAfter before cs, IsPlain d) :
    ∀ c ∈ cs, c.isAlpha = true := by
  induction cs generalizing before with
  | nil => exact fun c hc => absurd hc List.not_mem_nil
  | cons c cs ih =>
    rw [lowerAfter, List.forall_mem_append] at h
    refine List.forall_mem_cons.mpr ⟨?_, ih h.2⟩
    have hhead := h.1
    split at hhead
    · rw [List.forall_mem_singleton] at hhead
      split at hhead
      · exact absurd hhead (by decide)
      · exact absurd hhead (by decide)
    · exact isAlpha_of_plain_lowerChar hhead

/-! ## Upper case -/

/-- A run begins and ends above ASCII, or it is one character that becomes an `S` or an `I`. -/
theorem above_of_mem_upperRuns : ∀ r ∈ upperRuns, 0x80 ≤ r.first + r.shift ∨
    r.first = r.last ∧ (r.first + r.shift = 'S'.toNat ∨ r.first + r.shift = 'I'.toNat) := by
  decide +kernel

theorem mapRuns_upperRuns {n : Nat} (h : 0x80 ≤ n) : 0x80 ≤ mapRuns upperRuns n ∨
    mapRuns upperRuns n = 'S'.toNat ∨ mapRuns upperRuns n = 'I'.toNat := by
  rcases mapRuns_cases upperRuns n with ⟨r, hr, hcovers, hmap⟩ | hsame
  · obtain ⟨hfirst, hlast, -⟩ := CaseRun.covers_iff.mp hcovers
    rw [hmap, CaseRun.image]
    rcases above_of_mem_upperRuns r hr with habove | ⟨hone, hS | hI⟩
    · exact .inl (by omega)
    · exact .inr (.inl (by omega))
    · exact .inr (.inr (by omega))
  · rw [hsame]
    exact .inl h

/-- The forms that the upper case of a character has. -/
inductive IsUpperOf (c : Char) : List Char → Prop
  | ascii : IsUpperOf c [c.toUpper]
  | expansion {ns : List Nat} (h : (c.toNat, ns) ∈ upperExpansions) :
      IsUpperOf c (ns.map Char.ofNat)
  | above {n : Nat} (h : 0x80 ≤ n) : IsUpperOf c [Char.ofNat n]
  /-- The long s. -/
  | longS : IsUpperOf c ['S']
  /-- The dotless i. -/
  | dotlessI : IsUpperOf c ['I']

theorem isUpperOf_upperChar (c : Char) : IsUpperOf c (upperChar c) := by
  unfold upperChar
  split
  · exact .ascii
  · next hc =>
    split
    · next ns hns => exact .expansion (mem_upperExpansions hns)
    · rcases mapRuns_upperRuns (Nat.not_lt.mp hc) with habove | hS | hI
      · exact .above habove
      · rw [hS]
        exact .longS
      · rw [hI]
        exact .dotlessI

/-- An expansion goes beyond ASCII, or it is that of a ligature. -/
theorem capitals_of_mem_upperExpansions : ∀ e ∈ upperExpansions,
    (∃ n ∈ e.2, 0x80 ≤ n) ∨ 2 ≤ e.2.length ∧ ∀ n ∈ e.2, (Char.ofNat n).isUpper = true := by
  decide +kernel

theorem not_spread_of_isUpper {cs : List Char} (hlength : 2 ≤ cs.length)
    (h : ∀ c ∈ cs, c.isUpper = true) : ¬ Spread cs := by
  match cs, hlength with
  | c :: d :: cs, _ =>
    intro hspread
    exact (List.isChain_cons_cons.mp hspread).1 ⟨h c (by simp), h d (by simp)⟩

/-- Only ASCII letters have plain letters as their upper case, but for ligatures. -/
theorem isAlpha_of_plain_upper {c : Char} (h : ∀ d ∈ upperChar c, IsPlain d)
    (hspread : Spread (upperChar c)) : c.isAlpha = true := by
  have hform := isUpperOf_upperChar c
  generalize upperChar c = cs at h hspread hform
  cases hform with
  | ascii =>
    rw [← Char.isAlpha_toUpper_eq_isAlpha]
    exact (List.forall_mem_singleton.mp h).1
  | expansion hns =>
    rcases capitals_of_mem_upperExpansions _ hns with ⟨n, hn, habove⟩ | ⟨hlength, hcapitals⟩
    · exact absurd (h _ (List.mem_map_of_mem hn)) (not_isPlain_ofNat habove)
    · exact absurd hspread
        (not_spread_of_isUpper (by simpa using hlength) (List.forall_mem_map.mpr hcapitals))
  | above hn => exact absurd (List.forall_mem_singleton.mp h) (not_isPlain_ofNat hn)
  | longS => exact absurd (List.forall_mem_singleton.mp h) (by decide)
  | dotlessI => exact absurd (List.forall_mem_singleton.mp h) (by decide)

theorem not_isLower_of_mem_upperExpansions : ∀ e ∈ upperExpansions,
    e.2 ≠ [] ∧ ∀ n ∈ e.2, (Char.ofNat n).isLower = false := by decide +kernel

/-- Every character has an upper case, and no small ASCII letter is in one. -/
theorem isLower_eq_false_of_upperChar (c : Char) :
    upperChar c ≠ [] ∧ ∀ d ∈ upperChar c, d.isLower = false := by
  have hform := isUpperOf_upperChar c
  generalize upperChar c = cs at hform
  cases hform with
  | ascii => simp
  | expansion hns =>
    obtain ⟨hne, hsmall⟩ := not_isLower_of_mem_upperExpansions _ hns
    exact ⟨mt List.map_eq_nil_iff.mp hne, List.forall_mem_map.mpr hsmall⟩
  | above hn =>
    have halpha := isAlpha_ofNat_eq_false hn
    rw [Char.isAlpha, Bool.or_eq_false_iff] at halpha
    exact ⟨List.cons_ne_nil _ _, List.forall_mem_singleton.mpr halpha.2⟩
  | longS => exact ⟨List.cons_ne_nil _ _, List.forall_mem_singleton.mpr (by decide)⟩
  | dotlessI => exact ⟨List.cons_ne_nil _ _, List.forall_mem_singleton.mpr (by decide)⟩

end Formwork.Text
