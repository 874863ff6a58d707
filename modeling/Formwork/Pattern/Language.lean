import Formwork.Pattern

/-!
# The matcher decides the language

`Pattern.Matches` says by cases which texts belong to a pattern; `Pattern.accepts` computes with
derivatives. Here they are shown to agree.

The two halves of the argument are what the matcher knows at the end of a text (`nullable_iff`) and
what it does at a character (`matches_cons_iff`). The star is the only case that needs thought: a
text of `star p` that starts with `c` may begin with any number of empty texts of `p`, and they are
skipped.

**Main statement**: `accepts_iff`, a text is accepted exactly when its characters match.
-/

namespace Formwork.Pattern

/-! ## The shapes of a match -/

theorem matches_empty_iff {cs : List Char} : Matches empty cs ↔ cs = [] := by
  constructor
  · intro h
    cases h
    rfl
  · rintro rfl
    exact .empty

theorem matches_char_iff {s : CharSet} {cs : List Char} :
    Matches (char s) cs ↔ ∃ c, s.contains c = true ∧ cs = [c] := by
  constructor
  · intro h
    cases h with
    | char hc => exact ⟨_, hc, rfl⟩
  · rintro ⟨c, hc, rfl⟩
    exact .char hc

theorem matches_seq_iff {p q : Pattern} {cs : List Char} :
    Matches (seq p q) cs ↔ ∃ u v, Matches p u ∧ Matches q v ∧ cs = u ++ v := by
  constructor
  · intro h
    cases h with
    | seq hu hv => exact ⟨_, _, hu, hv, rfl⟩
  · rintro ⟨u, v, hu, hv, rfl⟩
    exact .seq hu hv

theorem matches_alt_iff {p q : Pattern} {cs : List Char} :
    Matches (alt p q) cs ↔ Matches p cs ∨ Matches q cs := by
  constructor
  · intro h
    cases h with
    | altLeft h => exact .inl h
    | altRight h => exact .inr h
  · rintro (h | h)
    · exact .altLeft h
    · exact .altRight h

/-- A text of a star that is not empty begins with a text of the pattern that is not empty. -/
theorem exists_first_of_matches_star {p : Pattern} {c : Char} {cs : List Char}
    (h : Matches (star p) (c :: cs)) :
    ∃ u v, Matches p (c :: u) ∧ Matches (star p) v ∧ cs = u ++ v := by
  generalize hp : star p = r at h
  generalize hw : c :: cs = w at h
  induction h with
  | starNil => cases hw
  | @starCons p' u v hu hv _ ihv =>
    obtain rfl : p = p' := by injection hp
    cases u with
    | nil => exact ihv rfl (by simpa using hw)
    | cons d u =>
      obtain ⟨rfl, rfl⟩ : c = d ∧ cs = u ++ v := by simpa using hw
      exact ⟨u, v, hu, hv, rfl⟩
  | _ => cases hp

/-! ## Derivatives -/

/-- The empty text is one of the pattern's. -/
theorem nullable_iff {p : Pattern} : p.nullable = true ↔ Matches p [] := by
  induction p with
  | empty => simp [nullable, matches_empty_iff]
  | char s => simp [nullable, matches_char_iff]
  | seq p q ihp ihq => simp [nullable, matches_seq_iff, ihp, ihq]
  | alt p q ihp ihq => simp [nullable, matches_alt_iff, ihp, ihq]
  | star p _ => simp [nullable, Matches.starNil]

/-- A text of the pattern that starts with `c` goes on as a text of a derivative. -/
theorem matches_cons_iff {p : Pattern} {c : Char} {cs : List Char} :
    Matches p (c :: cs) ↔ ∃ d ∈ p.derivatives c, Matches d cs := by
  induction p generalizing cs with
  | empty => simp [derivatives, matches_empty_iff]
  | char s =>
    constructor
    · intro h
      obtain ⟨d, hd, hcd⟩ := matches_char_iff.mp h
      obtain ⟨rfl, rfl⟩ : c = d ∧ cs = [] := by simpa using hcd
      exact ⟨empty, by simp [derivatives, hd], .empty⟩
    · rintro ⟨d, hd, hm⟩
      rw [derivatives] at hd
      split at hd
      · next hc =>
        obtain rfl : d = empty := by simpa using hd
        rw [matches_empty_iff.mp hm]
        exact .char hc
      · cases hd
  | seq p q ihp ihq =>
    constructor
    · intro h
      obtain ⟨u, v, hu, hv, huv⟩ := matches_seq_iff.mp h
      cases u with
      | nil =>
        obtain rfl : c :: cs = v := by simpa using huv
        obtain ⟨d, hd, hm⟩ := ihq.mp hv
        refine ⟨d, ?_, hm⟩
        simp [derivatives, nullable_iff.mpr hu, hd]
      | cons b u =>
        obtain ⟨rfl, rfl⟩ : c = b ∧ cs = u ++ v := by simpa using huv
        obtain ⟨d, hd, hm⟩ := ihp.mp hu
        refine ⟨seq d q, ?_, .seq hm hv⟩
        simp [derivatives, hd]
    · rintro ⟨d, hd, hm⟩
      rw [derivatives, List.mem_append] at hd
      rcases hd with hd | hd
      · obtain ⟨e, he, rfl⟩ := List.mem_map.mp hd
        obtain ⟨u, v, hu, hv, rfl⟩ := matches_seq_iff.mp hm
        exact .seq (ihp.mpr ⟨e, he, hu⟩) hv
      · split at hd
        · next hn => exact Matches.seq (nullable_iff.mp hn) (ihq.mpr ⟨d, hd, hm⟩)
        · cases hd
  | alt p q ihp ihq => simp [derivatives, matches_alt_iff, ihp, ihq, or_and_right, exists_or]
  | star p ih =>
    constructor
    · intro h
      obtain ⟨u, v, hu, hv, rfl⟩ := exists_first_of_matches_star h
      obtain ⟨d, hd, hm⟩ := ih.mp hu
      refine ⟨seq d (star p), ?_, .seq hm hv⟩
      simp [derivatives, hd]
    · rintro ⟨d, hd, hm⟩
      obtain ⟨e, he, rfl⟩ := List.mem_map.mp hd
      obtain ⟨u, v, hu, hv, rfl⟩ := matches_seq_iff.mp hm
      exact Matches.starCons (ih.mpr ⟨e, he, hu⟩) hv

/-! ## The matcher -/

/-- Reading a character keeps the texts that may follow it. -/
theorem exists_mem_advance_iff {ps : List Pattern} {c : Char} {cs : List Char} :
    (∃ p ∈ advance ps c, Matches p cs) ↔ ∃ p ∈ ps, Matches p (c :: cs) := by
  simp only [advance, List.mem_eraseDups, List.mem_flatMap, matches_cons_iff]
  constructor
  · rintro ⟨d, ⟨p, hp, hd⟩, hm⟩
    exact ⟨p, hp, d, hd, hm⟩
  · rintro ⟨p, hp, d, hd, hm⟩
    exact ⟨d, ⟨p, hp, hd⟩, hm⟩

theorem acceptsAny_iff {ps : List Pattern} {cs : List Char} :
    acceptsAny ps cs = true ↔ ∃ p ∈ ps, Matches p cs := by
  induction cs generalizing ps with
  | nil => simp [acceptsAny, nullable_iff]
  | cons c cs ih =>
    rw [← exists_mem_advance_iff, ← ih]
    rfl

/-- **The matcher decides the language**: a text is accepted exactly when its characters match. -/
theorem accepts_iff {p : Pattern} {s : String} : p.accepts s = true ↔ Matches p s.toList := by
  simp [accepts, acceptsAny_iff]

end Formwork.Pattern
