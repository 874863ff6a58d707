import Formwork.Validation.Constraint
import Formwork.Proofs.Pattern.Repeats
import Formwork.Proofs.Script.Meaning

/-!
# Patterns and the regular expressions of a script

A pattern says which lists of characters match, a regular expression which lists of UTF-16 units.
Two relations between them:

* `Exact p r` — the texts of `r` are the encodings of those of `p`, and nothing else. All the ways in
  which patterns are put together keep it.
* `Agree p r` — on encodings of texts, `p` and `r` say the same. This is all that can be said of
  `.*`, which also matches single surrogates; it may stand at the end, behind exact patterns.
-/

namespace Formwork

open Script (Regex ClassItem Quantifier)
open Text (encode encodeChar)

namespace Pattern

/-- The texts of the regular expression are the encodings of the texts of the pattern. -/
def Exact (ignoreCase : Bool) (p : Pattern) (r : Regex) : Prop :=
  ∀ us, r.Matches ignoreCase us ↔ ∃ cs, p.Matches cs ∧ us = encode cs

/-- Of the encodings of texts, the regular expression matches those of the pattern's texts. -/
def Agree (ignoreCase : Bool) (p : Pattern) (r : Regex) : Prop :=
  ∀ cs, r.Matches ignoreCase (encode cs) ↔ p.Matches cs

variable {ignoreCase : Bool} {p q p' : Pattern} {r s : Regex}

theorem Exact.agree (h : Exact ignoreCase p r) : Agree ignoreCase p r := by
  intro cs
  rw [h (encode cs)]
  constructor
  · rintro ⟨ds, hds, he⟩
    rwa [Text.encode_inj.mp he]
  · intro hcs
    exact ⟨cs, hcs, rfl⟩

theorem Exact.congr (h : Exact ignoreCase p r) (hp : ∀ cs, p.Matches cs ↔ p'.Matches cs) :
    Exact ignoreCase p' r := by
  intro us
  rw [h us]
  simp only [hp]

theorem Agree.congr (h : Agree ignoreCase p r) (hp : ∀ cs, p.Matches cs ↔ p'.Matches cs) :
    Agree ignoreCase p' r := by
  intro cs
  rw [h cs, hp cs]

/-! ## Sequences -/

theorem Exact.seq (hp : Exact ignoreCase p r) (hq : Exact ignoreCase q s) :
    Exact ignoreCase (.seq p q) (.seq r s) := by
  intro us
  rw [Regex.Matches]
  constructor
  · rintro ⟨vs, ws, hvs, hws, rfl⟩
    obtain ⟨cs, hcs, rfl⟩ := (hp vs).mp hvs
    obtain ⟨ds, hds, rfl⟩ := (hq ws).mp hws
    exact ⟨cs ++ ds, .seq hcs hds, (Text.encode_append cs ds).symm⟩
  · rintro ⟨cs, hcs, rfl⟩
    obtain ⟨u, v, hu, hv, rfl⟩ := matches_seq_iff.mp hcs
    exact ⟨encode u, encode v, (hp _).mpr ⟨u, hu, rfl⟩, (hq _).mpr ⟨v, hv, rfl⟩,
      Text.encode_append u v⟩

/-- Behind an exact part, the rest of a text's units is the encoding of the rest of the text. -/
theorem Exact.seq_agree (hp : Exact ignoreCase p r) (hq : Agree ignoreCase q s) :
    Agree ignoreCase (.seq p q) (.seq r s) := by
  intro cs
  rw [Regex.Matches, matches_seq_iff]
  constructor
  · rintro ⟨vs, ws, hvs, hws, he⟩
    obtain ⟨u, hu, rfl⟩ := (hp vs).mp hvs
    -- the cut is in front of a character, so `s` does not start with half of one
    obtain ⟨v, rfl, rfl⟩ := Text.encode_eq_append_iff.mp he
    exact ⟨u, v, hu, (hq v).mp hws, rfl⟩
  · rintro ⟨u, v, hu, hv, rfl⟩
    exact ⟨encode u, encode v, (hp _).mpr ⟨u, hu, rfl⟩, (hq v).mpr hv, Text.encode_append u v⟩

theorem matches_seq_empty (cs : List Char) : (Pattern.seq p empty).Matches cs ↔ p.Matches cs := by
  simp [matches_seq_iff, matches_empty_iff]

theorem matches_empty_seq (cs : List Char) : (Pattern.seq empty p).Matches cs ↔ p.Matches cs := by
  simp [matches_seq_iff, matches_empty_iff]

theorem matches_seq_assoc {a b c : Pattern} (cs : List Char) :
    (Pattern.seq a (.seq b c)).Matches cs ↔ (Pattern.seq (.seq a b) c).Matches cs := by
  simp only [matches_seq_iff]
  constructor
  · rintro ⟨u, _, hu, ⟨v, w, hv, hw, rfl⟩, rfl⟩
    exact ⟨u ++ v, w, ⟨u, v, hu, hv, rfl⟩, hw, (List.append_assoc u v w).symm⟩
  · rintro ⟨_, w, ⟨u, v, hu, hv, rfl⟩, hw, rfl⟩
    exact ⟨u, v ++ w, hu, ⟨v, w, hv, hw, rfl⟩, List.append_assoc u v w⟩

/-- A text in front of a pattern, one character after the other. -/
theorem Agree.cons_text {c : Char} (hc : Exact ignoreCase (.char (.ofList [c])) r)
    (h : Agree ignoreCase (.seq p q) s) :
    Agree ignoreCase (.seq (.seq (.char (.ofList [c])) p) q) (.seq r s) :=
  (hc.seq_agree h).congr matches_seq_assoc

theorem Agree.nil_text (h : Agree ignoreCase q s) : Agree ignoreCase (.seq empty q) s :=
  h.congr fun cs => (matches_empty_seq cs).symm

/-- A text of a single character. -/
theorem Exact.single (h : Exact ignoreCase p r) : Exact ignoreCase (.seq p empty) r :=
  h.congr fun cs => (matches_seq_empty cs).symm

theorem Exact.group (h : Exact ignoreCase p r) : Exact ignoreCase p (.group r) := h

theorem Agree.last (h : Agree ignoreCase p r) : Agree ignoreCase (.all [p]) r :=
  h.congr fun cs => (matches_seq_empty cs).symm

/-! ## Repetitions -/

theorem exists_parts {us : List (List UInt16)} (hp : Exact ignoreCase p r)
    (h : ∀ part ∈ us, r.Matches ignoreCase part) :
    ∃ css : List (List Char), (∀ part ∈ css, p.Matches part) ∧ us = css.map encode := by
  induction us with
  | nil => exact ⟨[], by simp, rfl⟩
  | cons vs us ih =>
    obtain ⟨cs, hcs, rfl⟩ := (hp vs).mp (h vs List.mem_cons_self)
    obtain ⟨css, hcss, rfl⟩ := ih fun x hx => h x (List.mem_cons_of_mem _ hx)
    exact ⟨cs :: css, by simpa using ⟨hcs, hcss⟩, rfl⟩

theorem Exact.repeated {allowed : Nat → Prop} {n : Quantifier} (hp : Exact ignoreCase p r)
    (hq : IsRepeat p allowed q) (hn : ∀ k, allowed k ↔ n.Allows k) :
    Exact ignoreCase q (.repeated r n) := by
  intro us
  rw [Regex.Matches]
  constructor
  · rintro ⟨parts, hlen, hparts, rfl⟩
    obtain ⟨css, hcss, rfl⟩ := exists_parts hp hparts
    rw [List.length_map] at hlen
    exact ⟨css.flatten, (hq _).mpr ⟨css, (hn _).mpr hlen, hcss, rfl⟩,
      (Text.encode_flatten css).symm⟩
  · rintro ⟨cs, hcs, rfl⟩
    obtain ⟨css, hlen, hcss, rfl⟩ := (hq cs).mp hcs
    refine ⟨css.map encode, by rw [List.length_map]; exact (hn _).mp hlen, ?_,
      Text.encode_flatten css⟩
    intro part hpart
    obtain ⟨x, hx, rfl⟩ := List.mem_map.mp hpart
    exact (hp _).mpr ⟨x, hcss x hx, rfl⟩

theorem Exact.optional (hp : Exact ignoreCase p r) :
    Exact ignoreCase p.optional (.repeated r .optional) :=
  hp.repeated isRepeat_optional fun _ => Iff.rfl

theorem Exact.plus (hp : Exact ignoreCase p r) : Exact ignoreCase p.plus (.repeated r .plus) :=
  hp.repeated isRepeat_plus fun _ => Iff.rfl

/-! ## Single characters -/

/-- A number in one of the ranges. -/
def InRanges (ranges : List (Char × Char)) (n : Nat) : Prop :=
  ∃ b ∈ ranges, b.1.toNat ≤ n ∧ n ≤ b.2.toNat

theorem inRanges_singleton {c : Char} {n : Nat} : InRanges [(c, c)] n ↔ n = c.toNat := by
  simp only [InRanges, List.mem_singleton, exists_eq_left]
  omega

theorem contains_iff_within {ranges : List (Char × Char)} {c : Char} :
    (CharSet.within ranges).contains c = true ↔ InRanges ranges c.toNat := by
  simp only [CharSet.contains, CharSet.within, InRanges, bne_iff_ne, ne_eq, Bool.not_eq_false,
    List.any_eq_true, Bool.and_eq_true, decide_eq_true_eq]
  rfl

theorem contains_iff_without {ranges : List (Char × Char)} {c : Char} :
    (CharSet.without ranges).contains c = true ↔ ¬ InRanges ranges c.toNat := by
  rw [← contains_iff_within]
  simp [CharSet.contains, CharSet.within, CharSet.without]

/-- Every character of the ranges is a single unit. -/
def SingleUnits (ranges : List (Char × Char)) : Prop :=
  ∀ b ∈ ranges, b.2.toNat < 0xD800 ∨ 0xDFFF < b.1.toNat ∧ b.2.toNat < 0x10000

instance (ranges : List (Char × Char)) : Decidable (SingleUnits ranges) :=
  inferInstanceAs (Decidable (∀ b ∈ ranges, _))

theorem SingleUnits.bounds {ranges : List (Char × Char)} {n : Nat} (h : SingleUnits ranges)
    (hn : InRanges ranges n) : n < 0xD800 ∨ 0xDFFF < n ∧ n < 0x10000 := by
  obtain ⟨b, hb, hle⟩ := hn
  have := h b hb
  omega

/-- A set of characters against a term for the same numbers. -/
theorem exact_of_units {ranges : List (Char × Char)} (hs : SingleUnits ranges)
    (hr : ∀ us, r.Matches ignoreCase us ↔ ∃ u : UInt16, us = [u] ∧ InRanges ranges u.toNat) :
    Exact ignoreCase (.char (.within ranges)) r := by
  intro us
  rw [hr us]
  constructor
  · rintro ⟨u, rfl, hu⟩
    have hb := hs.bounds hu
    obtain ⟨c, hc⟩ := Text.exists_char_of_unit (u := u) (by omega)
    refine ⟨[c], .char (contains_iff_within.mpr (hc ▸ hu)), ?_⟩
    rw [Text.encode_cons, Text.encodeChar_eq_singleton_iff.mpr hc]
    rfl
  · rintro ⟨cs, hcs, rfl⟩
    obtain ⟨c, hc, rfl⟩ := matches_char_iff.mp hcs
    have hin := contains_iff_within.mp hc
    have hlt : c.toNat < 0x10000 := by
      have hb := hs.bounds hin
      omega
    refine ⟨.ofNat c.toNat, ?_, ?_⟩
    · rw [Text.encode_cons, Text.encodeChar_of_lt hlt]
      rfl
    · rwa [UInt16.toNat_ofNat_of_lt' hlt]

/-! ### Terms for one unit -/

/-- A letter of ASCII, by its number. -/
def IsLetter (n : Nat) : Prop := 0x41 ≤ n ∧ n ≤ 0x5A ∨ 0x61 ≤ n ∧ n ≤ 0x7A

instance (n : Nat) : Decidable (IsLetter n) :=
  inferInstanceAs (Decidable (_ ∨ _))

/-- A character of ASCII in a regular expression; where case is ignored, it is no letter. -/
theorem exact_char {c : Char} (hc : c.toNat < 0x80) (hl : ignoreCase = true → ¬ IsLetter c.toNat) :
    Exact ignoreCase (.char (.ofList [c])) (.char c) := by
  have hs : SingleUnits [(c, c)] := by
    intro b hb
    obtain rfl := List.mem_singleton.mp hb
    exact .inl (Nat.lt_trans hc (by decide))
  show Exact ignoreCase (.char (.within [(c, c)])) (.char c)
  refine exact_of_units hs fun us => ?_
  rw [Regex.Matches, Text.encodeChar_of_lt (by omega), List.map_singleton, List.map_eq_singleton_iff]
  refine exists_congr fun u => and_congr_right fun _ => ?_
  have hn : (UInt16.ofNat c.toNat).toNat = c.toNat :=
    UInt16.toNat_ofNat_of_lt' (Nat.lt_trans hc (by decide))
  rw [inRanges_singleton]
  cases ignoreCase with
  | false =>
    show u = .ofNat c.toNat ↔ _
    rw [← UInt16.toNat_inj, hn]
  | true =>
    have hl := hl rfl
    unfold IsLetter at hl
    show Script.canonicalize u = Script.canonicalize (.ofNat c.toNat) ↔ _
    rw [eq_comm, Script.canonicalize_eq_iff (by omega), hn, ← UInt16.toNat_inj, hn]
    omega

theorem exact_escaped {c : Char} (hc : c.toNat < 0x80)
    (hl : ignoreCase = true → ¬ IsLetter c.toNat) :
    Exact ignoreCase (.char (.ofList [c])) (.escaped c) :=
  fun us => exact_char hc hl us

/-- The characters that a member of a class stands for. -/
def itemRanges : ClassItem → List (Char × Char)
  | .char c => [(c, c)]
  | .escaped c => [(c, c)]
  | .range a b => [(a, b)]
  | .word => Constraint.letters ++ Constraint.digits ++ Constraint.only ['_']
  | .space => Constraint.scriptBlanks

theorem has_iff {i : ClassItem} {u : UInt16} (hi : SingleUnits (itemRanges i)) :
    i.Has u ↔ InRanges (itemRanges i) u.toNat := by
  cases i with
  | char c =>
    have hc : c.toNat < 0x10000 := by
      have hb := hi.bounds (inRanges_singleton.mpr rfl)
      omega
    exact (Text.mem_encodeChar_iff hc).trans inRanges_singleton.symm
  | escaped c =>
    have hc : c.toNat < 0x10000 := by
      have hb := hi.bounds (inRanges_singleton.mpr rfl)
      omega
    exact (Text.mem_encodeChar_iff hc).trans inRanges_singleton.symm
  | range a b => simp [ClassItem.Has, itemRanges, InRanges]
  | word =>
    simp [ClassItem.Has, Script.IsWord, itemRanges, InRanges, Constraint.letters,
      Constraint.digits, Constraint.only]
    omega
  | space =>
    simp [ClassItem.Has, Script.IsSpace, itemRanges, InRanges, Constraint.scriptBlanks]
    omega

/-- The characters that a class stands for where case counts. -/
def classRanges (items : List ClassItem) : List (Char × Char) := items.flatMap itemRanges

theorem exists_has_iff {items : List ClassItem} {u : UInt16} (hi : SingleUnits (classRanges items)) :
    (∃ i ∈ items, i.Has u) ↔ InRanges (classRanges items) u.toNat := by
  have hhas : ∀ i ∈ items, (i.Has u ↔ InRanges (itemRanges i) u.toNat) := fun i hmem =>
    has_iff fun b hb => hi b (List.mem_flatMap.mpr ⟨i, hmem, hb⟩)
  constructor
  · rintro ⟨i, hmem, hu⟩
    obtain ⟨b, hb, hle⟩ := (hhas i hmem).mp hu
    exact ⟨b, List.mem_flatMap.mpr ⟨i, hmem, hb⟩, hle⟩
  · rintro ⟨b, hb, hle⟩
    obtain ⟨i, hmem, hb⟩ := List.mem_flatMap.mp hb
    exact ⟨i, hmem, (hhas i hmem).mpr ⟨b, hb, hle⟩⟩

/-- **A class where case counts** stands for the characters of its members. -/
theorem exact_class {ranges : List (Char × Char)} {items : List ClassItem}
    (hs : SingleUnits ranges) (hi : SingleUnits (classRanges items))
    (hr : ∀ n, InRanges ranges n ↔ InRanges (classRanges items) n) :
    Exact false (.char (.within ranges)) (.oneOf items) := by
  refine exact_of_units hs fun us => ?_
  rw [Regex.Matches]
  refine exists_congr fun u => ?_
  rw [hr, ← exists_has_iff hi]
  constructor
  · rintro ⟨a, hus, ha, hm⟩
    obtain rfl : a = u := ha
    exact ⟨hus, hm⟩
  · rintro ⟨hus, hm⟩
    exact ⟨u, hus, rfl, hm⟩

/-- A number that is the same as one of `ranges` but for the case of a letter. -/
def InRangesAnyCase (ranges : List (Char × Char)) (n : Nat) : Prop :=
  InRanges ranges n ∨ (0x61 ≤ n ∧ n ≤ 0x7A ∧ InRanges ranges (n - 0x20)) ∨
    (0x41 ≤ n ∧ n ≤ 0x5A ∧ InRanges ranges (n + 0x20))

/-- **A class in ASCII where case is ignored** stands for the letters in either case. -/
theorem exact_class_ignoreCase {ranges : List (Char × Char)} {items : List ClassItem}
    (hs : SingleUnits ranges) (hi : ∀ b ∈ classRanges items, b.2.toNat < 0x80)
    (hr : ∀ n, InRanges ranges n ↔ InRangesAnyCase (classRanges items) n) :
    Exact true (.char (.within ranges)) (.oneOf items) := by
  have hsi : SingleUnits (classRanges items) := fun b hb => by
    have := hi b hb
    omega
  refine exact_of_units hs fun us => ?_
  rw [Regex.Matches]
  refine exists_congr fun u => ?_
  rw [hr]
  constructor
  · -- the member `a` is in ASCII, so `u` is `a` or the same letter in the other case
    rintro ⟨a, hus, ha, hm⟩
    refine ⟨hus, ?_⟩
    rw [exists_has_iff hsi] at hm
    have hlt : a.toNat < 0x80 := by
      obtain ⟨b, hb, hle⟩ := hm
      have := hi b hb
      omega
    rcases (Script.canonicalize_eq_iff hlt).mp ha with rfl | ⟨h₁, h₂, h₃⟩ | ⟨h₁, h₂, h₃⟩
    · exact .inl hm
    · exact .inr (.inl ⟨by omega, by omega, by rwa [h₃, Nat.add_sub_cancel]⟩)
    · exact .inr (.inr ⟨by omega, by omega, by rwa [h₃]⟩)
  · have hof : ∀ n, InRanges (classRanges items) n → n < 0x80 ∧
        (UInt16.ofNat n).toNat = n ∧ ∃ i ∈ items, i.Has (.ofNat n) := by
      rintro n ⟨b, hb, hle⟩
      have hlt : n < 0x80 := Nat.lt_of_le_of_lt hle.2 (hi b hb)
      have hn : (UInt16.ofNat n).toNat = n :=
        UInt16.toNat_ofNat_of_lt' (Nat.lt_trans hlt (by decide))
      exact ⟨hlt, hn, (exists_has_iff hsi).mpr ⟨b, hb, by rwa [hn]⟩⟩
    rintro ⟨hus, hm | ⟨h₁, h₂, hm⟩ | ⟨h₁, h₂, hm⟩⟩
    · exact ⟨u, hus, rfl, (exists_has_iff hsi).mpr hm⟩
    · obtain ⟨hlt, hn, hm⟩ := hof _ hm
      refine ⟨_, hus, (Script.canonicalize_eq_iff (by omega)).mpr ?_, hm⟩
      omega
    · obtain ⟨hlt, hn, hm⟩ := hof _ hm
      refine ⟨_, hus, (Script.canonicalize_eq_iff (by omega)).mpr ?_, hm⟩
      omega

theorem inRanges_cons {b : Char × Char} {ranges : List (Char × Char)} {n : Nat} :
    InRanges (b :: ranges) n ↔ (b.1.toNat ≤ n ∧ n ≤ b.2.toNat) ∨ InRanges ranges n := by
  simp only [InRanges, List.mem_cons, exists_eq_or_imp]

/-- Capitals and other characters, in any case, are letters and the other characters. -/
theorem inRanges_letters_iff {others : List (Char × Char)} {n : Nat} :
    InRanges (Constraint.letters ++ others) n ↔ InRangesAnyCase (('A', 'Z') :: others) n := by
  have hl : InRanges (Constraint.letters ++ others) n ↔
      (0x41 ≤ n ∧ n ≤ 0x5A) ∨ (0x61 ≤ n ∧ n ≤ 0x7A) ∨ InRanges others n :=
    inRanges_cons.trans (or_congr Iff.rfl inRanges_cons)
  have hu : ∀ m, InRanges (('A', 'Z') :: others) m ↔
      (0x41 ≤ m ∧ m ≤ 0x5A) ∨ InRanges others m := fun m => inRanges_cons
  rw [hl]
  unfold InRangesAnyCase
  rw [hu, hu, hu]
  constructor
  · rintro (hn | hn | hn)
    · exact .inl (.inl hn)
    · exact .inr (.inl ⟨hn.1, hn.2, .inl (by omega)⟩)
    · exact .inl (.inr hn)
  · rintro ((hn | hn) | ⟨h₁, h₂, -⟩ | ⟨h₁, h₂, -⟩)
    · exact .inl hn
    · exact .inr (.inr hn)
    · exact .inr (.inl ⟨h₁, h₂⟩)
    · exact .inl ⟨h₁, h₂⟩

/-! ### Any character of a line -/

theorem matches_star_char_iff {t : CharSet} {cs : List Char} :
    (star (.char t)).Matches cs ↔ ∀ c ∈ cs, t.contains c = true := by
  rw [isRepeat_star.matches_chars_iff, true_and]

theorem matches_line_iff {us : List UInt16} :
    (Regex.repeated .any .star).Matches false us ↔ ∀ u ∈ us, ¬ Script.EndsLine u := by
  rw [Regex.Matches]
  constructor
  · rintro ⟨parts, -, hparts, rfl⟩ u hu
    obtain ⟨part, hmem, hu⟩ := List.mem_flatten.mp hu
    obtain ⟨v, a, rfl, ha, hend⟩ := hparts part hmem
    obtain rfl := List.mem_singleton.mp hu
    obtain rfl : a = u := ha
    exact hend
  · intro h
    refine ⟨us.map fun u => [u], trivial, ?_, (List.flatMap_singleton' us).symm⟩
    intro part hpart
    obtain ⟨u, hu, rfl⟩ := List.mem_map.mp hpart
    exact ⟨u, u, rfl, rfl, h u hu⟩

/-- Neither half of a character beyond U+FFFF ends a line. -/
theorem endsLine_encodeChar_iff {c : Char} :
    (∃ u ∈ encodeChar c, Script.EndsLine u) ↔ InRanges Constraint.lineEnds c.toNat := by
  have hl : InRanges Constraint.lineEnds c.toNat ↔ c.toNat = 0x0A ∨ c.toNat = 0x0D ∨
      c.toNat = 0x2028 ∨ c.toNat = 0x2029 := by
    simp [InRanges, Constraint.lineEnds]
    omega
  have hu : ∀ u, Script.EndsLine u ↔ u.toNat = 0x0A ∨ u.toNat = 0x0D ∨ u.toNat = 0x2028 ∨
      u.toNat = 0x2029 := by
    intro u
    simp [Script.EndsLine, ← UInt16.toNat_inj]
  have hc := Text.toNat_lt c
  rw [hl]
  by_cases hlt : c.toNat < 0x10000
  · rw [Text.encodeChar_of_lt hlt]
    simp only [List.mem_singleton, exists_eq_left, hu, UInt16.toNat_ofNat_of_lt' hlt]
  · rw [Text.encodeChar_of_le (by omega)]
    simp only [List.mem_cons, List.not_mem_nil, or_false, exists_eq_or_imp, exists_eq_left, hu]
    have hsize : UInt16.size = 0x10000 := rfl
    rw [UInt16.toNat_ofNat_of_lt' (by omega), UInt16.toNat_ofNat_of_lt' (by omega)]
    omega

/-- Where case counts, `.*` takes the rest of a line. -/
theorem agree_line :
    Agree false (.star (.char (.without Constraint.lineEnds))) (.repeated .any .star) := by
  intro cs
  rw [matches_line_iff, matches_star_char_iff]
  constructor
  · intro h c hc
    rw [contains_iff_without, ← endsLine_encodeChar_iff]
    rintro ⟨u, hu, hend⟩
    exact h u (List.mem_flatMap.mpr ⟨c, hc, hu⟩) hend
  · intro h u hu hend
    obtain ⟨c, hc, hu⟩ := List.mem_flatMap.mp hu
    exact contains_iff_without.mp (h c hc) (endsLine_encodeChar_iff.mp ⟨u, hu, hend⟩)

end Pattern

end Formwork
