import Formwork.Proofs.Text.CaseMaps
import Mathlib.Data.Nat.Bitwise

/-!
# Lower case and the classes of characters

Whether a sigma ends a word depends on two classes of the characters around it: those that have case,
and those that are skipped. Lower case keeps to the classes. A character with another lower case has
case and is not skipped, and the same holds of what it becomes; all others are their own lower case.

The tables hold some thousand code points. To compare them, a set of code points is taken as the bits
of one number (`bitsOf`, `bitsOfRanges`).

**Main statement**: `classes_congr`, characters with one lower case are in the same classes.
-/

namespace Formwork.Text

/-! ## Sets of code points as bits -/

/-- The number with a bit for each of the code points. -/
def bitsOf : List Nat → Nat
  | [] => 0
  | n :: ns => 1 <<< n ||| bitsOf ns

/-- The number with a bit for each code point of the ranges. -/
def bitsOfRanges : List (Nat × Nat) → Nat
  | [] => 0
  | r :: rs => (2 ^ (r.2 + 1 - r.1) - 1) <<< r.1 ||| bitsOfRanges rs

theorem testBit_bitsOf {ns : List Nat} {n : Nat} : (bitsOf ns).testBit n = true ↔ n ∈ ns := by
  induction ns with
  | nil => simp [bitsOf]
  | cons m ns ih =>
    rw [bitsOf, Nat.testBit_or, Bool.or_eq_true, ih, List.mem_cons, Nat.one_shiftLeft,
      Nat.testBit_two_pow, decide_eq_true_eq, eq_comm]

theorem testBit_bitsOfRanges (rs : List (Nat × Nat)) (n : Nat) :
    (bitsOfRanges rs).testBit n = inRanges rs n := by
  induction rs with
  | nil => simp [bitsOfRanges, inRanges]
  | cons r rs ih =>
    have hrange : (decide (n ≥ r.1) && decide (n - r.1 < r.2 + 1 - r.1)) =
        (decide (r.1 ≤ n) && decide (n ≤ r.2)) := by
      rw [Bool.eq_iff_iff]
      simp only [Bool.and_eq_true, decide_eq_true_eq]
      omega
    rw [bitsOfRanges, Nat.testBit_or, ih, Nat.testBit_shiftLeft, Nat.testBit_two_pow_sub_one,
      hrange]
    rfl

variable {ns : List Nat} {rs : List (Nat × Nat)}

/-- Code points whose bits are all kept are in the ranges. -/
theorem inRanges_of_bits (h : bitsOf ns &&& bitsOfRanges rs = bitsOf ns) :
    ∀ n ∈ ns, inRanges rs n = true := by
  intro n hn
  have hbit := testBit_bitsOf.mpr hn
  rw [← h, Nat.testBit_and, Bool.and_eq_true, testBit_bitsOfRanges] at hbit
  exact hbit.2

/-- Code points of which no bit is kept are in none of the ranges. -/
theorem inRanges_eq_false_of_bits (h : bitsOf ns &&& bitsOfRanges rs = 0) :
    ∀ n ∈ ns, inRanges rs n = false := by
  intro n hn
  have hbit : (bitsOf ns &&& bitsOfRanges rs).testBit n = false := by rw [h, Nat.zero_testBit]
  rwa [Nat.testBit_and, testBit_bitsOf.mpr hn, Bool.true_and, testBit_bitsOfRanges] at hbit

/-! ## The characters with another lower case -/

/-- The capitals of ASCII, which the tables leave out, and the runs of the table. -/
def capitalRuns : List CaseRun := ⟨0x41, 0x5A, 1, 32⟩ :: lowerRuns

/-- The code points that have another lower case, and those that they become. -/
def casePairs : List Nat :=
  capitalRuns.flatMap CaseRun.points ++ capitalRuns.flatMap fun r => r.points.map r.image

theorem casePairs_cased :
    bitsOf casePairs &&& bitsOfRanges casedRanges = bitsOf casePairs := by decide +kernel

theorem casePairs_not_ignorable :
    bitsOf casePairs &&& bitsOfRanges caseIgnorableRanges = 0 := by decide +kernel

theorem mem_casePairs {r : CaseRun} (hr : r ∈ capitalRuns) {n : Nat} (hn : n ∈ r.points) :
    n ∈ casePairs ∧ r.image n ∈ casePairs :=
  ⟨List.mem_append_left _ (List.mem_flatMap.mpr ⟨r, hr, hn⟩),
    List.mem_append_right _ (List.mem_flatMap.mpr ⟨r, hr, List.mem_map_of_mem hn⟩)⟩

theorem valid_of_mem_casedRanges : ∀ r ∈ casedRanges,
    r.2 < 0xD800 ∨ 0xDFFF < r.1 ∧ r.2 < 0x110000 := by decide +kernel

theorem toNat_ofNat_of_cased {n : Nat} (h : inRanges casedRanges n = true) :
    (Char.ofNat n).toNat = n := by
  obtain ⟨r, hr, hn⟩ := List.any_eq_true.mp h
  rw [Bool.and_eq_true, decide_eq_true_eq, decide_eq_true_eq] at hn
  have hvalid := valid_of_mem_casedRanges r hr
  rw [Char.toNat_ofNat, if_pos (by unfold Nat.isValidChar; omega)]

/-! ## One character -/

/-- The forms that the lower case of a character has. -/
inductive IsLowerOf (c : Char) : List Char → Prop
  | same : IsLowerOf c [c]
  | mapped {r : CaseRun} (hr : r ∈ capitalRuns) (hc : c.toNat ∈ r.points) :
      IsLowerOf c [Char.ofNat (r.image c.toNat)]
  /-- The capital i with a dot. -/
  | dotted (h : c = 'İ') : IsLowerOf c ['i', '\u0307']

theorem isLowerOf_of_ascii {c : Char} (h : c.toNat < 0x80) : IsLowerOf c [c.toLower] := by
  have hall : ∀ n ∈ List.range 0x80, (Char.ofNat n).toLower = .ofNat n ∨
      n ∈ CaseRun.points ⟨0x41, 0x5A, 1, 32⟩ ∧
        (Char.ofNat n).toLower = .ofNat (CaseRun.image ⟨0x41, 0x5A, 1, 32⟩ n) := by
    decide +kernel
  have hc := hall c.toNat (List.mem_range.mpr h)
  rw [Char.ofNat_toNat] at hc
  rcases hc with hsame | ⟨hpoint, himage⟩
  · rw [hsame]
    exact .same
  · rw [himage]
    exact .mapped List.mem_cons_self hpoint

theorem isLowerOf_lowerChar (c : Char) : IsLowerOf c (lowerChar c) := by
  unfold lowerChar
  split
  · next hc => exact isLowerOf_of_ascii hc
  · split
    · next hc => exact .dotted hc
    · rcases mapRuns_cases lowerRuns c.toNat with ⟨r, hr, hcovers, hmap⟩ | hsame
      · rw [hmap]
        exact .mapped (List.mem_cons_of_mem _ hr) (CaseRun.mem_points hcovers)
      · rw [hsame, Char.ofNat_toNat]
        exact .same

/-- A character and the first one of its lower case are in the same classes. -/
theorem exists_head_lowerChar (c : Char) : ∃ d ds, lowerChar c = d :: ds ∧
    isCased d = isCased c ∧ isCaseIgnorable d = isCaseIgnorable c := by
  have hform := isLowerOf_lowerChar c
  generalize lowerChar c = ds at hform
  cases hform with
  | same => exact ⟨c, [], rfl, rfl, rfl⟩
  | @mapped r hr hc =>
    obtain ⟨hpoint, himage⟩ := mem_casePairs hr hc
    have hcased := inRanges_of_bits casePairs_cased
    have hcounts := inRanges_eq_false_of_bits casePairs_not_ignorable
    refine ⟨_, [], rfl, ?_, ?_⟩
    · rw [isCased, isCased, toNat_ofNat_of_cased (hcased _ himage), hcased _ himage,
        hcased _ hpoint]
    · rw [isCaseIgnorable, isCaseIgnorable, toNat_ofNat_of_cased (hcased _ himage),
        hcounts _ himage, hcounts _ hpoint]
  | dotted h =>
    obtain rfl := h
    exact ⟨'i', ['\u0307'], rfl, by decide +kernel, by decide +kernel⟩

/-- **Characters with one lower case are in the same classes.** -/
theorem classes_congr {c d : Char} (h : lowerChar c = lowerChar d) :
    isCased c = isCased d ∧ isCaseIgnorable c = isCaseIgnorable d := by
  obtain ⟨e, es, he, hcased, hignorable⟩ := exists_head_lowerChar c
  obtain ⟨e', es', he', hcased', hignorable'⟩ := exists_head_lowerChar d
  obtain ⟨rfl, -⟩ := List.cons.inj (he.symm.trans (h.trans he'))
  exact ⟨hcased.symm.trans hcased', hignorable.symm.trans hignorable'⟩

end Formwork.Text
