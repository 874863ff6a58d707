import Mathlib
import Formwork.Text.Case

/-!
# Case maps on the characters of a notation

The case of a character is mapped by a table of runs. A run covers every code point, or every second
one, from its first to its last, and shifts those that it covers by one distance.

* `CaseRun.points` — the code points that a run covers.
* `mapRuns_cases` — what a table maps a code point to.
* `mem_lower_iff` — lower case changes letters only. A mark of a notation, which is an ASCII
  character and no letter, is kept, and nothing else becomes one. So it can be told from a state key
  whether the label holds the mark.
* `newline_notMem_capitalize` — a letter may have several letters as its upper case, but none of
  them is a line feed. So a text on one line stays on one line when its first character is put in
  upper case.
-/

namespace Formwork.Text

/-! ## Tables of runs -/

namespace CaseRun

variable {r : CaseRun} {n : Nat}

theorem covers_iff :
    r.covers n = true ↔ r.first ≤ n ∧ n ≤ r.last ∧ (n - r.first) % r.step = 0 := by
  simp only [covers, Bool.and_eq_true, decide_eq_true_eq, beq_iff_eq, and_assoc]

/-- The code points that a run covers. -/
def points (r : CaseRun) : List Nat :=
  (List.range ((r.last - r.first) / r.step + 1)).map fun k => r.first + r.step * k

/-- What a run maps a code point to. -/
def image (r : CaseRun) (n : Nat) : Nat := (n + r.shift : Int).toNat

theorem mem_points (h : r.covers n = true) : n ∈ r.points := by
  obtain ⟨hfirst, hlast, hstep⟩ := covers_iff.mp h
  refine List.mem_map.mpr ⟨(n - r.first) / r.step, ?_, ?_⟩
  · rw [List.mem_range, Nat.lt_succ_iff]
    exact Nat.div_le_div_right (Nat.sub_le_sub_right hlast r.first)
  · rw [Nat.mul_div_cancel' (Nat.dvd_of_mod_eq_zero hstep), Nat.add_sub_cancel' hfirst]

end CaseRun

/-- A table maps a code point by a run that covers it, or leaves it alone. -/
theorem mapRuns_cases (runs : List CaseRun) (n : Nat) :
    (∃ r ∈ runs, r.covers n = true ∧ mapRuns runs n = r.image n) ∨ mapRuns runs n = n := by
  unfold mapRuns
  cases hr : runs.find? (·.covers n) with
  | some r => exact .inl ⟨r, List.mem_of_find?_eq_some hr, by simpa using List.find?_some hr, rfl⟩
  | none => exact .inr rfl

/-! ## Lower case -/

/-- A run begins and ends above ASCII. The sign of the Kelvin is a run of its own, which becomes a
small `k`. -/
def CaseRun.StaysAbove (r : CaseRun) : Prop :=
  0x80 ≤ r.first + r.shift ∨ r.first = r.last ∧ r.first + r.shift = 'k'.toNat

instance (r : CaseRun) : Decidable r.StaysAbove := inferInstanceAs (Decidable (_ ∨ _))

theorem staysAbove_of_mem_lowerRuns : ∀ r ∈ lowerRuns, r.StaysAbove := by decide +kernel

theorem mapRuns_lowerRuns {n : Nat} (h : 0x80 ≤ n) :
    0x80 ≤ mapRuns lowerRuns n ∨ mapRuns lowerRuns n = 'k'.toNat := by
  rcases mapRuns_cases lowerRuns n with ⟨r, hr, hcovers, hmap⟩ | hsame
  · obtain ⟨hfirst, hlast, -⟩ := CaseRun.covers_iff.mp hcovers
    rw [hmap, CaseRun.image]
    rcases staysAbove_of_mem_lowerRuns r hr with hs | ⟨hone, hk⟩
    · exact .inl (by omega)
    · exact .inr (by omega)
  · rw [hsame]
    exact .inl h

/-- Inside ASCII, a letter becomes a letter and the other characters stay. -/
theorem toLower_eq_or_isAlpha {c : Char} (h : c.toNat < 0x80) :
    c.toLower = c ∨ c.isAlpha = true ∧ c.toLower.isAlpha = true := by
  have hall : ∀ n ∈ List.range 0x80, (Char.ofNat n).toLower = .ofNat n ∨
      (Char.ofNat n).isAlpha = true ∧ (Char.ofNat n).toLower.isAlpha = true := by decide +kernel
  have hc := hall c.toNat (List.mem_range.mpr h)
  rwa [Char.ofNat_toNat] at hc

/-- An ASCII character that is no letter, and not the one that stands for an invalid number. -/
structure IsMark (d : Char) : Prop where
  ascii : d.toNat < 0x80
  ne_zero : d ≠ '\x00'
  isAlpha_eq : d.isAlpha = false

theorem IsMark.ofNat_ne {d : Char} (hd : IsMark d) {n : Nat} (h : 0x80 ≤ n ∨ n = 'k'.toNat) :
    Char.ofNat n ≠ d := by
  rintro rfl
  rcases h with h | rfl
  · by_cases hn : n.isValidChar
    · have hlt := hd.ascii
      rw [Char.toNat_ofNat, if_pos hn] at hlt
      exact absurd hlt (Nat.not_lt.mpr h)
    · exact hd.ne_zero (dif_neg hn)
  · exact absurd hd.isAlpha_eq (by decide)

theorem mem_lowerChar_iff {c d : Char} (hd : IsMark d) : d ∈ lowerChar c ↔ d = c := by
  unfold lowerChar
  split
  · next hc =>
    rw [List.mem_singleton]
    rcases toLower_eq_or_isAlpha hc with hsame | ⟨hc, hlower⟩
    · rw [hsame]
    · have hletter : ∀ e : Char, e.isAlpha = true → d ≠ e := by
        rintro e he rfl
        exact absurd (he.symm.trans hd.isAlpha_eq) (by decide)
      exact iff_of_false (hletter _ hlower) (hletter c hc)
  · next hc =>
    have hne : d ≠ c := fun h => hc (h ▸ hd.ascii)
    refine iff_of_false ?_ hne
    split
    · rw [List.mem_cons, List.mem_singleton]
      rintro (rfl | rfl)
      · exact absurd hd.isAlpha_eq (by decide)
      · exact absurd hd.ascii (by decide)
    · rw [List.mem_singleton]
      exact (hd.ofNat_ne (mapRuns_lowerRuns (Nat.not_lt.mp hc))).symm

theorem mem_lowerAfter_iff {d : Char} (hd : IsMark d) (before : List Char) (cs : List Char) :
    d ∈ lowerAfter before cs ↔ d ∈ cs := by
  induction cs generalizing before with
  | nil => rfl
  | cons c cs ih =>
    have habove : ∀ e : Char, 0x80 ≤ e.toNat → d ≠ e :=
      fun e he h => absurd (h ▸ hd.ascii) (Nat.not_lt.mpr he)
    have hhead : d ∈ (if c = 'Σ' then [if isFinalSigma before cs then 'ς' else 'σ']
        else lowerChar c) ↔ d = c := by
      split
      · next hc =>
        rw [List.mem_singleton, hc]
        refine iff_of_false ?_ (habove _ (by decide))
        split
        · exact habove _ (by decide)
        · exact habove _ (by decide)
      · exact mem_lowerChar_iff hd
    rw [lowerAfter, List.mem_append, ih, List.mem_cons, hhead]

/-- **A mark is in the lower case of a text exactly if it is in the text.** -/
theorem mem_lower_iff {d : Char} (hd : IsMark d) (s : String) :
    d ∈ (lower s).toList ↔ d ∈ s.toList := by
  rw [lower, String.toList_ofList]
  exact mem_lowerAfter_iff hd [] s.toList

theorem isMark_parenthesis : IsMark '(' := ⟨by decide, by decide, by decide⟩

/-! ## Upper case -/

theorem ofNat_ne_newline {n : Nat} (h : n ≠ '\n'.toNat) : Char.ofNat n ≠ '\n' := by
  intro heq
  have hnum := congrArg Char.toNat heq
  rw [Char.toNat_ofNat] at hnum
  split at hnum
  · exact h hnum
  · exact absurd hnum (by decide)

theorem toUpper_ne_newline {c : Char} (hc : c.toNat < 0x80) (hne : c ≠ '\n') :
    c.toUpper ≠ '\n' := by
  have hall : ∀ n ∈ List.range 0x80, (Char.ofNat n).toUpper = '\n' → Char.ofNat n = '\n' := by
    decide +kernel
  have hchar := hall c.toNat (List.mem_range.mpr hc)
  rw [Char.ofNat_toNat] at hchar
  exact fun h => hne (hchar h)

/-- Every run begins behind the line feed. -/
theorem lt_of_mem_upperRuns : ∀ r ∈ upperRuns, ('\n'.toNat : Int) < r.first + r.shift := by
  decide +kernel

theorem mapRuns_upperRuns_ne {n : Nat} (h : n ≠ '\n'.toNat) :
    mapRuns upperRuns n ≠ '\n'.toNat := by
  rcases mapRuns_cases upperRuns n with ⟨r, hr, hcovers, hmap⟩ | hsame
  · have hfirst := (CaseRun.covers_iff.mp hcovers).1
    have hbehind := lt_of_mem_upperRuns r hr
    rw [hmap, CaseRun.image]
    omega
  · rwa [hsame]

theorem mem_upperExpansions {n : Nat} {ns : List Nat} (h : upperExpansions.lookup n = some ns) :
    (n, ns) ∈ upperExpansions := by
  obtain ⟨before, after, hsplit, -⟩ := List.lookup_eq_some_iff.mp h
  simp [hsplit]

theorem ne_of_mem_upperExpansions :
    ∀ e ∈ upperExpansions, ∀ n ∈ e.2, n ≠ '\n'.toNat := by decide +kernel

theorem newline_notMem_upperChar {c : Char} (h : c ≠ '\n') : '\n' ∉ upperChar c := by
  unfold upperChar
  split
  · next hc =>
    rw [List.mem_singleton]
    exact (toUpper_ne_newline hc h).symm
  · next hc =>
    split
    · next ns hns =>
      intro hline
      obtain ⟨n, hn, hchar⟩ := List.mem_map.mp hline
      exact ofNat_ne_newline (ne_of_mem_upperExpansions _ (mem_upperExpansions hns) n hn) hchar
    · rw [List.mem_singleton]
      have hne : c.toNat ≠ '\n'.toNat := fun heq => h (Char.toNat_inj.mp heq)
      exact (ofNat_ne_newline (mapRuns_upperRuns_ne hne)).symm

/-- **Capitalizing breaks no line.** -/
theorem newline_notMem_capitalize {s : String} (h : '\n' ∉ s.toList) :
    '\n' ∉ (capitalize s).toList := by
  unfold capitalize
  cases hs : s.toList with
  | nil => simp
  | cons c cs =>
    rw [hs, List.mem_cons, not_or] at h
    simpa using ⟨newline_notMem_upperChar (Ne.symm h.1), h.2⟩

end Formwork.Text
