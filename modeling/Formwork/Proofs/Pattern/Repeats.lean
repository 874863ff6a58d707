import Formwork.Pattern.Language

/-!
# Repetition in patterns

The derived forms of patterns (`optional`, `plus`, `times`, …) all say how many texts of one pattern
stand one after the other. `Repeats p allowed` is that common meaning: a text falls into parts, each
of which is one of `p`, and their number is allowed.

The forms are nested `seq`, `alt` and `star`, and each of these moves the allowed numbers in its own
way: behind one more `p` they go up by one (`IsRepeat.seq`), an alternative allows what either side
allows (`IsRepeat.alt`), and a star allows all (`isRepeat_star`).
-/

namespace Formwork.Pattern

/-- Texts of `p` one after the other, as many as `allowed` says. -/
def Repeats (p : Pattern) (allowed : Nat → Prop) (cs : List Char) : Prop :=
  ∃ parts : List (List Char), allowed parts.length ∧ (∀ part ∈ parts, p.Matches part) ∧
    cs = parts.flatten

/-- `q` matches the repetitions of `p` that `allowed` allows. -/
def IsRepeat (p : Pattern) (allowed : Nat → Prop) (q : Pattern) : Prop :=
  ∀ cs, q.Matches cs ↔ Repeats p allowed cs

variable {p q r : Pattern} {allowed other : Nat → Prop}

theorem IsRepeat.congr (h : IsRepeat p allowed q) (hn : ∀ n, allowed n ↔ other n) :
    IsRepeat p other q := by
  intro cs
  rw [h cs]
  simp only [Repeats, hn]

theorem isRepeat_empty : IsRepeat p (· = 0) empty := by
  intro cs
  rw [matches_empty_iff]
  constructor
  · rintro rfl
    exact ⟨[], rfl, by simp, rfl⟩
  · rintro ⟨parts, hlen, -, rfl⟩
    rw [List.eq_nil_of_length_eq_zero hlen]
    rfl

theorem IsRepeat.seq (h : IsRepeat p allowed q) :
    IsRepeat p (fun n => 1 ≤ n ∧ allowed (n - 1)) (.seq p q) := by
  intro cs
  rw [matches_seq_iff]
  constructor
  · rintro ⟨u, v, hu, hv, rfl⟩
    obtain ⟨parts, hlen, hparts, rfl⟩ := (h v).mp hv
    exact ⟨u :: parts, ⟨by simp, hlen⟩, by simpa using ⟨hu, hparts⟩, rfl⟩
  · rintro ⟨parts, ⟨hpos, hlen⟩, hparts, rfl⟩
    cases parts with
    | nil => simp at hpos
    | cons u parts =>
      refine ⟨u, parts.flatten, hparts u List.mem_cons_self, (h _).mpr ⟨parts, hlen, ?_, rfl⟩, rfl⟩
      exact fun x hx => hparts x (List.mem_cons_of_mem _ hx)

theorem IsRepeat.alt (hq : IsRepeat p allowed q) (hr : IsRepeat p other r) :
    IsRepeat p (fun n => allowed n ∨ other n) (.alt q r) := by
  intro cs
  rw [matches_alt_iff, hq cs, hr cs]
  simp only [Repeats, or_and_right, exists_or]

/-! ## The derived forms -/

theorem matches_star_flatten {parts : List (List Char)} (h : ∀ part ∈ parts, p.Matches part) :
    (star p).Matches parts.flatten := by
  induction parts with
  | nil => exact .starNil
  | cons u parts ih =>
    exact .starCons (h u List.mem_cons_self) (ih fun x hx => h x (List.mem_cons_of_mem _ hx))

theorem isRepeat_star : IsRepeat p (fun _ => True) (star p) := by
  intro cs
  constructor
  · intro h
    generalize hs : star p = s at h
    induction h with
    | starNil => exact ⟨[], trivial, by simp, rfl⟩
    | @starCons p' u v hu _ _ ih =>
      obtain rfl : p = p' := by injection hs
      obtain ⟨parts, -, hparts, rfl⟩ := ih rfl
      exact ⟨u :: parts, trivial, by simpa using ⟨hu, hparts⟩, rfl⟩
    | _ => cases hs
  · rintro ⟨parts, -, hparts, rfl⟩
    exact matches_star_flatten hparts

theorem isRepeat_optional : IsRepeat p (· ≤ 1) (optional p) := by
  have h : IsRepeat p (fun n => (1 ≤ n ∧ n - 1 = 0) ∨ n = 0) (.alt (.seq p empty) empty) :=
    isRepeat_empty.seq.alt isRepeat_empty
  intro cs
  rw [← (h.congr (fun n => by omega) : IsRepeat p (· ≤ 1) _) cs]
  simp [optional, matches_alt_iff, matches_seq_iff, matches_empty_iff]

theorem isRepeat_plus : IsRepeat p (1 ≤ ·) (plus p) :=
  isRepeat_star.seq.congr fun n => by simp

theorem IsRepeat.timesThen (h : IsRepeat p allowed q) (n : Nat) :
    IsRepeat p (fun k => n ≤ k ∧ allowed (k - n)) (timesThen n p q) := by
  induction n with
  | zero => exact h.congr fun k => by simp
  | succ n ih =>
    -- one more text of `p` in front, so one less is left for `q`
    refine (ih.seq : IsRepeat p _ (.seq p (Pattern.timesThen n p q))).congr fun k => ?_
    show 1 ≤ k ∧ n ≤ k - 1 ∧ allowed (k - 1 - n) ↔ n + 1 ≤ k ∧ allowed (k - (n + 1))
    rw [Nat.sub_sub, Nat.add_comm 1 n, ← and_assoc]
    exact and_congr_left fun _ => by omega

theorem isRepeat_times (n : Nat) : IsRepeat p (· = n) (times n p) :=
  (isRepeat_empty.timesThen n).congr fun k => by omega

theorem isRepeat_atLeast (n : Nat) : IsRepeat p (n ≤ ·) (atLeast n p) :=
  (isRepeat_star.timesThen n).congr fun k => by simp

theorem isRepeat_atMost (n : Nat) : IsRepeat p (· ≤ n) (atMost n p) := by
  induction n with
  | zero => exact isRepeat_empty.congr fun k => by simp
  | succ n ih =>
    refine ((ih.seq.alt isRepeat_empty :
      IsRepeat p _ (.alt (.seq p (atMost n p)) empty))).congr fun k => ?_
    show (1 ≤ k ∧ k - 1 ≤ n) ∨ k = 0 ↔ k ≤ n + 1
    omega

/-! ## Runs of single characters -/

theorem exists_eq_map_singleton {t : CharSet} {parts : List (List Char)}
    (h : ∀ part ∈ parts, (char t).Matches part) :
    ∃ cs : List Char, parts = cs.map (fun c => [c]) ∧ ∀ c ∈ cs, t.contains c = true := by
  induction parts with
  | nil => exact ⟨[], rfl, by simp⟩
  | cons part parts ih =>
    obtain ⟨c, hc, rfl⟩ := matches_char_iff.mp (h part List.mem_cons_self)
    obtain ⟨cs, rfl, hcs⟩ := ih fun x hx => h x (List.mem_cons_of_mem _ hx)
    exact ⟨c :: cs, rfl, by simpa using ⟨hc, hcs⟩⟩

/-- Where the repeated pattern is a single character, each character is a part of its own. -/
theorem IsRepeat.matches_chars_iff {t : CharSet} (h : IsRepeat (char t) allowed q)
    {cs : List Char} : q.Matches cs ↔ allowed cs.length ∧ ∀ c ∈ cs, t.contains c = true := by
  have hflatten : ∀ ds : List Char, ds = (ds.map fun c => [c]).flatten :=
    fun ds => (List.flatMap_singleton' ds).symm
  rw [h cs]
  constructor
  · rintro ⟨parts, hlen, hparts, rfl⟩
    obtain ⟨ds, rfl, hds⟩ := exists_eq_map_singleton hparts
    rw [List.length_map] at hlen
    rw [← hflatten ds]
    exact ⟨hlen, hds⟩
  · rintro ⟨hlen, hcs⟩
    refine ⟨cs.map fun c => [c], by rwa [List.length_map], ?_, hflatten cs⟩
    intro part hpart
    obtain ⟨c, hc, rfl⟩ := List.mem_map.mp hpart
    exact .char (hcs c hc)

end Formwork.Pattern
