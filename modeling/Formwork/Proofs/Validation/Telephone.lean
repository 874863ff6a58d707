import Formwork.Proofs.Validation.Parts

/-!
# Telephone numbers

A telephone number is a chain of parts, most of which may be left out, and the pattern takes every
combination of them. Two of the parts belong together: the brackets around the area code. The pattern
does not know this, so it also takes a number with one bracket.

* `Telephone` — a number in its parts; each group holds the right number of digits.
* `Telephone.Paired` — the area code stands bare or between two brackets.

**Main statement**: `Constraint.accepts_tel_iff_parts`, what is accepted and what of it has paired
brackets.
-/

namespace Formwork

/-- A group of ASCII digits of a given length. -/
structure Digits (least most : Nat) where
  chars : List Char
  isDigit : ∀ c ∈ chars, c.isDigit = true
  least_le : least ≤ chars.length
  le_most : chars.length ≤ most

/-- A character that may stand between two groups of digits: a dot, a dash, or a character of one
unit that `\s` stands for in a script. -/
def IsSeparator (c : Char) : Prop :=
  c = '.' ∨ c = '-' ∨ ∃ u, Text.encodeChar c = [u] ∧ Script.IsSpace u

/-- A telephone number in its parts. -/
structure Telephone where
  /-- Whether there is a `+` in front. -/
  plus : Bool
  /-- Whether there is a bracket in front of the area code. -/
  opened : Bool
  area : Digits 3 3
  /-- Whether there is a bracket behind the area code. -/
  closed : Bool
  first : Option {c // IsSeparator c}
  exchange : Digits 3 3
  second : Option {c // IsSeparator c}
  line : Digits 4 6

namespace Telephone

/-- The area code stands bare or between two brackets. -/
def Paired (t : Telephone) : Prop := t.opened = t.closed

/-- A mark that may be left out. -/
def mark (c : Char) (given : Bool) : List Char := if given then [c] else []

/-- What stands between two groups of digits. -/
def gap (separator : Option {c // IsSeparator c}) : List Char := separator.toList.map (·.val)

/-- The parts of a number as they are written, one after the other. -/
def parts (t : Telephone) : List (List Char) :=
  [mark '+' t.plus, mark '(' t.opened, t.area.chars, mark ')' t.closed, gap t.first,
    t.exchange.chars, gap t.second, t.line.chars]

/-- The number as it is written. -/
def chars (t : Telephone) : List Char := t.parts.flatten

/-! ## The brackets of a number -/

theorem mem_mark_iff {c d : Char} {given : Bool} : c ∈ mark d given ↔ given = true ∧ c = d := by
  cases given <;> simp [mark]

theorem isSeparator_of_mem_gap {c : Char} {separator : Option {c // IsSeparator c}}
    (h : c ∈ gap separator) : IsSeparator c := by
  obtain ⟨s, -, rfl⟩ := List.mem_map.mp h
  exact s.property

/-- Marks stand only in their own places. -/
theorem mem_chars_iff {t : Telephone} {c : Char} (hdigit : ¬ c.isDigit = true)
    (hseparator : ¬ IsSeparator c) : c ∈ t.chars ↔
      t.plus = true ∧ c = '+' ∨ t.opened = true ∧ c = '(' ∨ t.closed = true ∧ c = ')' := by
  have harea : c ∉ t.area.chars := fun h => hdigit (t.area.isDigit c h)
  have hexchange : c ∉ t.exchange.chars := fun h => hdigit (t.exchange.isDigit c h)
  have hline : c ∉ t.line.chars := fun h => hdigit (t.line.isDigit c h)
  have hgap : ∀ separator, c ∉ gap separator := fun _ h => hseparator (isSeparator_of_mem_gap h)
  simp [chars, parts, mem_mark_iff, harea, hexchange, hline, hgap]

/-- A bracket is no separator, so it says something about the area code wherever it stands. -/
theorem not_isSeparator_of_bracket {c : Char} (hc : c = '(' ∨ c = ')') : ¬ IsSeparator c := by
  rintro (rfl | rfl | ⟨u, hu, hspace⟩)
  · simp at hc
  · simp at hc
  · have hn : u.toNat = 0x28 ∨ u.toNat = 0x29 := by
      rw [← Text.encodeChar_eq_singleton_iff.mp hu]
      rcases hc with rfl | rfl
      · exact .inl rfl
      · exact .inr rfl
    unfold Script.IsSpace at hspace
    omega

theorem opening_mem_chars_iff {t : Telephone} : '(' ∈ t.chars ↔ t.opened = true := by
  rw [mem_chars_iff (by decide) (not_isSeparator_of_bracket (.inl rfl))]
  simp

theorem closing_mem_chars_iff {t : Telephone} : ')' ∈ t.chars ↔ t.closed = true := by
  rw [mem_chars_iff (by decide) (not_isSeparator_of_bracket (.inr rfl))]
  simp

theorem paired_iff {t : Telephone} : t.Paired ↔ ('(' ∈ t.chars ↔ ')' ∈ t.chars) := by
  rw [opening_mem_chars_iff, closing_mem_chars_iff]
  exact Bool.eq_iff_iff

end Telephone

namespace Constraint

open Telephone (mark gap)
open Pattern (InRanges contains_iff_within matches_optional_iff)

/-! ## The parts of the pattern -/

theorem inRanges_scriptBlanks_iff {c : Char} :
    InRanges scriptBlanks c.toNat ↔ ∃ u, Text.encodeChar c = [u] ∧ Script.IsSpace u := by
  have hsingle : Pattern.SingleUnits (Pattern.itemRanges .space) := by decide
  have hspace : ∀ u, Script.IsSpace u ↔ InRanges scriptBlanks u.toNat :=
    fun u => Pattern.has_iff (i := .space) hsingle
  constructor
  · intro h
    -- no blank lies beyond U+FFFF, so `c` is a unit of its own
    have hlt : c.toNat < 0x10000 := by
      have := hsingle.bounds h
      omega
    refine ⟨_, Text.encodeChar_of_lt hlt, (hspace _).mpr ?_⟩
    rwa [UInt16.toNat_ofNat_of_lt' hlt]
  · rintro ⟨u, hu, h⟩
    rw [Text.encodeChar_eq_singleton_iff.mp hu]
    exact (hspace u).mp h

theorem matches_separator_iff {cs : List Char} :
    separator.Matches cs ↔ ∃ s, cs = gap s := by
  have hset : ∀ c, (CharSet.within (only ['-'] ++ scriptBlanks ++ only ['.'])).contains c = true ↔
      IsSeparator c := by
    intro c
    rw [contains_iff_within, inRanges_append, inRanges_append, inRanges_only_iff,
      inRanges_only_iff, inRanges_scriptBlanks_iff, List.mem_singleton, List.mem_singleton, or_comm,
      IsSeparator]
  rw [separator, matches_optional_iff, oneOf, Pattern.matches_char_iff]
  constructor
  · rintro (⟨c, hc, rfl⟩ | rfl)
    · exact ⟨some ⟨c, (hset c).mp hc⟩, rfl⟩
    · exact ⟨none, rfl⟩
  · rintro ⟨_ | ⟨c, hc⟩, rfl⟩
    · exact .inr rfl
    · exact .inl ⟨c, (hset c).mpr hc, rfl⟩

theorem matches_mark_iff {s : String} {c : Char} (hs : s.toList = [c]) {cs : List Char} :
    (Pattern.optional (.text s)).Matches cs ↔ ∃ given, cs = mark c given := by
  rw [Pattern.matches_optional_text_iff, hs]
  rfl

/-- A run of digits of an allowed length is a group of digits. -/
theorem matches_digits_iff {least most : Nat} {p : Pattern}
    (hp : Pattern.IsRepeat digit (fun n => least ≤ n ∧ n ≤ most) p) {cs : List Char} :
    p.Matches cs ↔ ∃ d : Digits least most, cs = d.chars := by
  rw [Pattern.IsRepeat.matches_chars_iff hp]
  simp only [contains_digits_iff]
  constructor
  · rintro ⟨⟨hleast, hmost⟩, hcs⟩
    exact ⟨⟨cs, hcs, hleast, hmost⟩, rfl⟩
  · rintro ⟨d, rfl⟩
    exact ⟨⟨d.least_le, d.le_most⟩, d.isDigit⟩

theorem matches_three_iff {cs : List Char} :
    (Pattern.times 3 digit).Matches cs ↔ ∃ d : Digits 3 3, cs = d.chars :=
  matches_digits_iff ((Pattern.isRepeat_times 3).congr fun n => by omega)

theorem matches_line_iff {cs : List Char} :
    (Pattern.timesThen 4 digit (.atMost 2 digit)).Matches cs ↔ ∃ d : Digits 4 6, cs = d.chars :=
  matches_digits_iff (((Pattern.isRepeat_atMost 2).timesThen 4).congr fun n => by omega)

/-- The pattern matches the numbers, with paired brackets or not. -/
theorem matches_telPattern_iff {cs : List Char} :
    telPattern.Matches cs ↔ ∃ t : Telephone, t.chars = cs := by
  rw [telPattern, Pattern.matches_all_iff]
  constructor
  · rintro ⟨_, _ | ⟨hplus, _ | ⟨hopened, _ | ⟨harea, _ | ⟨hclosed, _ | ⟨hfirst, _ | ⟨hexchange,
      _ | ⟨hsecond, _ | ⟨hline, _ | _⟩⟩⟩⟩⟩⟩⟩⟩, rfl⟩
    obtain ⟨plus, rfl⟩ := (matches_mark_iff rfl).mp hplus
    obtain ⟨opened, rfl⟩ := (matches_mark_iff rfl).mp hopened
    obtain ⟨area, rfl⟩ := matches_three_iff.mp harea
    obtain ⟨closed, rfl⟩ := (matches_mark_iff rfl).mp hclosed
    obtain ⟨first, rfl⟩ := matches_separator_iff.mp hfirst
    obtain ⟨exchange, rfl⟩ := matches_three_iff.mp hexchange
    obtain ⟨second, rfl⟩ := matches_separator_iff.mp hsecond
    obtain ⟨line, rfl⟩ := matches_line_iff.mp hline
    exact ⟨⟨plus, opened, area, closed, first, exchange, second, line⟩, rfl⟩
  · rintro ⟨t, rfl⟩
    refine ⟨t.parts, ?_, rfl⟩
    exact .cons ((matches_mark_iff rfl).mpr ⟨t.plus, rfl⟩) <|
      .cons ((matches_mark_iff rfl).mpr ⟨t.opened, rfl⟩) <|
      .cons (matches_three_iff.mpr ⟨t.area, rfl⟩) <|
      .cons ((matches_mark_iff rfl).mpr ⟨t.closed, rfl⟩) <|
      .cons (matches_separator_iff.mpr ⟨t.first, rfl⟩) <|
      .cons (matches_three_iff.mpr ⟨t.exchange, rfl⟩) <|
      .cons (matches_separator_iff.mpr ⟨t.second, rfl⟩) <|
      .cons (matches_line_iff.mpr ⟨t.line, rfl⟩) .nil

theorem accepts_tel_iff {s : String} :
    tel.accepts s = true ↔ ∃ t : Telephone, t.chars = s.toList :=
  Pattern.accepts_iff.trans matches_telPattern_iff

/-- **Which telephone numbers are accepted**: those that fall into the parts of a number, where each
bracket around the area code may be left out on its own. The numbers with paired brackets are the
accepted ones that have both brackets or none. -/
theorem accepts_tel_iff_parts (s : String) :
    (tel.accepts s = true ↔ ∃ t : Telephone, t.chars = s.toList) ∧
    ((∃ t : Telephone, t.Paired ∧ t.chars = s.toList) ↔
      tel.accepts s = true ∧ ('(' ∈ s.toList ↔ ')' ∈ s.toList)) := by
  refine ⟨accepts_tel_iff, ?_⟩
  rw [accepts_tel_iff]
  constructor
  · rintro ⟨t, hpaired, hs⟩
    rw [Telephone.paired_iff, hs] at hpaired
    exact ⟨⟨t, hs⟩, hpaired⟩
  · rintro ⟨⟨t, hs⟩, hbrackets⟩
    rw [← hs, ← Telephone.paired_iff] at hbrackets
    exact ⟨t, hbrackets, hs⟩

/-- A bracket that is opened and never closed is accepted. -/
theorem accepts_tel_unpaired : tel.accepts "(5551234567" = true ∧
    ¬ ∃ t : Telephone, t.Paired ∧ t.chars = "(5551234567".toList := by
  refine ⟨by decide, ?_⟩
  rintro ⟨t, hpaired, hs⟩
  rw [Telephone.paired_iff, hs] at hpaired
  exact absurd (hpaired.mp (by decide)) (by decide)

end Constraint

end Formwork
