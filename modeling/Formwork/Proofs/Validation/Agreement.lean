import Formwork.Proofs.Validation.Matching
import Formwork.Proofs.Script.Syntax

/-!
# Both sides of a constraint agree

A constraint is decided twice: on the characters of a text by `Constraint.accepts`, and on its
UTF-16 units by the condition in the generated script. Here the two are shown to say the same about
every text, where the condition is read off the text of the script by `Condition.read?`.
-/

namespace Formwork

open Script (Regex RegexLiteral Condition)

namespace Constraint

open Pattern (Exact Agree exact_char exact_escaped exact_class exact_class_ignoreCase InRanges
  InRangesAnyCase SingleUnits classRanges)

/-! ## E-mail addresses -/

theorem agree_email : Agree true emailPattern emailRegex.body := by
  have hmail : Exact true (oneOf (letters ++ digits ++ only ['.', '_', '%', '+', '-']))
      (.oneOf [.range 'A' 'Z', .range '0' '9', .char '.', .char '_', .char '%', .char '+',
        .char '-']) := by
    exact exact_class_ignoreCase (by decide) (by decide) fun _ => Pattern.inRanges_letters_iff
  have hdomain : Exact true (oneOf (letters ++ digits ++ only ['.', '-']))
      (.oneOf [.range 'A' 'Z', .range '0' '9', .char '.', .char '-']) := by
    exact exact_class_ignoreCase (by decide) (by decide) fun _ => Pattern.inRanges_letters_iff
  have hletter : Exact true (oneOf letters) (.oneOf [.range 'A' 'Z']) := by
    exact exact_class_ignoreCase (by decide) (by decide) fun _ => Pattern.inRanges_letters_iff
  have hat : Exact true (.char (.ofList ['@'])) (.char '@') := exact_char (by decide) (by decide)
  have hdot : Exact true (.char (.ofList ['.'])) (.escaped '.') :=
    exact_escaped (by decide) (by decide)
  have hlast : Exact true (.atLeast 2 (oneOf letters))
      (.repeated (.oneOf [.range 'A' 'Z']) (.atLeast 2)) :=
    hletter.repeated (Pattern.isRepeat_atLeast 2) fun _ => Iff.rfl
  refine hmail.plus.seq_agree ?_
  refine .cons_text hat (.nil_text ?_)
  refine hdomain.plus.seq_agree ?_
  refine .cons_text hdot (.nil_text ?_)
  exact .last hlast.agree

/-! ## Web addresses -/

theorem agree_url : Agree false urlPattern urlRegex.body := by
  have hascii : ∀ c : Char, c.toNat < 0x80 → Exact false (.char (.ofList [c])) (.char c) :=
    fun c hc => exact_char hc nofun
  have hslash : Exact false (.char (.ofList ['/'])) (.escaped '/') :=
    exact_escaped (by decide) (by decide)
  have hdot : Exact false (.char (.ofList ['.'])) (.escaped '.') :=
    exact_escaped (by decide) (by decide)
  have hhost : Exact false hostChar (.oneOf [.word, .escaped '-']) := by
    exact exact_class (by decide) (by decide) fun n => by
      simp [InRanges, letters, digits, only, classRanges, Pattern.itemRanges]
  have hpart : Exact false (.plus (.seq (.text ".") (.plus hostChar)))
      (.repeated (.group (.seq (.escaped '.') (.repeated (.oneOf [.word, .escaped '-']) .plus)))
        .plus) :=
    (hdot.single.seq hhost.plus).group.plus
  have hpath : Exact false (oneOf (only ['/', '#', '?']))
      (.oneOf [.char '/', .char '#', .char '?']) :=
    exact_class (by decide) (by decide) fun _ => Iff.rfl
  have hs : Exact false (.text "s") (.char 's') := (hascii 's' (by decide)).single
  refine .cons_text (hascii 'h' (by decide)) (.cons_text (hascii 't' (by decide)) ?_)
  refine .cons_text (hascii 't' (by decide)) (.cons_text (hascii 'p' (by decide)) (.nil_text ?_))
  refine hs.optional.seq_agree ?_
  refine .cons_text (hascii ':' (by decide)) ?_
  refine .cons_text hslash (.cons_text hslash (.nil_text ?_))
  refine hhost.plus.seq_agree ?_
  refine hpart.seq_agree ?_
  refine hpath.optional.seq_agree ?_
  -- only the last part is not exact: `.*` also takes single surrogates
  exact .last Pattern.agree_line

/-! ## Telephone numbers -/

theorem agree_tel : Agree false telPattern telRegex.body := by
  have hplus : Exact false (.text "+") (.oneOf [.char '+']) :=
    (exact_class (by decide) (by decide) fun _ => Iff.rfl).single
  have hopen : Exact false (.text "(") (.oneOf [.char '(']) :=
    (exact_class (by decide) (by decide) fun _ => Iff.rfl).single
  have hclose : Exact false (.text ")") (.oneOf [.char ')']) :=
    (exact_class (by decide) (by decide) fun _ => Iff.rfl).single
  have hdigit : Exact false digit (.oneOf [.range '0' '9']) :=
    exact_class (by decide) (by decide) fun _ => Iff.rfl
  have hthree : Exact false (.times 3 digit) (.repeated (.oneOf [.range '0' '9']) (.exactly 3)) :=
    hdigit.repeated (Pattern.isRepeat_times 3) fun _ => Iff.rfl
  have hlast : Exact false (.timesThen 4 digit (.atMost 2 digit))
      (.repeated (.oneOf [.range '0' '9']) (.between 4 6)) := by
    refine hdigit.repeated ((Pattern.isRepeat_atMost 2).timesThen 4) fun k => ?_
    show 4 ≤ k ∧ k - 4 ≤ 2 ↔ 4 ≤ k ∧ k ≤ 6
    omega
  have hsep : Exact false separator
      (.repeated (.oneOf [.char '-', .space, .char '.']) .optional) :=
    (exact_class (by decide) (by decide) fun _ => Iff.rfl).optional
  refine hplus.optional.seq_agree ?_
  refine hopen.optional.seq_agree ?_
  refine hthree.seq_agree ?_
  refine hclose.optional.seq_agree ?_
  refine hsep.seq_agree ?_
  refine hthree.seq_agree ?_
  refine hsep.seq_agree ?_
  exact .last hlast.agree

/-! ## The text of a condition -/

theorem literal?_emailRegex (rest : List Char) :
    Script.literal? (emailRegex.source.toList ++ '.' :: rest) = some (emailRegex, '.' :: rest) := rfl

theorem literal?_urlRegex (rest : List Char) :
    Script.literal? (urlRegex.source.toList ++ '.' :: rest) = some (urlRegex, '.' :: rest) := rfl

theorem literal?_telRegex (rest : List Char) :
    Script.literal? (telRegex.source.toList ++ '.' :: rest) = some (telRegex, '.' :: rest) := rfl

/-- **A constraint's condition is read back from its text.** -/
theorem read?_violation (c : Constraint) (value : String) :
    Condition.read? value (c.violation.source value) = some c.violation := by
  refine Condition.read?_source value fun l hl => ?_
  cases c with
  | email =>
    obtain rfl : emailRegex = l := Condition.mismatch.inj hl
    exact literal?_emailRegex
  | url =>
    obtain rfl : urlRegex = l := Condition.mismatch.inj hl
    exact literal?_urlRegex
  | tel =>
    obtain rfl : telRegex = l := Condition.mismatch.inj hl
    exact literal?_telRegex
  | minLength n => cases hl

/-! ## Both sides -/

theorem accepts_iff_of_agree {p : Pattern} {l : RegexLiteral} (h : Agree l.ignoreCase p l.body)
    (s : String) : p.accepts s = true ↔ ¬ (Condition.mismatch l).Holds (Text.utf16 s) := by
  rw [Pattern.accepts_iff, Condition.Holds, Classical.not_not]
  exact (h s.toList).symm

theorem accepts_iff_not_holds (c : Constraint) (s : String) :
    c.accepts s = true ↔ ¬ c.violation.Holds (Text.utf16 s) := by
  cases c with
  | email => exact accepts_iff_of_agree agree_email s
  | url => exact accepts_iff_of_agree agree_url s
  | tel => exact accepts_iff_of_agree agree_tel s
  | minLength n =>
    show decide (n ≤ Text.units s) = true ↔ ¬ (Text.encode s.toList).length < n
    rw [Text.length_encode, decide_eq_true_eq, Nat.not_lt]
    rfl

/-- **Both sides of a constraint agree about every text**: the text of the condition in a script,
read by the grammar of scripts, is false of exactly the texts that are accepted. -/
theorem accepts_iff_script (c : Constraint) (value s : String) :
    ∃ cond, Condition.read? value (c.violation.source value) = some cond ∧
      (c.accepts s = true ↔ ¬ cond.Holds (Text.utf16 s)) :=
  ⟨c.violation, read?_violation c value, accepts_iff_not_holds c s⟩

end Constraint

end Formwork
