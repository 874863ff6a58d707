import Formwork.Proofs.Text.Cuts
import Formwork.Proofs.Validation.Parts

/-!
# E-mail addresses

The pattern of e-mail addresses can be read in many ways on the way through a text: the characters of
the domain include the dot and the letters behind the last dot. But only the last dot can be the one
in front of the final letters, and no part of an address holds an `@`. So an address is recognized
without trying, by two cuts: at the only `@`, and at the last dot behind it.

* `Constraint.isAddress` — whether the parts of a text around its cuts are those of an address.
* `Constraint.isAddress_append` — an address that is put together from its parts is cut into them.

**Main statement**: `Constraint.accepts_email_eq_isAddress`.
-/

namespace Formwork

namespace Constraint

open Text (before behind beforeLast behindLast)

/-- The characters of a mailbox. -/
def isMailboxChar : Char → Bool := isAlphanumOr ['.', '_', '%', '+', '-']

/-- The characters of a domain up to its last dot. -/
def isHostChar : Char → Bool := isAlphanumOr ['.', '-']

/-- Whether some characters are an address: there is one `@` and a dot behind it, and the parts around
the `@` and the last dot are a mailbox, a host and two letters or more. -/
def isAddress (cs : List Char) : Bool :=
  cs.count '@' == 1 &&
    (!(before '@' cs).isEmpty && (before '@' cs).all isMailboxChar) &&
    (behind '@' cs).contains '.' &&
    (2 ≤ (behindLast '.' (behind '@' cs)).length &&
      (behindLast '.' (behind '@' cs)).all Char.isAlpha) &&
    (!(beforeLast '.' (behind '@' cs)).isEmpty &&
      (beforeLast '.' (behind '@' cs)).all isHostChar)

/-! ## The parts of the pattern -/

theorem matches_topLabel_iff {us : List Char} :
    (Pattern.atLeast 2 (oneOf letters)).Matches us ↔
      2 ≤ us.length ∧ us.all Char.isAlpha = true := by
  rw [oneOf, (Pattern.isRepeat_atLeast 2).matches_chars_iff, List.all_eq_true]
  simp only [contains_letters_iff]

/-- The pattern matches the texts that are put together from the parts of an address. -/
theorem matches_emailPattern_iff {cs : List Char} :
    emailPattern.Matches cs ↔ ∃ mailbox host top, cs = mailbox ++ '@' :: (host ++ '.' :: top) ∧
      (mailbox ≠ [] ∧ mailbox.all isMailboxChar = true) ∧
      (host ≠ [] ∧ host.all isHostChar = true) ∧
      2 ≤ top.length ∧ top.all Char.isAlpha = true := by
  rw [emailPattern, Pattern.matches_all_iff]
  constructor
  · rintro ⟨_, _ | ⟨hmailbox, _ | ⟨hat, _ | ⟨hhost, _ | ⟨hdot, _ | ⟨htop, _ | _⟩⟩⟩⟩⟩, rfl⟩
    rw [Pattern.matches_text_iff] at hat hdot
    subst hat hdot
    exact ⟨_, _, _, by simp, matches_plus_iff.mp hmailbox, matches_plus_iff.mp hhost,
      matches_topLabel_iff.mp htop⟩
  · rintro ⟨mailbox, host, top, rfl, hmailbox, hhost, htop⟩
    refine ⟨[mailbox, ['@'], host, ['.'], top], ?_, by simp⟩
    exact .cons (matches_plus_iff.mpr hmailbox) <|
      .cons (Pattern.matches_text_iff.mpr rfl) <|
      .cons (matches_plus_iff.mpr hhost) <|
      .cons (Pattern.matches_text_iff.mpr rfl) <|
      .cons (matches_topLabel_iff.mpr htop) .nil

/-! ## The cuts of an address -/

theorem notMem_of_all {p : Char → Bool} {c : Char} {us : List Char} (h : us.all p = true)
    (hc : p c = false) : c ∉ us := by
  intro hmem
  rw [List.all_eq_true.mp h c hmem] at hc
  cases hc

/-- The parts of an address are what stands around its cuts. -/
theorem isAddress_append {mailbox host top : List Char}
    (hmailbox : mailbox ≠ [] ∧ mailbox.all isMailboxChar = true)
    (hhost : host ≠ [] ∧ host.all isHostChar = true)
    (htop : 2 ≤ top.length ∧ top.all Char.isAlpha = true) :
    isAddress (mailbox ++ '@' :: (host ++ '.' :: top)) = true := by
  -- no part holds an `@`, and the letters behind the last dot hold no dot
  have hmailboxAt : '@' ∉ mailbox := notMem_of_all hmailbox.2 (by decide)
  have hhostAt : '@' ∉ host := notMem_of_all hhost.2 (by decide)
  have htopAt : '@' ∉ top := notMem_of_all htop.2 (by decide)
  have htopDot : '.' ∉ top := notMem_of_all htop.2 (by decide)
  have hcount : (mailbox ++ '@' :: (host ++ '.' :: top)).count '@' = 1 := by
    simp [List.count_append, List.count_eq_zero.mpr, hmailboxAt, hhostAt, htopAt]
  rw [isAddress, Text.before_append hmailboxAt, Text.behind_append hmailboxAt,
    Text.beforeLast_append htopDot, Text.behindLast_append htopDot, hcount]
  simp [hmailbox, hhost, htop]

/-- **The pattern of e-mail addresses is a check without trying**: a text is accepted exactly if its
parts around its only `@` and around the last dot behind it are those of an address. -/
theorem accepts_email_eq_isAddress (s : String) : email.accepts s = isAddress s.toList := by
  show emailPattern.accepts s = isAddress s.toList
  rw [Bool.eq_iff_iff, Pattern.accepts_iff, matches_emailPattern_iff]
  constructor
  · rintro ⟨mailbox, host, top, hs, hmailbox, hhost, htop⟩
    rw [hs]
    exact isAddress_append hmailbox hhost htop
  · intro h
    simp only [isAddress, Bool.and_eq_true, beq_iff_eq, decide_eq_true_eq, Bool.not_eq_true',
      List.isEmpty_eq_false_iff, List.contains_iff_mem] at h
    obtain ⟨⟨⟨⟨hcount, hmailbox⟩, hdot⟩, htop⟩, hhost⟩ := h
    have hat : '@' ∈ s.toList := List.count_pos_iff.mp (hcount ▸ Nat.one_pos)
    refine ⟨_, _, _, ?_, hmailbox, hhost, htop⟩
    rw [Text.beforeLast_append_behindLast hdot, Text.before_append_behind hat]

/-- Only the last dot counts, and in front of it dots may stand next to each other. -/
example : isAddress "a.b@c..de".toList = true ∧ isAddress "a@b.cd.e".toList = false := by decide

end Constraint

end Formwork
