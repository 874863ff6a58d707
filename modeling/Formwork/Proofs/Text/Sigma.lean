import Formwork.Proofs.Text.CaseClasses
import Mathlib.Data.List.Forall2

/-!
# Texts that differ in case only

Two texts differ in case only if their characters, one by one, have the same lower case. The lower
cases of the whole texts need not be the same: at the end of a word a capital sigma becomes `ς`, and a
small sigma stays `σ`. Nothing else can make a difference. Words end at the same places in both
texts, for that depends on the classes of the characters around and not on their case.

* `SameButCase` — two texts differ in case only.
* `EndsWord` — a place where a capital sigma would become `ς`.

**Main statement**: `lowerAfter_eq_iff`.
-/

namespace Formwork.Text

/-- The characters of two texts, one by one, have the same lower case. -/
def SameButCase (cs ds : List Char) : Prop :=
  List.Forall₂ (fun c d => lowerChar c = lowerChar d) cs ds

instance (cs ds : List Char) : Decidable (SameButCase cs ds) :=
  inferInstanceAs (Decidable (List.Forall₂ _ cs ds))

/-- A sigma at position `i` of some characters would end a word; the characters in front of them are
held in reverse. -/
def EndsWord (before cs : List Char) (i : Nat) : Prop :=
  isFinalSigma ((cs.take i).reverse ++ before) (cs.drop (i + 1)) = true

variable {before before' cs ds : List Char} {c d : Char}

/-! ## The ends of words -/

theorem meetsCased_congr (h : SameButCase cs ds) : meetsCased cs = meetsCased ds := by
  unfold meetsCased
  induction h with
  | nil => rfl
  | @cons c d cs ds hcd _ ih =>
    obtain ⟨hcased, hignorable⟩ := classes_congr hcd
    rw [List.dropWhile_cons, List.dropWhile_cons, hignorable]
    by_cases hskip : isCaseIgnorable d = true
    · rw [if_pos hskip, if_pos hskip]
      exact ih
    · rw [if_neg hskip, if_neg hskip]
      exact hcased

/-- Words end at the same places. -/
theorem isFinalSigma_congr (hbefore : SameButCase before before') (h : SameButCase cs ds) :
    isFinalSigma before cs = isFinalSigma before' ds := by
  rw [isFinalSigma, isFinalSigma, meetsCased_congr hbefore, meetsCased_congr h]

theorem endsWord_zero : EndsWord before (c :: cs) 0 ↔ isFinalSigma before cs = true := by
  simp [EndsWord]

theorem endsWord_succ {i : Nat} :
    EndsWord before (c :: cs) (i + 1) ↔ EndsWord (c :: before) cs i := by
  simp [EndsWord]

/-! ## One character -/

/-- What becomes of a character in lower case, at the end of a word or not. -/
def lowerAt (ends : Bool) (c : Char) : List Char :=
  if c = 'Σ' ∧ ends = true then ['ς'] else lowerChar c

theorem lowerChar_sigma : lowerChar 'Σ' = ['σ'] := by decide +kernel

theorem lowerAfter_cons (before : List Char) (c : Char) (cs : List Char) :
    lowerAfter before (c :: cs) =
      lowerAt (isFinalSigma before cs) c ++ lowerAfter (c :: before) cs := by
  rw [lowerAfter, lowerAt]
  congr 1
  by_cases hc : c = 'Σ'
  · obtain rfl := hc
    by_cases hfinal : isFinalSigma before cs = true
    · rw [if_pos rfl, if_pos hfinal, if_pos ⟨rfl, hfinal⟩]
    · rw [if_pos rfl, if_neg hfinal, if_neg fun h => hfinal h.2, lowerChar_sigma]
  · rw [if_neg hc, if_neg fun h => hc h.1]

/-- A sigma takes one place in either shape. -/
theorem length_lowerAt (ends : Bool) (c : Char) :
    (lowerAt ends c).length = (lowerChar c).length := by
  unfold lowerAt
  split
  · next h =>
    rw [h.1, lowerChar_sigma]
    rfl
  · rfl

/-- Of characters with one lower case, the same becomes unless one of them is a capital sigma that
ends a word and the other is not. -/
theorem lowerAt_eq_iff (h : lowerChar c = lowerChar d) (ends : Bool) :
    lowerAt ends c = lowerAt ends d ↔ (ends = true → (c = 'Σ' ↔ d = 'Σ')) := by
  have hne : ∀ e, lowerChar e = lowerChar 'Σ' → ['ς'] ≠ lowerChar e := by
    intro e he
    rw [he, lowerChar_sigma]
    decide
  unfold lowerAt
  by_cases hends : ends = true
  · by_cases hc : c = 'Σ'
    · by_cases hd : d = 'Σ'
      · simp [hc, hd]
      · rw [if_pos ⟨hc, hends⟩, if_neg fun hboth => hd hboth.1]
        exact iff_of_false (hne d (hc ▸ h.symm)) fun hiff => hd ((hiff hends).mp hc)
    · by_cases hd : d = 'Σ'
      · rw [if_neg fun hboth => hc hboth.1, if_pos ⟨hd, hends⟩]
        exact iff_of_false (hne c (hd ▸ h)).symm fun hiff => hc ((hiff hends).mpr hd)
      · rw [if_neg fun hboth => hc hboth.1, if_neg fun hboth => hd hboth.1]
        exact iff_of_true h fun _ => iff_of_false hc hd
  · rw [if_neg fun hboth => hends hboth.2, if_neg fun hboth => hends hboth.2]
    exact iff_of_true h fun hyes => absurd hyes hends

/-! ## A text -/

/-- **Only capital sigmas that end a word make a difference** between the lower cases of texts that
differ in case only. -/
theorem lowerAfter_eq_iff (hbefore : SameButCase before before') (h : SameButCase cs ds) :
    lowerAfter before cs = lowerAfter before' ds ↔
      ∀ i, EndsWord before cs i → (cs[i]? = some 'Σ' ↔ ds[i]? = some 'Σ') := by
  induction h generalizing before before' with
  | nil => exact iff_of_true rfl fun i _ => Iff.rfl
  | @cons c d cs ds hcd h ih =>
    have hends := isFinalSigma_congr hbefore h
    -- the heads are as long as each other, so heads and tails are the same or the texts differ
    have hparts : lowerAfter before (c :: cs) = lowerAfter before' (d :: ds) ↔
        lowerAt (isFinalSigma before cs) c = lowerAt (isFinalSigma before cs) d ∧
          lowerAfter (c :: before) cs = lowerAfter (d :: before') ds := by
      have hlength : (lowerAt (isFinalSigma before cs) c).length =
          (lowerAt (isFinalSigma before cs) d).length := by
        rw [length_lowerAt, length_lowerAt, hcd]
      rw [lowerAfter_cons, lowerAfter_cons, ← hends]
      exact ⟨fun he => List.append_inj he hlength, fun ⟨hhead, htail⟩ => by rw [hhead, htail]⟩
    rw [hparts, lowerAt_eq_iff hcd, ih (.cons hcd hbefore)]
    refine Iff.trans ?_ Nat.and_forall_add_one
    simp only [endsWord_zero, endsWord_succ, List.getElem?_cons_zero, List.getElem?_cons_succ,
      Option.some.injEq]

end Formwork.Text
