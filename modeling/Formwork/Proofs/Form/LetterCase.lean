import Formwork.Proofs.Form.Collision
import Formwork.Proofs.Text.Sigma

/-!
# Keys of labels that differ in case only

The key of a field is its label in lower case, so labels that differ in case only are meant to share a
key, and a strict component is meant to refuse a form with both. There is one exception: where one
label has a capital sigma at the end of a word and the other a small one, the keys are different, and
the form passes.

* `SameFinalSigmas` — two labels have capital sigmas at the ends of the same words.
* `Field.stateKey_eq_iff` — when the keys are the same.

**Main statement**: `Component.generate_strict_of_sameButCase`.
-/

namespace Formwork

/-- Where a word ends, both texts have a capital sigma or neither has. -/
def SameFinalSigmas (s t : String) : Prop :=
  ∀ i, Text.EndsWord [] s.toList i → (s.toList[i]? = some 'Σ' ↔ t.toList[i]? = some 'Σ')

variable {f g : Field}

namespace Field

/-- Labels that differ in case only share a key unless they differ in a capital sigma that ends a
word. -/
theorem stateKey_eq_iff (h : Text.SameButCase f.label.toList g.label.toList) :
    f.stateKey = g.stateKey ↔ SameFinalSigmas f.label g.label := by
  rw [stateKey, stateKey, Text.lower, Text.lower, String.ofList_inj]
  exact Text.lowerAfter_eq_iff .nil h

end Field

namespace Component

/-- **Labels that differ in case only** share a key, and a strict component refuses every form that
holds both, unless one of them has a capital sigma at the end of a word where the other has a small
one. Then the keys are different, and a strict component accepts the form of the two fields. -/
theorem generate_strict_of_sameButCase (h : Text.SameButCase f.label.toList g.label.toList)
    (o : Options) :
    (f.stateKey = g.stateKey ↔ SameFinalSigmas f.label g.label) ∧
    (SameFinalSigmas f.label g.label →
      ∀ (fs : List Field) (i j : Nat), i ≠ j → fs[i]? = some f → fs[j]? = some g →
        ∃ c, generate { o with strictKeys := true } fs = .error (.collision c)) ∧
    (¬ SameFinalSigmas f.label g.label →
      generate { o with strictKeys := true } [f, g] = .ok (render o [f, g])) := by
  have hkey := Field.stateKey_eq_iff h
  refine ⟨hkey, ?_, ?_⟩
  · intro hsame fs i j hij hf hg
    have hnodup : ¬ (fs.map Field.stateKey).Nodup := fun h =>
      hij (Form.position_inj_of_nodup h hf hg (hkey.mpr hsame))
    obtain ⟨c, hc, -⟩ := exists_generate_strict_of_not_nodup (o := o) hnodup
    exact ⟨c, hc⟩
  · intro hsame
    refine generate_strict_of_nodup ?_
    simpa using fun he => hsame (hkey.mp he)

/-- Both labels have a capital sigma at the end of their first word. The second word is a single
sigma, behind no other letter, and its case makes no difference. -/
theorem generate_strict_two_sigmas :
    Text.SameButCase "ΟΔΟΣ Σ".toList "οδοΣ σ".toList ∧
    ∃ c, generate { Options.standard with strictKeys := true }
      [⟨"ΟΔΟΣ Σ", .text, true⟩, ⟨"Mail", .email, true⟩, ⟨"οδοΣ σ", .text, false⟩] =
        .error (.collision c) := by
  have h : Text.SameButCase "ΟΔΟΣ Σ".toList "οδοΣ σ".toList := by decide +kernel
  have hkey : Field.stateKey ⟨"ΟΔΟΣ Σ", .text, true⟩ = Field.stateKey ⟨"οδοΣ σ", .text, false⟩ := by
    decide +kernel
  have hall := generate_strict_of_sameButCase (f := ⟨"ΟΔΟΣ Σ", .text, true⟩)
    (g := ⟨"οδοΣ σ", .text, false⟩) h .standard
  exact ⟨h, hall.2.1 (hall.1.mp hkey) _ 0 2 (by decide) rfl rfl⟩

/-- A word in capitals and the same word in small letters, with a sigma at its end. -/
theorem stateKey_final_sigma :
    ¬ ∀ f g : Field, Text.SameButCase f.label.toList g.label.toList → f.stateKey = g.stateKey := by
  intro h
  have hcase : Text.SameButCase "ΑΣ".toList "ασ".toList := by decide +kernel
  have hkey := h ⟨"ΑΣ", .text, true⟩ ⟨"ασ", .text, true⟩ hcase
  exact absurd hkey (by decide +kernel)

end Component

end Formwork
