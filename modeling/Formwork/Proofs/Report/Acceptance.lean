import Formwork.Proofs.Form.Collision
import Formwork.Proofs.Validation.Validity
import Formwork.Report

/-!
# One description, several answers

A report, an HTML form and a component all begin by reading the description. So they accept the same
descriptions and complain about the same line of any other, before they look at anything else. Only
a strict component asks for more, and what it asks for can be seen in the report: the keys have to be
distinct.

* `Report.ofText_eq`, `Description.generate_eq` — each is what was read, or the line that was not.

**Main statement**: `Description.answers_agree`.
-/

namespace Formwork

/-! ## What is made from what was read -/

/-- The report on fields. -/
def Report.ofFields (fs : List Field) : Report := ⟨fs, fs.map Field.stateKey, Plan.ofFields fs⟩

theorem Report.ofText_eq (text : String) :
    ofText text = match Description.read text with
      | .ok fs => .ok (ofFields fs)
      | .error e => .error e := by
  unfold ofText
  cases Description.read text with
  | error e => rfl
  | ok fs =>
    show Except.ok (Report.mk fs (Form.ofFields fs).keys (Plan.ofFields fs)) = _
    rw [Form.keys_ofFields]
    rfl

theorem Description.generate_eq (text : String) (t : Target) (o : Component.Options) :
    generate text t o = match read text with
      | .ok fs => t.generate o fs
      | .error e => .error (.line e) := by
  unfold generate
  cases read text <;> rfl

/-! ## All answers at once -/

namespace Description

/-- **All answers agree on what is a description.** For every text, the report, the HTML form under
any options and the component without strictness are there all together, or they all complain about
the same line. The HTML form does not depend on the options. A strict component is there exactly if
there is a report and no key is twice in it; it complains about the line that is no field if there
is one, and otherwise about a key that is there at least twice. -/
theorem answers_agree (text : String) :
    ((∃ r, Report.ofText text = .ok r) ∧
        (∀ o, ∃ code, generate text .html o = .ok code) ∧
        (∀ o : Component.Options, ∃ code,
          generate text .react { o with strictKeys := false } = .ok code) ∨
      ∃ e, Report.ofText text = .error e ∧
        (∀ o, generate text .html o = .error (.line e)) ∧
        (∀ o : Component.Options,
          generate text .react { o with strictKeys := false } = .error (.line e))) ∧
    (∀ o o', generate text .html o = generate text .html o') ∧
    (∀ o : Component.Options,
      (∃ code, generate text .react { o with strictKeys := true } = .ok code) ↔
        ∃ r, Report.ofText text = .ok r ∧ r.keys.Nodup) ∧
    (∀ (o : Component.Options) e, Report.ofText text = .error e →
      generate text .react { o with strictKeys := true } = .error (.line e)) ∧
    (∀ (o : Component.Options) r, Report.ofText text = .ok r → ¬ r.keys.Nodup → ∃ c : Collision,
      generate text .react { o with strictKeys := true } = .error (.collision c) ∧
        2 ≤ r.keys.count c.key) := by
  simp only [Report.ofText_eq, generate_eq]
  cases read text with
  | error e =>
    refine ⟨.inr ⟨e, rfl, fun _ => rfl, fun _ => rfl⟩, fun _ _ => rfl, fun o => ?_, ?_, ?_⟩
    · simp
    · rintro o _ ⟨⟩
      rfl
    · rintro o r ⟨⟩
  | ok fs =>
    refine ⟨.inl ⟨⟨_, rfl⟩, fun _ => ⟨_, rfl⟩, fun o => ⟨_, Component.generate_lenient o fs⟩⟩,
      fun _ _ => rfl, fun o => ?_, ?_, ?_⟩
    · show (∃ code, Component.generate { o with strictKeys := true } fs = .ok code) ↔ _
      by_cases hkeys : (fs.map Field.stateKey).Nodup
      · exact iff_of_true ⟨_, Component.generate_strict_of_nodup hkeys⟩ ⟨_, rfl, hkeys⟩
      · obtain ⟨c, hc, -⟩ := Component.exists_generate_strict_of_not_nodup (o := o) hkeys
        refine iff_of_false ?_ ?_
        · rw [hc]
          rintro ⟨code, ⟨⟩⟩
        · rintro ⟨r, ⟨⟩, hr⟩
          exact hkeys hr
    · rintro o e ⟨⟩
    · rintro o r ⟨⟩ hkeys
      exact Component.exists_generate_strict_of_not_nodup hkeys

end Description

end Formwork
