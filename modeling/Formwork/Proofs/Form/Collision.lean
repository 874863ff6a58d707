import Formwork.Generate

/-!
# Forms with a repeated key

A strict component refuses a form in which two fields share a state key. The scan that looks for
them keeps the labels it has passed by their keys.

The invariant: the fields passed so far have distinct keys. So the field at which the scan stops is
the first that repeats a key, and exactly one field in front of it has that key.

* `Form.RepeatsAt` — the field at a position has the key of an earlier one.
* `Form.collisionAfter_spec` — what the scan finds behind the fields it has passed.
* `Form.two_le_count_of_collision?` — the key of a collision is there twice.
* `Component.generate_strict` — what strictness refuses, and that it changes nothing else.
-/

namespace Formwork

namespace Form

/-- The field at a position has the key of an earlier field. -/
def RepeatsAt (fs : List Field) (j : Nat) : Prop :=
  ∃ i < j, ∃ f g, fs[i]? = some f ∧ fs[j]? = some g ∧ f.stateKey = g.stateKey

/-! ## The scan -/

/-- What the scan remembers of the fields it has passed. -/
def passed (fs : List Field) : List (String × String) :=
  (fs.map fun f => (f.stateKey, f.label)).reverse

theorem passed_concat (fs : List Field) (f : Field) :
    passed (fs ++ [f]) = (f.stateKey, f.label) :: passed fs := by
  simp [passed]

theorem exists_of_lookup_passed {fs : List Field} {key label : String}
    (h : (passed fs).lookup key = some label) :
    ∃ f ∈ fs, f.stateKey = key ∧ f.label = label := by
  obtain ⟨l₁, l₂, hl, -⟩ := List.lookup_eq_some_iff.mp h
  have hmem : (key, label) ∈ passed fs := by simp [hl]
  simpa [passed] using hmem

theorem notMem_of_lookup_passed {fs : List Field} {key : String}
    (h : (passed fs).lookup key = none) : key ∉ fs.map Field.stateKey := by
  rw [List.lookup_eq_none_iff] at h
  intro hmem
  obtain ⟨f, hf, rfl⟩ := List.mem_map.mp hmem
  have := h (f.stateKey, f.label) (by simpa [passed] using ⟨f, hf, rfl, rfl⟩)
  simp at this

/-- **What the scan finds** behind fields with distinct keys: nothing if all keys are distinct, and
otherwise the first field that repeats a key, with the one that has it. -/
theorem collisionAfter_spec (done fs : List Field) (h : (done.map Field.stateKey).Nodup) :
    (collisionAfter (passed done) (fs.map Binding.ofField) = none ∧
      ((done ++ fs).map Field.stateKey).Nodup) ∨
    ∃ before second after, done ++ fs = before ++ second :: after ∧
      (before.map Field.stateKey).Nodup ∧
      ∃ first ∈ before, first.stateKey = second.stateKey ∧
        collisionAfter (passed done) (fs.map Binding.ofField) =
          some ⟨second.stateKey, first.label, second.label⟩ := by
  induction fs generalizing done with
  | nil => exact .inl ⟨rfl, by simpa using h⟩
  | cons f fs ih =>
    rw [List.map_cons, collisionAfter]
    cases hl : (passed done).lookup (Binding.ofField f).key with
    | some label =>
      obtain ⟨first, hmem, hkey, rfl⟩ := exists_of_lookup_passed hl
      exact .inr ⟨done, f, fs, rfl, h, first, hmem, hkey, rfl⟩
    | none =>
      -- the field joins those that were passed, and their keys stay distinct
      have hnew : f.stateKey ∉ done.map Field.stateKey := notMem_of_lookup_passed hl
      have hdone : ((done ++ [f]).map Field.stateKey).Nodup := by
        simpa [List.nodup_append, h] using hnew
      have := ih (done ++ [f]) hdone
      rw [passed_concat, List.append_assoc, List.singleton_append] at this
      exact this

/-! ## Positions -/

/-- Where keys are distinct, each key has one position. -/
theorem position_inj_of_nodup {fs : List Field} (h : (fs.map Field.stateKey).Nodup) {i j : Nat}
    {f g : Field} (hf : fs[i]? = some f) (hg : fs[j]? = some g) (hkey : f.stateKey = g.stateKey) :
    i = j := by
  have hi : (fs.map Field.stateKey)[i]? = some g.stateKey := by simp [hf, hkey]
  have hj : (fs.map Field.stateKey)[j]? = some g.stateKey := by simp [hg]
  have hlt : i < (fs.map Field.stateKey).length := (List.getElem?_eq_some_iff.mp hi).1
  exact (List.getElem?_inj hlt h).mp (hi.trans hj.symm)

/-- Where keys are distinct, no field repeats one. -/
theorem not_repeatsAt_of_nodup {fs : List Field} {j : Nat}
    (h : ((fs.take (j + 1)).map Field.stateKey).Nodup) : ¬ RepeatsAt fs j := by
  rintro ⟨i, hij, f, g, hf, hg, hkey⟩
  have hi : (fs.take (j + 1))[i]? = some f := by simp [hf, show i < j + 1 by omega]
  have hj : (fs.take (j + 1))[j]? = some g := by simp [hg]
  exact absurd (position_inj_of_nodup h hi hj hkey) (Nat.ne_of_lt hij)

theorem collision?_eq (fs : List Field) :
    (ofFields fs).collision? = collisionAfter (passed []) (fs.map Binding.ofField) := rfl

theorem collision?_eq_none_iff {fs : List Field} :
    (ofFields fs).collision? = none ↔ (fs.map Field.stateKey).Nodup := by
  rw [collision?_eq]
  rcases collisionAfter_spec [] fs List.nodup_nil with
    ⟨hnone, hnodup⟩ | ⟨before, second, after, hfs, -, first, hmem, hkey, hsome⟩
  · exact ⟨fun _ => hnodup, fun _ => hnone⟩
  · rw [List.nil_append] at hfs
    subst hfs
    constructor
    · intro h
      rw [hsome] at h
      cases h
    · intro h
      rw [List.map_append, List.nodup_append] at h
      exact absurd rfl (h.2.2 _ (List.mem_map_of_mem hmem) _ (by simp [hkey]))

/-- Where keys are not distinct, the scan stops at the first field that repeats one. -/
theorem exists_collision? {fs : List Field} (h : ¬ (fs.map Field.stateKey).Nodup) :
    ∃ i j f g, i < j ∧ fs[i]? = some f ∧ fs[j]? = some g ∧ f.stateKey = g.stateKey ∧
      (∀ k < j, ¬ RepeatsAt fs k) ∧
      (∀ k < j, ∀ e, fs[k]? = some e → e.stateKey = g.stateKey → k = i) ∧
      (ofFields fs).collision? = some ⟨g.stateKey, f.label, g.label⟩ := by
  rw [collision?_eq]
  rcases collisionAfter_spec [] fs List.nodup_nil with
    ⟨-, hnodup⟩ | ⟨before, second, after, hfs, hbefore, first, hmem, hkey, hsome⟩
  · exact absurd hnodup h
  rw [List.nil_append] at hfs
  subst hfs
  obtain ⟨i, hi, hfirst⟩ := List.getElem_of_mem hmem
  have hget : ∀ k < before.length, (before ++ second :: after)[k]? = before[k]? :=
    fun k hk => List.getElem?_append_left hk
  refine ⟨i, before.length, first, second, hi, ?_, by simp, hkey, ?_, ?_, hsome⟩
  · rw [hget i hi, List.getElem?_eq_getElem hi, hfirst]
  · intro k hk
    refine not_repeatsAt_of_nodup (List.Nodup.sublist ?_ hbefore)
    rw [List.take_append_of_le_length hk]
    exact (List.take_sublist _ _).map _
  · intro k hk e he hek
    rw [hget k hk] at he
    have hi' : before[i]? = some first := by rw [List.getElem?_eq_getElem hi, hfirst]
    exact position_inj_of_nodup hbefore he hi' (hek.trans hkey.symm)

/-- The key of a collision is there twice. -/
theorem two_le_count_of_collision? {fs : List Field} {c : Collision}
    (h : (ofFields fs).collision? = some c) : 2 ≤ (fs.map Field.stateKey).count c.key := by
  rw [collision?_eq] at h
  rcases collisionAfter_spec [] fs List.nodup_nil with
    ⟨hnone, -⟩ | ⟨before, second, after, hfs, -, first, hmem, hkey, hsome⟩
  · rw [hnone] at h
    cases h
  · rw [hsome] at h
    cases h
    rw [List.nil_append] at hfs
    have hbefore : 0 < (before.map Field.stateKey).count second.stateKey :=
      List.count_pos_iff.mpr (hkey ▸ List.mem_map_of_mem hmem)
    show 2 ≤ (fs.map Field.stateKey).count second.stateKey
    rw [hfs, List.map_append, List.map_cons, List.count_append, List.count_cons_self]
    omega

-- of the labels that share a key, those that are met again first
example : (ofFields [⟨"Name", .text, true⟩, ⟨"Mail", .email, true⟩, ⟨"MAIL", .email, false⟩,
    ⟨"name", .text, true⟩]).collision? = some ⟨"mail", "Mail", "MAIL"⟩ := by decide

end Form

namespace Component

theorem generate_lenient (o : Options) (fs : List Field) :
    generate { o with strictKeys := false } fs = .ok (render o fs) := rfl

theorem generate_strict_eq (o : Options) (fs : List Field) :
    generate { o with strictKeys := true } fs =
      match (Form.ofFields fs).collision? with
      | some c => .error (.collision c)
      | none => .ok (render o fs) := rfl

theorem generate_strict_of_nodup {o : Options} {fs : List Field}
    (h : (fs.map Field.stateKey).Nodup) :
    generate { o with strictKeys := true } fs = .ok (render o fs) := by
  rw [generate_strict_eq, Form.collision?_eq_none_iff.mpr h]

theorem exists_generate_strict_of_not_nodup {o : Options} {fs : List Field}
    (h : ¬ (fs.map Field.stateKey).Nodup) : ∃ c : Collision,
      generate { o with strictKeys := true } fs = .error (.collision c) ∧
        2 ≤ (fs.map Field.stateKey).count c.key := by
  rw [generate_strict_eq]
  cases hc : (Form.ofFields fs).collision? with
  | none => exact absurd (Form.collision?_eq_none_iff.mp hc) h
  | some c => exact ⟨c, rfl, Form.two_le_count_of_collision? hc⟩

/-- **What strictness refuses.** A strict component has code exactly if the state keys are distinct,
and then it is that of the component that is not strict. Otherwise the error names the first field
that repeats a key, that key, and the one field in front with the same key. Without strictness there
always is code. -/
theorem generate_strict (o : Options) (fs : List Field) :
    ((∃ code, generate { o with strictKeys := true } fs = .ok code) ↔
      (fs.map Field.stateKey).Nodup) ∧
    (∀ code, generate { o with strictKeys := true } fs = .ok code →
      generate { o with strictKeys := false } fs = .ok code) ∧
    (¬ (fs.map Field.stateKey).Nodup →
      ∃ i j f g, i < j ∧ fs[i]? = some f ∧ fs[j]? = some g ∧ f.stateKey = g.stateKey ∧
        (∀ k < j, ¬ Form.RepeatsAt fs k) ∧
        (∀ k < j, ∀ e, fs[k]? = some e → e.stateKey = g.stateKey → k = i) ∧
        generate { o with strictKeys := true } fs =
          .error (.collision ⟨g.stateKey, f.label, g.label⟩)) ∧
    (∃ code, generate { o with strictKeys := false } fs = .ok code) := by
  rw [generate_lenient, generate_strict_eq]
  refine ⟨?_, ?_, ?_, ⟨_, rfl⟩⟩
  · rw [← Form.collision?_eq_none_iff]
    cases (Form.ofFields fs).collision? <;> simp
  · intro code h
    cases hc : (Form.ofFields fs).collision? with
    | some c => rw [hc] at h; cases h
    | none => rwa [hc] at h
  · intro h
    obtain ⟨i, j, f, g, hij, hi, hj, hkey, hleast, hunique, hc⟩ := Form.exists_collision? h
    exact ⟨i, j, f, g, hij, hi, hj, hkey, hleast, hunique, by rw [hc]⟩

end Component

end Formwork
