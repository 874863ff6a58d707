import Formwork.Panel
import Mathlib.Algebra.Ring.Parity

/-!
# Runs of a panel

What a panel holds after any sequence of actions, said without the panel: the template that was last
selected, the rows of a plain list that goes through the same edits, and a preview that is there
after an odd number of toggles.

Each of the three parts has a lemma about one action, and the run follows by induction on the
actions.

* `RowStep`, `RowRun` — the edits of a plain list.
* `lastSelected` — the key of the last selection that found its template.
* `Refused` — the actions that fail; they change nothing (`perform_of_refused`).
-/

namespace Formwork.Panel

open Template (find?_key_of_mem find?_eq_none_iff mem_gallery_of_find?)

/-! ## The rows as a plain list -/

/-- What an action answers to a list of rows, and the list it leaves. -/
inductive RowStep (rows : List FieldDraft) :
    Action → Except PanelError Answer → List FieldDraft → Prop
  | select {t : Template} :
      t ∈ Template.gallery → RowStep rows (.select t.key) (.ok (.flag true)) t.fields
  | selectUnknown {key : String} :
      key ∉ Template.gallery.map (·.key) → RowStep rows (.select key) (.ok (.flag false)) rows
  | add : RowStep rows .add (.ok (.index rows.length)) (rows ++ [newRow])
  | remove {before after : List FieldDraft} {r : FieldDraft} {i : Nat} :
      rows = before ++ r :: after → i = before.length →
      RowStep rows (.remove i) (.ok (.row r)) (before ++ after)
  | removeOutside {i : Nat} :
      rows.length ≤ i → RowStep rows (.remove i) (.error (.rowOutOfRange i)) rows
  | update {before after : List FieldDraft} {r new : FieldDraft} {i : Nat} :
      rows = before ++ r :: after → i = before.length →
      RowStep rows (.update i new) (.ok .done) (before ++ new :: after)
  | updateOutside {i : Nat} {new : FieldDraft} :
      rows.length ≤ i → RowStep rows (.update i new) (.error (.rowOutOfRange i)) rows
  | clear : RowStep rows .clear (.ok .done) []
  | toggle {shown : Bool} : RowStep rows .toggle (.ok (.flag shown)) rows
  | generate {t : Target} {o : Component.Options} {answer : Except PanelError Answer} :
      RowStep rows (.generate t o) answer rows

/-- The list of rows that some actions leave. -/
inductive RowRun : List FieldDraft → List Action → List FieldDraft → Prop
  | nil {rows : List FieldDraft} : RowRun rows [] rows
  | cons {rows rows' rows'' : List FieldDraft} {a : Action} {as : List Action}
      {answer : Except PanelError Answer} :
      RowStep rows a answer rows' → RowRun rows' as rows'' → RowRun rows (a :: as) rows''

/-! ## The template that was selected -/

/-- The key of a template that an action selects. -/
def selectedKey? : Action → Option String
  | .select key => if key ∈ Template.gallery.map (·.key) then some key else none
  | _ => none

/-- The key of the template that was last selected, or that of the template a panel opens with. -/
def lastSelected (as : List Action) : String :=
  (as.filterMap selectedKey?).getLast?.getD initialTemplate

/-! ## Failure -/

/-- The answer says that the action failed. A selection fails without an error. -/
def Fails : Action → Except PanelError Answer → Prop
  | .select _, .ok (.flag found) => found = false
  | _, .error _ => True
  | _, _ => False

/-- What a panel has to refuse: a template that is not there, a row that is not there, and code that
cannot be generated. -/
def Refused (p : Panel) : Action → Prop
  | .select key => key ∉ Template.gallery.map (·.key)
  | .remove i => p.rows.length ≤ i
  | .update i _ => p.rows.length ≤ i
  | .generate t o => ∃ e, p.generate t o = .error e
  | _ => False

/-! ## One action -/

theorem exists_append_of_lt {rows : List FieldDraft} {i : Nat} (h : i < rows.length) :
    ∃ before r after, rows = before ++ r :: after ∧ i = before.length :=
  ⟨rows.take i, rows[i], rows.drop (i + 1), by simp, by simp; omega⟩

/-- An action edits the rows of a panel like a plain list, and answers the same. -/
theorem rowStep_perform (p : Panel) (a : Action) :
    RowStep p.rows a (p.perform a).2 (p.perform a).1.rows := by
  cases a with
  | select key =>
    cases hkey : Template.find? key with
    | none =>
      simp only [perform, hkey]
      exact .selectUnknown (find?_eq_none_iff.mp hkey)
    | some t =>
      obtain ⟨ht, rfl⟩ := mem_gallery_of_find? hkey
      simp only [perform, hkey]
      exact .select ht
  | add => exact .add
  | remove i =>
    by_cases hi : i < p.rows.length
    · obtain ⟨before, r, after, hrows, rfl⟩ := exists_append_of_lt hi
      have hget : p.rows[before.length]? = some r := by simp [hrows]
      have herase : p.rows.eraseIdx before.length = before ++ after := by
        simp [hrows, List.eraseIdx_append_of_length_le]
      simp only [perform, hget, herase]
      exact .remove hrows rfl
    · rw [Nat.not_lt] at hi
      simp only [perform, List.getElem?_eq_none hi]
      exact .removeOutside hi
  | update i new =>
    by_cases hi : i < p.rows.length
    · obtain ⟨before, r, after, hrows, rfl⟩ := exists_append_of_lt hi
      have hset : p.rows.set before.length new = before ++ new :: after := by simp [hrows]
      simp only [perform, if_pos hi, hset]
      exact .update hrows rfl
    · simp only [perform, if_neg hi]
      exact .updateOutside (Nat.not_lt.mp hi)
  | clear => exact .clear
  | toggle => exact .toggle
  | generate t o => exact .generate

/-- A plain list has no other way to go. -/
theorem RowStep.rows_eq {p : Panel} {a : Action} {answer : Except PanelError Answer}
    {rows : List FieldDraft} (h : RowStep p.rows a answer rows) :
    rows = (p.perform a).1.rows := by
  cases h with
  | select ht => simp only [perform, find?_key_of_mem _ ht]
  | selectUnknown hkey => simp only [perform, find?_eq_none_iff.mpr hkey]
  | add => rfl
  | remove hrows hi =>
    subst hi
    simp [perform, hrows, List.eraseIdx_append_of_length_le]
  | removeOutside hi => simp only [perform, List.getElem?_eq_none hi]
  | update hrows hi =>
    subst hi
    simp [perform, hrows]
  | updateOutside hi => simp only [perform, if_neg (Nat.not_lt.mpr hi)]
  | clear => rfl
  | toggle => rfl
  | generate => rfl

theorem selected_perform (p : Panel) (a : Action) :
    (p.perform a).1.selected = (selectedKey? a).getD p.selected := by
  cases a with
  | select key =>
    cases hkey : Template.find? key with
    | none => simp only [perform, selectedKey?, hkey, if_neg (find?_eq_none_iff.mp hkey),
        Option.getD_none]
    | some t =>
      obtain ⟨ht, rfl⟩ := mem_gallery_of_find? hkey
      simp only [perform, selectedKey?, hkey, if_pos (List.mem_map_of_mem ht), Option.getD_some]
  | add => rfl
  | remove i =>
    simp only [perform]
    split <;> rfl
  | update i new =>
    simp only [perform]
    split <;> rfl
  | clear => rfl
  | toggle => rfl
  | generate t o => rfl

theorem previewShown_perform (p : Panel) (a : Action) :
    (p.perform a).1.previewShown = if a = .toggle then !p.previewShown else p.previewShown := by
  cases a with
  | select key =>
    simp only [perform]
    split <;> rfl
  | add => rfl
  | remove i =>
    simp only [perform]
    split <;> rfl
  | update i new =>
    simp only [perform]
    split <;> rfl
  | clear => rfl
  | toggle => rfl
  | generate t o => rfl

/-- The actions that are answered by a failure are those that have to be refused. -/
theorem fails_perform_iff {p : Panel} {a : Action} : Fails a (p.perform a).2 ↔ Refused p a := by
  cases a with
  | select key =>
    rw [Refused, ← find?_eq_none_iff]
    cases hkey : Template.find? key <;> simp [perform, hkey, Fails]
  | add => simp [perform, Fails, Refused]
  | remove i =>
    by_cases hi : i < p.rows.length
    · simp [perform, hi, Fails, Refused]
    · simp [perform, hi, Fails, Refused, Nat.not_lt.mp hi]
  | update i new =>
    by_cases hi : i < p.rows.length <;> simp [perform, hi, Fails, Refused, Nat.not_lt.mp]
  | clear => simp [perform, Fails, Refused]
  | toggle => simp [perform, Fails, Refused]
  | generate t o =>
    cases hcode : p.generate t o <;> simp [perform, hcode, Except.map, Fails, Refused]

/-- **A refused action changes nothing.** -/
theorem perform_of_refused {p : Panel} {a : Action} (h : Refused p a) : (p.perform a).1 = p := by
  cases a with
  | select key => simp only [perform, find?_eq_none_iff.mpr h]
  | remove i => simp only [perform, List.getElem?_eq_none h]
  | update i new => simp only [perform, if_neg (Nat.not_lt.mpr h)]
  | generate t o => rfl
  | add => cases h
  | clear => cases h
  | toggle => cases h

/-! ## Runs -/

theorem run_cons (p : Panel) (a : Action) (as : List Action) :
    p.run (a :: as) = (p.perform a).1.run as := rfl

theorem rowRun_iff {p : Panel} {as : List Action} {rows : List FieldDraft} :
    RowRun p.rows as rows ↔ rows = (p.run as).rows := by
  induction as generalizing p with
  | nil =>
    constructor
    · rintro ⟨⟩
      rfl
    · rintro rfl
      exact .nil
  | cons a as ih =>
    rw [run_cons, ← ih]
    constructor
    · rintro (_ | ⟨hstep, hrun⟩)
      rwa [← hstep.rows_eq]
    · exact .cons (rowStep_perform p a)

theorem selected_run (p : Panel) (as : List Action) :
    (p.run as).selected = (as.filterMap selectedKey?).getLast?.getD p.selected := by
  induction as generalizing p with
  | nil => rfl
  | cons a as ih =>
    rw [run_cons, ih, selected_perform]
    cases hkey : selectedKey? a with
    | none => rw [List.filterMap_cons_none hkey, Option.getD_none]
    | some key =>
      rw [List.filterMap_cons_some hkey, List.getLast?_cons, Option.getD_some, Option.getD_some]

theorem previewShown_run (p : Panel) (as : List Action) :
    (p.run as).previewShown = (p.previewShown ^^ decide (Odd (as.count .toggle))) := by
  induction as generalizing p with
  | nil => simp [run]
  | cons a as ih =>
    rw [run_cons, ih, previewShown_perform]
    by_cases ha : a = .toggle
    · rw [if_pos ha, ha, List.count_cons_self, Bool.not_xor]
      by_cases h : Odd (as.count .toggle) <;> simp [h, Nat.odd_add_one]
    · rw [if_neg ha, List.count_cons_of_ne ha]

theorem lastSelected_mem (as : List Action) : lastSelected as ∈ Template.gallery.map (·.key) := by
  unfold lastSelected
  cases hkey : (as.filterMap selectedKey?).getLast? with
  | none => exact (by decide : initialTemplate ∈ Template.gallery.map (·.key))
  | some key =>
    obtain ⟨a, -, ha⟩ := List.mem_filterMap.mp (List.mem_of_getLast? hkey)
    cases a with
    | select k =>
      simp only [selectedKey?, Option.ite_none_right_eq_some, Option.some.injEq] at ha
      rw [Option.getD_some, ← ha.2]
      exact ha.1
    | _ => cases ha

/-- **What a panel holds after any actions.** The selected template is one of the gallery, namely the
one that was last selected. The rows are those of a plain list that went through the same edits.
There is a preview after an odd number of toggles, whatever else was done. And whatever is done
next, the plain list has the same answer for it, and a failure leaves the panel as it is. -/
theorem run_follows_list (as : List Action) :
    ((start.run as).selected = lastSelected as ∧
      lastSelected as ∈ Template.gallery.map (·.key)) ∧
    (∀ rows, RowRun [] as rows ↔ rows = (start.run as).rows) ∧
    (start.run as).preview? =
      (if Odd (as.count .toggle) then some (start.run as).description else none) ∧
    ∀ a, RowStep (start.run as).rows a ((start.run as).perform a).2
        ((start.run as).perform a).1.rows ∧
      (Fails a ((start.run as).perform a).2 ↔ Refused (start.run as) a) ∧
      (Fails a ((start.run as).perform a).2 → ((start.run as).perform a).1 = start.run as) := by
  refine ⟨⟨selected_run start as, lastSelected_mem as⟩, fun rows => rowRun_iff (p := start), ?_, ?_⟩
  · rw [preview?, previewShown_run]
    by_cases h : Odd (as.count .toggle) <;> simp [h, start]
  · intro a
    refine ⟨rowStep_perform _ a, fails_perform_iff, fun h => ?_⟩
    exact perform_of_refused (fails_perform_iff.mp h)

end Formwork.Panel
