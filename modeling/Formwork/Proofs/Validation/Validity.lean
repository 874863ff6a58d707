import Formwork.Form
import Formwork.Proofs.Validation.Outcome

/-!
# When a form is valid

A form is validated by a plan, and validity is read from the messages that the plan leaves. Two
things could go wrong on the way from the fields to the messages: a later rule could erase what an
earlier one said, and the keys of the rules could miss the keys of the slots. Neither happens, even
if fields share a key: no rule has an empty message, and rules and slots take their key from
`Field.stateKey`.

* `Field.Admits` — what a field asks of its value.
* `Form.isValid_outcome_iff` — a form is valid when each field admits its value.
* `Form.isValid_tickBox_iff` — a mandatory box asks for some value and not for the tick.
-/

namespace Formwork

/-- The value is one that the field allows: it is there if the field is mandatory, and if it is
there it satisfies the constraint of the field's kind. -/
structure Field.Admits (f : Field) (value : String) : Prop where
  present : f.required = true → value ≠ ""
  wellFormed : value ≠ "" → ∀ c, Constraint.ofKind? f.kind = some c → c.accepts value = true

/-! ## The rules of a field -/

theorem append_ne_empty (s : String) {t : String} (h : t ≠ "") : s ++ t ≠ "" :=
  fun he => h (String.append_eq_empty_iff.mp he).2

theorem Constraint.message_ne_empty (c : Constraint) : c.message ≠ "" := by
  cases c with
  | email => decide
  | url => decide
  | tel => decide
  | minLength n => exact append_ne_empty _ (by decide)

namespace Rule

theorem mem_ofField_iff {f : Field} {r : Rule} :
    r ∈ ofField f ↔ (f.required = true ∧ r = presence f) ∨
      ∃ c, Constraint.ofKind? f.kind = some c ∧ r = format f c := by
  rw [ofField, List.mem_append]
  refine or_congr ?_ ?_
  · cases f.required <;> simp
  · cases Constraint.ofKind? f.kind <;> simp

theorem key_of_mem_ofField {f : Field} {r : Rule} (h : r ∈ ofField f) : r.key = f.stateKey := by
  rcases mem_ofField_iff.mp h with ⟨-, rfl⟩ | ⟨c, -, rfl⟩ <;> rfl

/-- Every rule of a field has something to say. -/
theorem message_ne_empty_of_mem_ofField {f : Field} {r : Rule} (h : r ∈ ofField f) :
    r.message ≠ "" := by
  rcases mem_ofField_iff.mp h with ⟨-, rfl⟩ | ⟨c, -, rfl⟩
  · exact append_ne_empty f.label (by decide)
  · exact c.message_ne_empty

theorem fails_presence_iff {f : Field} {value : String} :
    (presence f).fails value = true ↔ value = "" := by
  simp [presence, fails]

theorem fails_format_iff {f : Field} {c : Constraint} {value : String} :
    (format f c).fails value = true ↔ value ≠ "" ∧ c.accepts value = false := by
  simp [format, fails]

/-- No rule of a field fails on the values that it allows, and on those only. -/
theorem forall_ofField_iff_admits {f : Field} {value : String} :
    (∀ r ∈ ofField f, r.fails value = false) ↔ f.Admits value := by
  constructor
  · intro h
    constructor
    case present =>
      rintro hreq rfl
      have hrule := h (presence f) (mem_ofField_iff.mpr (.inl ⟨hreq, rfl⟩))
      rw [fails_presence_iff.mpr rfl] at hrule
      cases hrule
    case wellFormed =>
      intro hvalue c hc
      have hrule := h (format f c) (mem_ofField_iff.mpr (.inr ⟨c, hc, rfl⟩))
      cases hacc : c.accepts value with
      | true => rfl
      | false =>
        rw [fails_format_iff.mpr ⟨hvalue, hacc⟩] at hrule
        cases hrule
  · intro h r hr
    rw [Bool.eq_false_iff]
    intro hfails
    rcases mem_ofField_iff.mp hr with ⟨hreq, rfl⟩ | ⟨c, hc, rfl⟩
    · exact h.present hreq (fails_presence_iff.mp hfails)
    · obtain ⟨hvalue, hacc⟩ := fails_format_iff.mp hfails
      rw [h.wellFormed hvalue c hc] at hacc
      cases hacc

end Rule

/-! ## Plans without empty messages -/

namespace Plan

/-- When every rule has something to say, no failure is masked. -/
theorem isValid_run_iff_forall_rules {p : Plan} (h : ∀ r ∈ p.rules, r.message ≠ "")
    {keys : List String} {values : Record} :
    (p.run keys values).isValid = true ↔ ∀ r ∈ p.rules, r.fails (values.text r.key) = false := by
  rw [isValid_run_iff]
  constructor
  · intro hlast r hr
    rw [Bool.eq_false_iff]
    intro hfails
    -- `r` may be overwritten, but only by a rule that fails as well
    obtain ⟨last, heq⟩ := exists_lastFailure (mem_failures_iff.mpr ⟨hr, hfails⟩)
    have hmem := (mem_of_lastFailure heq).1
    exact h last (mem_failures_iff.mp hmem).1 (hlast r.key last heq)
  · intro hpass key r heq
    have hmem := mem_failures_iff.mp (mem_of_lastFailure heq).1
    rw [hpass r hmem.1] at hmem
    cases hmem.2

/-- A message that is not empty comes from a rule on its key that fails. -/
theorem exists_failure_of_mem_entries {p : Plan} {keys : List String} {values : Record}
    {key message : String} (h : (key, message) ∈ (p.run keys values).errors.entries)
    (hm : message ≠ "") :
    ∃ r ∈ p.rules, r.key = key ∧ r.message = message ∧ r.fails (values.text key) = true := by
  rw [entries_run] at h
  obtain ⟨k, -, hk⟩ := List.mem_map.mp h
  obtain ⟨rfl, hreport⟩ := Prod.mk.inj hk
  cases hlast : p.lastFailure values k with
  | none =>
    rw [report_of_lastFailure_none hlast] at hreport
    exact absurd hreport.symm hm
  | some r =>
    obtain ⟨hmem, rfl⟩ := mem_of_lastFailure hlast
    rw [report_of_lastFailure hlast] at hreport
    obtain ⟨hrule, hfails⟩ := mem_failures_iff.mp hmem
    exact ⟨r, hrule, rfl, hreport, hfails⟩

/-- Rules on the given keys add no slot. -/
theorem slots_of_forall_mem {p : Plan} {keys : List String} (h : ∀ r ∈ p.rules, r.key ∈ keys)
    (values : Record) : p.slots keys values = keys.eraseDups := by
  have hnew : ((p.failures values).map (·.key)).filter (· ∉ keys) = [] := by
    rw [List.filter_eq_nil_iff]
    intro key hkey
    obtain ⟨r, hr, rfl⟩ := List.mem_map.mp hkey
    simpa using h r (mem_failures_iff.mp hr).1
  rw [slots, hnew, List.eraseDups_nil, List.append_nil]

theorem mem_ofFields_iff {fs : List Field} {r : Rule} :
    r ∈ (ofFields fs).rules ↔ ∃ f ∈ fs, r ∈ Rule.ofField f := List.mem_flatMap

end Plan

/-! ## The form -/

namespace Form

/-- The messages of a form for some values. -/
def outcome (f : Form) (values : Record) : Outcome := f.validation.run f.keys values

theorem keys_ofFields (fs : List Field) : (ofFields fs).keys = fs.map Field.stateKey := by
  simp [ofFields, keys, Binding.ofField, Function.comp_def]

/-- Where keys are distinct, no field but `f` itself has the key of `f`. -/
theorem exists_append_of_mem {fs : List Field} (hkeys : (fs.map Field.stateKey).Nodup)
    {f : Field} (hf : f ∈ fs) : ∃ before after, fs = before ++ f :: after ∧
      f.stateKey ∉ before.map Field.stateKey ∧ f.stateKey ∉ after.map Field.stateKey := by
  obtain ⟨before, after, rfl⟩ := List.append_of_mem hf
  rw [List.map_append, List.map_cons, List.nodup_append, List.nodup_cons] at hkeys
  obtain ⟨-, ⟨hafter, -⟩, hbefore⟩ := hkeys
  exact ⟨before, after, rfl, fun h => hbefore _ h _ List.mem_cons_self rfl, hafter⟩

theorem keys_outcome (fs : List Field) (values : Record) :
    ((ofFields fs).outcome values).errors.keys = (fs.map Field.stateKey).eraseDups := by
  rw [outcome, Plan.keys_run, keys_ofFields]
  refine Plan.slots_of_forall_mem (fun r hr => ?_) values
  obtain ⟨f, hf, hrf⟩ := Plan.mem_ofFields_iff.mp hr
  rw [Rule.key_of_mem_ofField hrf]
  exact List.mem_map_of_mem hf

/-- **A form is valid when each field admits the value under its key.** -/
theorem isValid_outcome_iff {fs : List Field} {values : Record} :
    ((ofFields fs).outcome values).isValid = true ↔
      ∀ f ∈ fs, f.Admits (values.text f.stateKey) := by
  have hmessages : ∀ r ∈ (Plan.ofFields fs).rules, r.message ≠ "" := by
    intro r hr
    obtain ⟨f, -, hrf⟩ := Plan.mem_ofFields_iff.mp hr
    exact Rule.message_ne_empty_of_mem_ofField hrf
  rw [outcome, show (ofFields fs).validation = Plan.ofFields fs from rfl,
    Plan.isValid_run_iff_forall_rules hmessages]
  constructor
  · intro h f hf
    refine Rule.forall_ofField_iff_admits.mp fun r hr => ?_
    rw [← Rule.key_of_mem_ofField hr]
    exact h r (Plan.mem_ofFields_iff.mpr ⟨f, hf, hr⟩)
  · intro h r hr
    obtain ⟨f, hf, hrf⟩ := Plan.mem_ofFields_iff.mp hr
    rw [Rule.key_of_mem_ofField hrf]
    exact Rule.forall_ofField_iff_admits.mpr (h f hf) r hrf

/-- **What the messages of a form say about its fields**, whether or not keys collide: the slots are
the distinct keys of the fields, all of them are empty exactly when every field has what it asks for,
and a message that is there is that of a rule on its key that fails. -/
theorem outcome_reflects_fields (fs : List Field) (values : Record) :
    ((ofFields fs).outcome values).errors.keys = (fs.map Field.stateKey).eraseDups ∧
      (((ofFields fs).outcome values).isValid = true ↔
        ∀ f ∈ fs, (f.required = true → values.text f.stateKey ≠ "") ∧
          (values.text f.stateKey ≠ "" → ∀ c, Constraint.ofKind? f.kind = some c →
            c.accepts (values.text f.stateKey) = true)) ∧
      (∀ key message, (key, message) ∈ ((ofFields fs).outcome values).errors.entries →
        message ≠ "" → ∃ r ∈ (ofFields fs).validation.rules,
          r.key = key ∧ r.message = message ∧ r.fails (values.text key) = true) := by
  refine ⟨keys_outcome fs values, ?_, fun key message => Plan.exists_failure_of_mem_entries⟩
  rw [isValid_outcome_iff]
  exact forall₂_congr fun f _ => ⟨fun h => ⟨h.present, h.wellFormed⟩, fun h => ⟨h.1, h.2⟩⟩

/-! ## Boxes to tick -/

theorem admits_tickBox_iff {label value : String} :
    Field.Admits ⟨label, .checkbox, true⟩ value ↔ value ≠ "" := by
  constructor
  · exact fun h => h.present rfl
  · exact fun h => ⟨fun _ => h, fun _ c hc => by cases hc⟩

/-- **A mandatory box asks for some value under its key and nothing more**: whether that value is the
one of a ticked box makes no difference. -/
theorem isValid_tickBox_iff (before after : List Field) (label : String) (values : Record) :
    ((ofFields (before ++ ⟨label, .checkbox, true⟩ :: after)).outcome values).isValid = true ↔
      values.text (Text.lower label) ≠ "" ∧
        ((ofFields (before ++ after)).outcome values).isValid = true := by
  simp only [isValid_outcome_iff, List.forall_mem_append, List.forall_mem_cons,
    admits_tickBox_iff]
  exact and_left_comm

/-- A mandatory box that was ticked and unticked again holds `false`, and the form is valid. -/
theorem unticked_box_may_be_valid :
    ¬ ∀ (fs : List Field) (box : Field) (values : Record), box ∈ fs → box.required = true →
      box.kind = .checkbox → values.text box.stateKey ≠ tickedValue →
      ((ofFields fs).outcome values).isValid = false := by
  intro h
  have hvalid : ((ofFields [⟨"Accept", .checkbox, true⟩]).outcome
      (.ofList [("accept", "false")])).isValid = true := by decide
  have hbox := h [⟨"Accept", .checkbox, true⟩] ⟨"Accept", .checkbox, true⟩
    (.ofList [("accept", "false")]) List.mem_cons_self rfl rfl (by decide)
  rw [hvalid] at hbox
  cases hbox

end Form

end Formwork
