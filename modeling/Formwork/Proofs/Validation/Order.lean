import Formwork.Proofs.Validation.Validity

/-!
# When the order of rules does not matter

Rules overwrite each other's messages, so of several failing rules on one key the last is reported.
In the plan of a form with distinct keys there are never several: the rules on a key are those of one
field, its presence rule fails only where there is no value, and its format rule only where there is
one. So what is reported depends neither on the order of the rules nor on which of them counts.

* `Plan.Exclusive` — of the rules on one key, no value fails two.
* `Plan.runFirst` — a run in which the first failing rule on a key is reported.

**Main statement**: `Plan.run_ignores_order`.
-/

namespace Formwork

namespace Plan

/-- Of the rules on one key, no value fails two. -/
def Exclusive (p : Plan) : Prop :=
  ∀ key value, ((p.rulesOn key).filter (·.fails value)).length ≤ 1

/-- The messages after one rule has run that leaves alone what an earlier rule has written. -/
def runRuleFirst (values errors : Record) (r : Rule) : Record :=
  if errors.text r.key = "" then runRule values errors r else errors

/-- The messages that the plan leaves if the first failing rule on a key is reported. -/
def runFirst (p : Plan) (keys : List String) (values : Record) : Outcome :=
  ⟨p.rules.foldl (runRuleFirst values) (Record.blank keys)⟩

variable {p q : Plan} {values errors : Record} {keys : List String} {key : String}

/-! ## The failures on one key -/

theorem filter_failures (p : Plan) (values : Record) (key : String) :
    (p.failures values).filter (·.key = key) =
      (p.rulesOn key).filter (·.fails (values.text key)) := by
  rw [failures, rulesOn, List.filter_filter, List.filter_filter]
  refine List.filter_congr fun r _ => ?_
  by_cases hkey : r.key = key
  · subst hkey
    simp
  · simp [hkey]

theorem eq_of_perm_of_length_le_one {α : Type} {l m : List α} (h : l.Perm m) (hm : m.length ≤ 1) :
    l = m := by
  rcases m with _ | ⟨a, _ | ⟨b, m⟩⟩
  · exact h.eq_nil
  · exact List.perm_singleton.mp h
  · simp at hm

theorem Exclusive.perm (h : p.Exclusive) (hpq : q.rules.Perm p.rules) : q.Exclusive := by
  intro key value
  have hlen := ((hpq.filter (·.key == key)).filter (·.fails value)).length_eq
  show ((q.rules.filter (·.key == key)).filter (·.fails value)).length ≤ 1
  rw [hlen]
  exact h key value

/-- Where no two rules on a key fail, all orders have the same failing rule. -/
theorem Exclusive.lastFailure_perm (h : p.Exclusive) (hpq : q.rules.Perm p.rules)
    (values : Record) (key : String) : q.lastFailure values key = p.lastFailure values key := by
  have hperm : ((q.rulesOn key).filter (·.fails (values.text key))).Perm
      ((p.rulesOn key).filter (·.fails (values.text key))) := (hpq.filter _).filter _
  rw [lastFailure, lastFailure, filter_failures, filter_failures,
    eq_of_perm_of_length_le_one hperm (h key _)]

theorem Exclusive.error?_perm (h : p.Exclusive) (hpq : q.rules.Perm p.rules)
    (keys keys' : List String) (values : Record) (key : String) :
    (q.run keys values).error? key = (p.run keys' values).error? key := by
  rw [error?_run, error?_run, report, report, h.lastFailure_perm hpq]

theorem Exclusive.isValid_perm (h : p.Exclusive) (hpq : q.rules.Perm p.rules)
    (keys keys' : List String) (values : Record) :
    (q.run keys values).isValid = (p.run keys' values).isValid := by
  rw [Bool.eq_iff_iff, isValid_run_iff, isValid_run_iff]
  simp only [h.lastFailure_perm hpq]

/-! ## The first failing rule -/

theorem Exclusive.tail {r : Rule} {rs : List Rule} (h : Exclusive ⟨r :: rs⟩) : Exclusive ⟨rs⟩ := by
  intro key value
  have hsub : ((rs.filter (·.key == key)).filter (·.fails value)).Sublist
      (((r :: rs).filter (·.key == key)).filter (·.fails value)) :=
    ((List.sublist_cons_self r rs).filter _).filter _
  exact Nat.le_trans hsub.length_le (h key value)

/-- Behind a rule that fails, no other rule on its key does. -/
theorem Exclusive.key_ne {r s : Rule} {rs : List Rule} (h : Exclusive ⟨r :: rs⟩)
    (hr : r.fails (values.text r.key) = true) (hs : s ∈ rs)
    (hfails : s.fails (values.text s.key) = true) : s.key ≠ r.key := by
  intro hkey
  have hone := h r.key (values.text r.key)
  have hmem : s ∈ (rs.filter (·.key == r.key)).filter (·.fails (values.text r.key)) := by
    rw [hkey] at hfails
    simp [hs, hkey, hfails]
  have hpos := List.length_pos_of_mem hmem
  simp only [rulesOn, List.filter_cons, beq_self_eq_true, if_true, hr, List.length_cons] at hone
  omega

theorem runRule_of_passes {r : Rule} (h : ¬ r.fails (values.text r.key) = true) :
    runRule values errors r = errors := if_neg h

/-- While the rules that still fail find their slots free, the first failure is the last. -/
theorem foldl_runRuleFirst {rs : List Rule} (hone : Exclusive ⟨rs⟩)
    (hfree : ∀ r ∈ rs, r.fails (values.text r.key) = true → errors.text r.key = "") :
    rs.foldl (runRuleFirst values) errors = rs.foldl (runRule values) errors := by
  induction rs generalizing errors with
  | nil => rfl
  | cons r rs ih =>
    have hrest : ∀ s ∈ rs, s.fails (values.text s.key) = true → errors.text s.key = "" :=
      fun s hs => hfree s (List.mem_cons_of_mem r hs)
    rw [List.foldl_cons, List.foldl_cons, runRuleFirst]
    by_cases hr : r.fails (values.text r.key) = true
    · rw [if_pos (hfree r List.mem_cons_self hr)]
      refine ih hone.tail fun s hs hfails => ?_
      -- `r` writes, but not where a later rule will
      rw [runRule, if_pos hr, Record.text_set, if_neg (hone.key_ne hr hs hfails)]
      exact hrest s hs hfails
    · rw [runRule_of_passes hr, ite_self]
      exact ih hone.tail hrest

theorem Exclusive.runFirst_eq (h : p.Exclusive) (keys : List String) (values : Record) :
    p.runFirst keys values = p.run keys values := by
  rw [runFirst, run, foldl_runRuleFirst h fun r _ _ => text_blank keys r.key]

/-! ## Forms with distinct keys -/

theorem rulesOn_ofFields_append (fs gs : List Field) (key : String) :
    (ofFields (fs ++ gs)).rulesOn key = (ofFields fs).rulesOn key ++ (ofFields gs).rulesOn key := by
  simp [ofFields, rulesOn]

theorem rulesOn_ofFields_eq_nil {fs : List Field} (h : key ∉ fs.map Field.stateKey) :
    (ofFields fs).rulesOn key = [] := by
  rw [rulesOn, List.filter_eq_nil_iff]
  intro r hr hkey
  obtain ⟨f, hf, hrf⟩ := mem_ofFields_iff.mp hr
  rw [Rule.key_of_mem_ofField hrf, beq_iff_eq] at hkey
  exact h (List.mem_map.mpr ⟨f, hf, hkey⟩)

theorem rulesOn_ofFields_singleton (f : Field) :
    (ofFields [f]).rulesOn f.stateKey = Rule.ofField f := by
  have hrules : (ofFields [f]).rules = Rule.ofField f := by
    rw [ofFields, List.flatMap_cons, List.flatMap_nil, List.append_nil]
  rw [rulesOn, hrules, List.filter_eq_self]
  intro r hr
  rw [Rule.key_of_mem_ofField hr, beq_self_eq_true]

/-- Fields with distinct keys share no rules. -/
theorem rulesOn_ofFields_of_mem {fs : List Field} (hkeys : (fs.map Field.stateKey).Nodup)
    {f : Field} (hf : f ∈ fs) : (ofFields fs).rulesOn f.stateKey = Rule.ofField f := by
  obtain ⟨before, after, rfl, hbefore, hafter⟩ := Form.exists_append_of_mem hkeys hf
  rw [rulesOn_ofFields_append, ← List.singleton_append, rulesOn_ofFields_append,
    rulesOn_ofFields_eq_nil hbefore, rulesOn_ofFields_eq_nil hafter, rulesOn_ofFields_singleton,
    List.nil_append, List.append_nil]

/-- The presence rule and the format rule of a field do not fail on the same value. -/
theorem length_filter_fails_ofField (f : Field) (value : String) :
    ((Rule.ofField f).filter (·.fails value)).length ≤ 1 := by
  rw [Rule.ofField, List.filter_append]
  by_cases hvalue : value = ""
  · have hformat : ((Constraint.ofKind? f.kind).map (Rule.format f)).toList.filter (·.fails value) =
        [] := by
      rw [List.filter_eq_nil_iff]
      intro r hr hfails
      obtain ⟨c, -, rfl⟩ := Option.map_eq_some_iff.mp (Option.mem_toList.mp hr)
      exact (Rule.fails_format_iff.mp hfails).1 hvalue
    rw [hformat, List.append_nil]
    refine Nat.le_trans (List.length_filter_le _ _) ?_
    split <;> simp
  · have hpresence : (if f.required then [Rule.presence f] else []).filter (·.fails value) = [] := by
      rw [List.filter_eq_nil_iff]
      intro r hr hfails
      obtain ⟨-, rfl⟩ : f.required = true ∧ r = Rule.presence f := by simpa using hr
      exact hvalue (Rule.fails_presence_iff.mp hfails)
    rw [hpresence, List.nil_append]
    refine Nat.le_trans (List.length_filter_le _ _) ?_
    cases Constraint.ofKind? f.kind <;> simp

theorem exclusive_ofFields {fs : List Field} (hkeys : (fs.map Field.stateKey).Nodup) :
    (ofFields fs).Exclusive := by
  intro key value
  by_cases hkey : key ∈ fs.map Field.stateKey
  · obtain ⟨f, hf, rfl⟩ := List.mem_map.mp hkey
    rw [rulesOn_ofFields_of_mem hkeys hf]
    exact length_filter_fails_ofField f value
  · rw [rulesOn_ofFields_eq_nil hkey]
    exact Nat.zero_le 1

theorem rules_ofFields_perm {fs gs : List Field} (h : gs.Perm fs) :
    (ofFields gs).rules.Perm (ofFields fs).rules := h.flatMap_right Rule.ofField

/-- **The order of the rules is irrelevant in a form with distinct keys.** However its rules are
ordered, the same message is found under each key and validity is the same, and a run that reports
the first failing rule leaves what one that reports the last does: no value fails two rules on one
key. So it makes no difference to the messages in which order the fields come. -/
theorem run_ignores_order {fs : List Field} (hkeys : (fs.map Field.stateKey).Nodup)
    (values : Record) :
    (∀ rules : List Rule, rules.Perm (ofFields fs).rules → ∀ keys : List String,
      (∀ key, (run ⟨rules⟩ keys values).error? key =
        (run (ofFields fs) keys values).error? key) ∧
      (run ⟨rules⟩ keys values).isValid = (run (ofFields fs) keys values).isValid ∧
      runFirst ⟨rules⟩ keys values = run ⟨rules⟩ keys values) ∧
    (∀ key value, (((ofFields fs).rulesOn key).filter (·.fails value)).length ≤ 1) ∧
    ∀ gs : List Field, gs.Perm fs →
      (∀ key, ((Form.ofFields gs).outcome values).error? key =
        ((Form.ofFields fs).outcome values).error? key) ∧
      ((Form.ofFields gs).outcome values).isValid =
        ((Form.ofFields fs).outcome values).isValid := by
  have hone := exclusive_ofFields hkeys
  refine ⟨?rules, hone, ?fields⟩
  case rules =>
    intro rules hperm keys
    have hperm : (Plan.mk rules).rules.Perm (ofFields fs).rules := hperm
    exact ⟨hone.error?_perm hperm keys keys values, hone.isValid_perm hperm keys keys values,
      (hone.perm hperm).runFirst_eq keys values⟩
  case fields =>
    intro gs hgs
    have hperm := rules_ofFields_perm hgs
    exact ⟨hone.error?_perm hperm _ _ values, hone.isValid_perm hperm _ _ values⟩

/-- With the rules turned round, the format of the address is still what is reported. -/
theorem run_ignores_order_reversed :
    ([⟨"Email", .email, true⟩, ⟨"Age", .number, true⟩].map Field.stateKey).Nodup ∧
      (run ⟨(ofFields [⟨"Email", .email, true⟩, ⟨"Age", .number, true⟩]).rules.reverse⟩
        ["email", "age"] (.ofList [("email", "abc")])).error? "email" =
          some "Invalid email address" := by
  have hkeys : ([⟨"Email", .email, true⟩, ⟨"Age", .number, true⟩].map Field.stateKey).Nodup := by
    decide
  have horder := run_ignores_order hkeys (.ofList [("email", "abc")])
  exact ⟨hkeys, ((horder.1 _ (List.reverse_perm _) ["email", "age"]).1 "email").trans (by decide)⟩

/-- Where two fields share a key, it does matter which failing rule counts. -/
example : ((ofFields [⟨"A", .password, false⟩, ⟨"a", .email, false⟩]).runFirst ["a"]
      (.ofList [("a", "x")])).error? "a" = some "Password must be at least 8 characters" ∧
    ((ofFields [⟨"A", .password, false⟩, ⟨"a", .email, false⟩]).run ["a"]
      (.ofList [("a", "x")])).error? "a" = some "Invalid email address" := by decide

end Plan

end Formwork
