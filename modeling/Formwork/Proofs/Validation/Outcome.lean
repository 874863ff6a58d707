import Formwork.Validation.Plan

/-!
# What a run of a plan leaves

Rules overwrite each other's messages, so the messages at the end are told apart from the order in
which they were written. Only the rules that fail write, and a run is the record of what they write,
behind an empty text for each key that was given (`errors_run`).

* `Plan.lastFailure` — the last rule on a key that fails; its message is what `Plan.report` says.
* `Plan.slots` — the keys of the messages: those given, then those that only failing rules have.

**Main statement**: `Plan.run_leaves_last_failures`.
-/

namespace Formwork

namespace Plan

/-- The rules that fail for some values, in the order of the plan. -/
def failures (p : Plan) (values : Record) : List Rule :=
  p.rules.filter fun r => r.fails (values.text r.key)

/-- The last rule on a key that fails for some values. -/
def lastFailure (p : Plan) (values : Record) (key : String) : Option Rule :=
  ((p.failures values).filter (·.key = key)).getLast?

/-- The message of the last rule on a key that fails, or the empty text. -/
def report (p : Plan) (values : Record) (key : String) : String :=
  ((p.lastFailure values key).map (·.message)).getD ""

/-- The given keys as they first appear, then the other keys as rules on them first fail. -/
def slots (p : Plan) (keys : List String) (values : Record) : List String :=
  keys.eraseDups ++ (((p.failures values).map (·.key)).filter (· ∉ keys)).eraseDups

/-! ## Failures -/

theorem mem_failures_iff {p : Plan} {values : Record} {r : Rule} :
    r ∈ p.failures values ↔ r ∈ p.rules ∧ r.fails (values.text r.key) = true := List.mem_filter

theorem mem_of_lastFailure {p : Plan} {values : Record} {key : String} {r : Rule}
    (h : p.lastFailure values key = some r) : r ∈ p.failures values ∧ r.key = key := by
  have hmem := List.mem_filter.mp (List.mem_of_getLast? h)
  exact ⟨hmem.1, by simpa using hmem.2⟩

theorem exists_lastFailure {p : Plan} {values : Record} {r : Rule} (h : r ∈ p.failures values) :
    ∃ last, p.lastFailure values r.key = some last := by
  have hmem : r ∈ (p.failures values).filter (·.key = r.key) := List.mem_filter.mpr ⟨h, by simp⟩
  exact ⟨_, List.getLast?_eq_some_getLast (List.ne_nil_of_mem hmem)⟩

theorem report_of_lastFailure {p : Plan} {values : Record} {key : String} {r : Rule}
    (h : p.lastFailure values key = some r) : p.report values key = r.message := by
  rw [report, h]
  rfl

theorem report_of_lastFailure_none {p : Plan} {values : Record} {key : String}
    (h : p.lastFailure values key = none) : p.report values key = "" := by
  rw [report, h]
  rfl

/-! ## A run as a record -/

/-- What some rules write. -/
def messages (rs : List Rule) : List (String × String) := rs.map fun r => (r.key, r.message)

/-- A rule that does not fail writes nothing. -/
theorem foldl_runRule (values errors : Record) (rs : List Rule) :
    rs.foldl (runRule values) errors =
      (messages (rs.filter fun r => r.fails (values.text r.key))).foldl
        (fun errors e => errors.set e.1 e.2) errors := by
  rw [messages, List.foldl_map, List.foldl_filter]
  rfl

/-- A run leaves the record of the empty texts and of what the failing rules write. -/
theorem errors_run (p : Plan) (keys : List String) (values : Record) :
    (p.run keys values).errors =
      Record.ofList (keys.map (fun k => (k, "")) ++ messages (p.failures values)) := by
  rw [Record.ofList, List.foldl_append, run, foldl_runRule]
  rfl

theorem keys_run (p : Plan) (keys : List String) (values : Record) :
    (p.run keys values).errors.keys = p.slots keys values := by
  have hkeys : (keys.map (fun k => (k, "")) ++ messages (p.failures values)).map (·.1) =
      keys ++ (p.failures values).map (·.key) := by
    simp [messages, Function.comp_def]
  rw [errors_run, Record.keys_ofList, hkeys, List.eraseDups_append, slots, List.removeAll]
  simp

theorem lookup_messages (rs : List Rule) (key : String) :
    (messages rs).reverse.lookup key = ((rs.filter (·.key = key)).getLast?).map (·.message) := by
  induction rs with
  | nil => rfl
  | cons r rs ih =>
    have hcons : (messages (r :: rs)).reverse = (messages rs).reverse ++ [(r.key, r.message)] :=
      List.reverse_cons
    rw [hcons, List.lookup_append, ih, List.lookup_singleton]
    -- the message of `r` counts only where no later rule has the key
    by_cases hkey : r.key = key
    · cases hlast : (rs.filter (·.key = key)).getLast? with
      | none => simp [hkey, List.getLast?_cons, hlast]
      | some last => simp [hkey, List.getLast?_cons, hlast]
    · have hne : ¬ key = r.key := fun h => hkey h.symm
      simp [hkey, hne]

theorem lookup_blanks (keys : List String) (key : String) :
    ((keys.map fun k => (k, "")).reverse.lookup key).getD "" = "" := by
  cases h : (keys.map fun k => (k, "")).reverse.lookup key with
  | none => rfl
  | some text =>
    obtain ⟨before, after, hes, -⟩ := List.lookup_eq_some_iff.mp h
    have hmem : (key, text) ∈ (keys.map fun k => (k, "")).reverse := by simp [hes]
    simp only [List.mem_reverse, List.mem_map, Prod.mk.injEq] at hmem
    obtain ⟨k, -, -, htext⟩ := hmem
    exact htext.symm

theorem text_blank (keys : List String) (key : String) : (Record.blank keys).text key = "" := by
  rw [Record.text, Record.blank, Record.get?_ofList]
  exact lookup_blanks keys key

/-- **Under each key stands the message of its last failing rule**, or nothing. -/
theorem text_run (p : Plan) (keys : List String) (values : Record) (key : String) :
    (p.run keys values).errors.text key = p.report values key := by
  rw [Record.text, errors_run, Record.get?_ofList, List.reverse_append, List.lookup_append,
    lookup_messages]
  show (((p.lastFailure values key).map (·.message)).or _).getD "" = _
  cases h : p.lastFailure values key with
  | none => rw [report_of_lastFailure_none h]; exact lookup_blanks keys key
  | some r => rw [report_of_lastFailure h]; rfl

theorem nodup_slots (p : Plan) (keys : List String) (values : Record) :
    (p.slots keys values).Nodup := by
  rw [← keys_run, errors_run]
  exact Record.nodup_keys_ofList _

theorem entries_run (p : Plan) (keys : List String) (values : Record) :
    (p.run keys values).errors.entries =
      (p.slots keys values).map fun key => (key, p.report values key) := by
  have hnodup : (p.run keys values).errors.keys.Nodup := by
    rw [keys_run]
    exact nodup_slots p keys values
  rw [Record.entries_eq_map_text hnodup, keys_run]
  simp only [text_run]

/-! ## Reading an outcome -/

theorem error?_run (p : Plan) (keys : List String) (values : Record) (key : String) :
    (p.run keys values).error? key =
      if p.report values key = "" then none else some (p.report values key) := by
  have htext := text_run p keys values key
  unfold Record.text at htext
  rw [Outcome.error?, ← htext]
  cases h : (p.run keys values).errors.get? key with
  | none => rfl
  | some message => by_cases hm : message = "" <;> simp [Option.filter, hm]

/-- A key on which a rule fails has a slot. -/
theorem mem_slots_of_mem_failures {p : Plan} {values : Record} {r : Rule}
    (h : r ∈ p.failures values) (keys : List String) : r.key ∈ p.slots keys values := by
  unfold slots
  by_cases hkey : r.key ∈ keys
  · exact List.mem_append_left _ (List.mem_eraseDups.mpr hkey)
  · refine List.mem_append_right _ (List.mem_eraseDups.mpr (List.mem_filter.mpr ⟨?_, by simpa⟩))
    exact List.mem_map_of_mem h

theorem isValid_run_iff_report {p : Plan} {keys : List String} {values : Record} :
    (p.run keys values).isValid = true ↔ ∀ key ∈ p.slots keys values, p.report values key = "" := by
  rw [Outcome.isValid, entries_run, List.all_map, List.all_eq_true]
  simp

/-- An outcome is valid when no last failure has anything to say. -/
theorem isValid_run_iff {p : Plan} {keys : List String} {values : Record} :
    (p.run keys values).isValid = true ↔
      ∀ key r, p.lastFailure values key = some r → r.message = "" := by
  rw [isValid_run_iff_report]
  constructor
  · intro h key r hr
    obtain ⟨hmem, rfl⟩ := mem_of_lastFailure hr
    rw [← report_of_lastFailure hr]
    exact h r.key (mem_slots_of_mem_failures hmem keys)
  · intro h key _
    cases hr : p.lastFailure values key with
    | none => exact report_of_lastFailure_none hr
    | some r => rw [report_of_lastFailure hr, h key r hr]

/-- **The last failing rule on a key is the one that is reported**, for every plan. The slots are the
given keys and then those that only failing rules have, each of them once. -/
theorem run_leaves_last_failures (p : Plan) (keys : List String) (values : Record) :
    (p.run keys values).errors.entries =
        (p.slots keys values).map (fun key => (key, p.report values key)) ∧
      (p.slots keys values).Nodup ∧
      (∀ key, (p.run keys values).error? key =
        if p.report values key = "" then none else some (p.report values key)) ∧
      ((p.run keys values).isValid = true ↔
        ∀ key r, p.lastFailure values key = some r → r.message = "") :=
  ⟨entries_run p keys values, nodup_slots p keys values, error?_run p keys values,
    isValid_run_iff⟩

/-- An earlier message is erased by a later one that is empty. -/
example : (run ⟨[⟨"a", .presence, "first"⟩, ⟨"b", .presence, "other"⟩, ⟨"a", .presence, ""⟩]⟩ ["c"]
    .empty).errors.entries = [("c", ""), ("a", ""), ("b", "other")] := by decide

end Plan

end Formwork
