import Formwork.CommandLine.Run
import Formwork.Proofs.Description.Roundtrip
import Formwork.Proofs.Json.Reader
import Formwork.Proofs.Report.Acceptance

/-!
# Reading reports

A report says all that it was made from: whatever reads its text as JSON finds the fields, the keys
and the rules in it. Members are looked up by name, so their order does not matter.

* `Report.ofJson?` — the report that a value is.
* `Report.ofJson?_toJson` — a report is found in its value, if a known tag makes a known kind in it.

**Main statement**: `Report.reports_read_back`.
-/

namespace Formwork

/-! ## Looking into a value -/

namespace Json

/-- The value of a member of an object. -/
def get? (key : String) : Json → Option Json
  | object ms => ms.lookup key
  | _ => none

def bool? : Json → Option Bool
  | bool b => some b
  | _ => none

def natural? : Json → Option Nat
  | number n => some n
  | _ => none

def string? : Json → Option String
  | string s => some s
  | _ => none

/-- The items of an array, each read by `item?`. -/
def items? {α : Type} (item? : Json → Option α) : Json → Option (List α)
  | array xs => xs.mapM item?
  | _ => none

theorem items?_map {α : Type} {item? : Json → Option α} {write : α → Json} {xs : List α}
    (h : ∀ x ∈ xs, item? (write x) = some x) : items? item? (array (xs.map write)) = some xs := by
  show (xs.map write).mapM item? = some xs
  induction xs with
  | nil => rfl
  | cons x xs ih =>
    have ih := ih fun y hy => h y (List.mem_cons_of_mem x hy)
    rw [List.map_cons, List.mapM_cons, h x List.mem_cons_self, ih]
    rfl

end Json

namespace Report

/-! ## The reader -/

def fieldOfJson? (j : Json) : Option Field := do
  let label ← (← j.get? "label").string?
  let tag ← (← j.get? "kind").string?
  let required ← (← j.get? "required").bool?
  some ⟨label, Kind.ofTag tag, required⟩

/-- A constraint is its name, or an object if there is a number to it. -/
def constraintOfJson? : Json → Option Constraint
  | .string "email" => some .email
  | .string "url" => some .url
  | .string "tel" => some .tel
  | j => do
    let n ← (← j.get? "min_length").natural?
    some (.minLength n)

def checkOfJson? (j : Json) : Option Check := do
  let check ← (← j.get? "check").string?
  if check = "presence" then some .presence
  else if check = "format" then do
    let c ← constraintOfJson? (← j.get? "rule")
    some (.format c)
  else none

def ruleOfJson? (j : Json) : Option Rule := do
  let key ← (← j.get? "key").string?
  let check ← checkOfJson? (← j.get? "check")
  let message ← (← j.get? "message").string?
  some ⟨key, check, message⟩

/-- The report that a value is. -/
def ofJson? (j : Json) : Option Report := do
  let fields ← (← j.get? "fields").items? fieldOfJson?
  let keys ← (← j.get? "keys").items? Json.string?
  let rules ← (← (← j.get? "validation").get? "rules").items? ruleOfJson?
  some ⟨fields, keys, ⟨rules⟩⟩

/-! ## What is read -/

theorem fieldOfJson?_fieldJson {f : Field} (h : f.kind = Kind.ofTag f.kind.tag) :
    fieldOfJson? (fieldJson f) = some f := by
  simp [fieldOfJson?, fieldJson, Json.get?, Json.string?, Json.bool?, List.lookup_cons, ← h]

theorem checkOfJson?_checkJson (c : Check) : checkOfJson? (checkJson c) = some c := by
  cases c with
  | presence => rfl
  | format c => cases c <;> rfl

theorem ruleOfJson?_ruleJson (r : Rule) : ruleOfJson? (ruleJson r) = some r := by
  have := checkOfJson?_checkJson r.check
  simp [ruleOfJson?, ruleJson, Json.get?, Json.string?, List.lookup_cons, this]

/-- **A report is found in its value.** A kind is written as its tag, so a known tag must not have
been kept as another. -/
theorem ofJson?_toJson {r : Report} (h : ∀ f ∈ r.fields, f.kind = Kind.ofTag f.kind.tag) :
    ofJson? r.toJson = some r := by
  have hfields := Json.items?_map fun f hf => fieldOfJson?_fieldJson (h f hf)
  have hkeys : Json.items? Json.string? (.array (r.keys.map .string)) = some r.keys :=
    Json.items?_map fun _ _ => rfl
  have hrules := Json.items?_map fun r' (_ : r' ∈ r.validation.rules) => ruleOfJson?_ruleJson r'
  simp [ofJson?, toJson, Json.get?, List.lookup_cons, hfields, hkeys, hrules]

/-! ## Keys -/

theorem distinct_fieldJson (f : Field) : (fieldJson f).Distinct :=
  .member (by simp) (.string _) (.member (by simp) (.string _) (.member (by simp) (.bool _) .empty))

theorem distinct_constraintJson (c : Constraint) : (constraintJson c).Distinct := by
  cases c with
  | minLength n => exact .member (by simp) (.number n) .empty
  | _ => exact .string _

theorem distinct_checkJson (c : Check) : (checkJson c).Distinct := by
  cases c with
  | presence => exact .member (by simp) (.string _) .empty
  | format c =>
    exact .member (by simp) (.string _) (.member (by simp) (distinct_constraintJson c) .empty)

theorem distinct_ruleJson (r : Rule) : (ruleJson r).Distinct :=
  .member (by simp) (.string _)
    (.member (by simp) (distinct_checkJson r.check) (.member (by simp) (.string _) .empty))

/-- No object of a report has a key twice. -/
theorem distinct_toJson (r : Report) : r.toJson.Distinct := by
  have hfields : (Json.array (r.fields.map fieldJson)).Distinct :=
    .array (List.forall_mem_map.mpr fun f _ => distinct_fieldJson f)
  have hkeys : (Json.array (r.keys.map .string)).Distinct :=
    .array (List.forall_mem_map.mpr fun k _ => .string k)
  have hrules : (Json.array (r.validation.rules.map ruleJson)).Distinct :=
    .array (List.forall_mem_map.mpr fun s _ => distinct_ruleJson s)
  exact .member (by simp) hfields (.member (by simp) hkeys
    (.member (by simp) (.member (by simp) hrules .empty) .empty))

/-! ## Reports as texts -/

theorem exists_of_ofText {text : String} {r : Report} (h : ofText text = .ok r) :
    ∃ fs, Description.read text = .ok fs ∧ r = ofFields fs := by
  rw [ofText_eq] at h
  cases hfs : Description.read text with
  | error e =>
    rw [hfs] at h
    cases h
  | ok fs =>
    rw [hfs] at h
    exact ⟨fs, rfl, (Except.ok.inj h).symm⟩

/-- The report on what was read is found in its value. -/
theorem ofJson?_of_read {text : String} {fs : List Field} (h : Description.read text = .ok fs) :
    ofJson? (ofFields fs).toJson = some (ofFields fs) :=
  ofJson?_toJson fun f hf => ((Description.writable_of_read h).2 f hf).kind_eq

open CommandLine in
/-- What the `check` command prints. -/
theorem compute_check {i : Inputs} {path : Option String} {text : String} {r : Report}
    (htext : readDescription i path = .ok text) (hr : ofText text = .ok r) :
    (Command.check path).compute i = .ok (.print (r.render ++ "\n")) := by
  rw [Command.compute, bind_eq_ok_iff]
  exact ⟨text, htext, bind_eq_ok_iff.mpr ⟨r, mapError_eq_ok_iff.mpr hr, rfl⟩⟩

/-- **Reports are read back.** For every description that is read, there is a report, and it is what
the `check` command prints. Every reader of JSON finds in its text, with the line break or without,
a report that has the fields as they were read, the state key of each and the plan for them. So
descriptions have the same report only if they have the same fields. -/
theorem reports_read_back (R : Json.Reader) :
    (∀ text fs, Description.read text = .ok fs → ∃ r, ofText text = .ok r ∧
      (∀ i path, CommandLine.readDescription i path = .ok text →
        (CommandLine.Command.check path).compute i = .ok (.print (r.render ++ "\n"))) ∧
      (R.read r.render).bind ofJson? = some ⟨fs, fs.map Field.stateKey, Plan.ofFields fs⟩ ∧
      (R.read (r.render ++ "\n")).bind ofJson? =
        some ⟨fs, fs.map Field.stateKey, Plan.ofFields fs⟩) ∧
    (∀ text text' r r', ofText text = .ok r → ofText text' = .ok r' → r.render = r'.render →
      Description.read text = Description.read text') := by
  constructor
  · intro text fs h
    have hr : ofText text = .ok (ofFields fs) := by rw [ofText_eq, h]
    have hdoc := Json.document_pretty (ofFields fs).toJson
    have hdistinct := distinct_toJson (ofFields fs)
    have hread := ofJson?_of_read h
    refine ⟨ofFields fs, hr, fun i path htext => compute_check htext hr, ?_, ?_⟩
    · rw [render, R.read_of_document hdoc.1 hdistinct]
      exact hread
    · rw [render, R.read_of_document hdoc.2 hdistinct]
      exact hread
  · intro text text' r r' hr hr' hrender
    obtain ⟨fs, hfs, rfl⟩ := exists_of_ofText hr
    obtain ⟨fs', hfs', rfl⟩ := exists_of_ofText hr'
    have hjson := ofJson?_of_read hfs
    rw [Json.pretty_inj hrender, ofJson?_of_read hfs'] at hjson
    obtain rfl : fs' = fs := congrArg Report.fields (Option.some.inj hjson)
    rw [hfs, hfs']

end Report

end Formwork
