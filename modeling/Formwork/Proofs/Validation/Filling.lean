import Formwork.Proofs.Validation.Validity

/-!
# Every form with distinct keys can be filled in

A form could ask for what nobody can enter: a constraint that no text satisfies, or two fields with
different constraints on one value. The first does not happen, since each kind has a text that its
fields allow (`Kind.sample`). The second does not where keys are distinct: a value entered for one
field is not seen by another (`Form.get?_fill`), so the fields are filled in one by one.

**Main statement**: `Form.exists_valid_values`.
-/

namespace Formwork

/-! ## A text for each kind -/

/-- A text that satisfies the constraint on fields of the kind. Where there is none any text will do,
and this one ticks a box. -/
def Kind.sample : Kind → String
  | .email => "a@b.cc"
  | .url => "http://a.b"
  | .tel => "5551234567"
  | .password => "password"
  | _ => tickedValue

theorem Kind.sample_ne_empty (k : Kind) : k.sample ≠ "" := by
  cases k with
  | other tag => exact (by decide : tickedValue ≠ "")
  | _ => decide

theorem Constraint.accepts_sample {k : Kind} {c : Constraint} (h : ofKind? k = some c) :
    c.accepts k.sample = true := by
  cases k with
  | email =>
    obtain rfl : email = c := Option.some.inj h
    decide
  | url =>
    obtain rfl : url = c := Option.some.inj h
    decide
  | tel =>
    obtain rfl : tel = c := Option.some.inj h
    decide
  | password =>
    obtain rfl : minLength leastPasswordLength = c := Option.some.inj h
    decide
  | _ => cases h

/-- A field allows the text for its kind, mandatory or not. -/
theorem Field.admits_sample (f : Field) : f.Admits f.kind.sample where
  present := fun _ => f.kind.sample_ne_empty
  wellFormed := fun _ _ h => Constraint.accepts_sample h

/-- Only a mandatory field insists on a value. -/
theorem Field.admits_empty_iff {f : Field} : f.Admits "" ↔ f.required = false := by
  constructor
  · intro h
    rw [Bool.eq_false_iff]
    exact fun hreq => h.present hreq rfl
  · intro hreq
    exact ⟨fun h => absurd (hreq.symm.trans h) (by decide), fun h => absurd rfl h⟩

namespace Form

/-! ## Filling in the fields one by one -/

/-- The values of a form in which each field has the text picked for it. -/
def fill (pick : Field → String) (fs : List Field) : Record :=
  .ofList (fs.map fun f => (f.stateKey, pick f))

/-- Under distinct keys, each field finds the text picked for it. -/
theorem get?_fill {fs : List Field} (hkeys : (fs.map Field.stateKey).Nodup)
    (pick : Field → String) {f : Field} (hf : f ∈ fs) :
    (fill pick fs).get? f.stateKey = some (pick f) := by
  obtain ⟨before, after, rfl, -, hafter⟩ := exists_append_of_mem hkeys hf
  have hlater : (after.map fun g => (g.stateKey, pick g)).reverse.lookup f.stateKey = none := by
    rw [List.lookup_eq_none_iff]
    intro e he
    obtain ⟨g, hg, rfl⟩ := List.mem_map.mp (List.mem_reverse.mp he)
    -- a later field with the key would count instead
    have hne : f.stateKey ≠ g.stateKey := fun h => hafter (List.mem_map.mpr ⟨g, hg, h.symm⟩)
    exact bne_iff_ne.mpr hne
  rw [fill, Record.get?_ofList, List.map_append, List.map_cons, List.reverse_append,
    List.reverse_cons, List.append_assoc, List.lookup_append, hlater, Option.none_or,
    List.singleton_append, List.lookup_cons_self]

/-- A form is filled in well when each field was, since no field sees the text of another. -/
theorem isValid_outcome_fill_iff {fs : List Field} (hkeys : (fs.map Field.stateKey).Nodup)
    (pick : Field → String) :
    ((ofFields fs).outcome (fill pick fs)).isValid = true ↔ ∀ f ∈ fs, f.Admits (pick f) := by
  rw [isValid_outcome_iff]
  refine forall₂_congr fun f hf => ?_
  rw [Record.text, get?_fill hkeys pick hf]
  rfl

/-- A form is valid as it comes, without any values, exactly if no field is mandatory. -/
theorem isValid_outcome_empty_iff {fs : List Field} :
    ((ofFields fs).outcome .empty).isValid = true ↔ ∀ f ∈ fs, f.required = false := by
  rw [isValid_outcome_iff]
  exact forall₂_congr fun f _ => Field.admits_empty_iff

/-- **Every form with distinct keys can be submitted**: there are values, one for each field and none
of them empty, with which it is valid. If no field is mandatory, and only then, it is valid without
any values. -/
theorem exists_valid_values {fs : List Field} (hkeys : (fs.map Field.stateKey).Nodup) :
    (∃ values : Record, values.keys.Nodup ∧
      (∀ f ∈ fs, ∃ value, values.get? f.stateKey = some value ∧ value ≠ "") ∧
      ((ofFields fs).outcome values).isValid = true) ∧
    (((ofFields fs).outcome .empty).isValid = true ↔ ∀ f ∈ fs, f.required = false) := by
  refine ⟨⟨fill (fun f => f.kind.sample) fs, Record.nodup_keys_ofList _, ?filled, ?valid⟩,
    isValid_outcome_empty_iff⟩
  case filled =>
    intro f hf
    exact ⟨f.kind.sample, get?_fill hkeys _ hf, f.kind.sample_ne_empty⟩
  case valid => exact (isValid_outcome_fill_iff hkeys _).mpr fun f _ => f.admits_sample

/-- A form with a mandatory field under each of the constraints. -/
theorem exists_valid_values_four :
    ([⟨"Email", .email, true⟩, ⟨"Site", .url, true⟩, ⟨"Phone", .tel, true⟩,
      ⟨"Password", .password, true⟩].map Field.stateKey).Nodup ∧
    ∃ values : Record, ((ofFields [⟨"Email", .email, true⟩, ⟨"Site", .url, true⟩,
      ⟨"Phone", .tel, true⟩, ⟨"Password", .password, true⟩]).outcome values).isValid = true := by
  have hkeys : ([⟨"Email", .email, true⟩, ⟨"Site", .url, true⟩, ⟨"Phone", .tel, true⟩,
      ⟨"Password", .password, true⟩].map Field.stateKey).Nodup := by decide
  obtain ⟨⟨values, -, -, hvalid⟩, -⟩ := exists_valid_values hkeys
  exact ⟨hkeys, values, hvalid⟩

end Form

end Formwork
