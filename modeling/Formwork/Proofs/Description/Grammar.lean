import Formwork.Proofs.Text.Trim
import Formwork.Proofs.Description.Lines
import Mathlib.Data.List.Forall2

/-!
# The grammar of form descriptions

`Line.Spells` says, without a scanner, which lines are fields: a label, `(`, a kind, a comma, blanks,
one of two words and `)`. The kind may hold commas and parentheses, so a line could seem to be read
in several ways. It cannot: behind the comma that ends the kind there is no other comma, so it is
the last one of the line.

* `Line.Spells` — a line spells a field.
* `kindAndEnding?_eq_some_iff`, `field?_eq_some_iff` — the scanner finds the parts of the grammar.
* `Description.read_iff_grammar` — reading follows the grammar on every text.
-/

namespace Formwork

open Text (AllBlank)

namespace Line

/-- A line that spells a field: a label before the first `(`, the tag of a kind, a comma, blanks, a
word for the requirement, and `)` at the end. Label and tag are trimmed. -/
structure Spells (line : String) (f : Field) : Prop where
  unbroken : ∀ c ∈ line.toList, c ∉ ['\n', '\r', '\u2028', '\u2029']
  parts : ∃ label kind blanks : String,
    line = label ++ "(" ++ kind ++ "," ++ blanks ++
      (if f.required then "required" else "optional") ++ ")" ∧
    '(' ∉ label.toList ∧
    (∀ c ∈ blanks.toList, Text.isBlank c = true) ∧
    f.label = Text.trim label ∧ f.label ≠ "" ∧
    f.kind = Kind.ofTag (Text.trim kind)

theorem Spells.parenthesis_mem {line : String} {f : Field} (h : Spells line f) :
    '(' ∈ line.toList := by
  obtain ⟨-, label, kind, blanks, rfl, -⟩ := h
  simp

/-! ## The end of a line -/

/-- The characters that end a line whose field has the requirement. -/
def closing (required : Bool) : List Char := (requirementWord required).toList ++ [')']

theorem dropWhile_closing (required : Bool) :
    (closing required).dropWhile Text.isBlank = closing required := by
  cases required <;> decide

theorem comma_notMem_closing (required : Bool) : ',' ∉ closing required := by
  cases required <;> decide

theorem ending?_eq_some_iff {cs : List Char} {required : Bool} :
    ending? cs = some required ↔ ∃ blanks, AllBlank blanks ∧ cs = blanks ++ closing required := by
  constructor
  · intro h
    refine ⟨cs.takeWhile Text.isBlank, fun c hc => List.mem_takeWhile_imp hc, ?_⟩
    have hword : cs.dropWhile Text.isBlank = closing required := by
      simp only [ending?] at h
      split at h
      · next hw => obtain rfl := Option.some.inj h; exact hw
      · split at h
        · next hw => obtain rfl := Option.some.inj h; exact hw
        · cases h
    rw [← hword, List.takeWhile_append_dropWhile]
  · rintro ⟨blanks, hblanks, rfl⟩
    unfold ending?
    rw [Text.dropWhile_margin hblanks, dropWhile_closing]
    cases required <;> decide

/-- Behind the comma that ends the kind there is no other comma. -/
theorem comma_notMem_of_ending? {cs : List Char} {required : Bool}
    (h : ending? cs = some required) : ',' ∉ cs := by
  obtain ⟨blanks, hblanks, rfl⟩ := ending?_eq_some_iff.mp h
  intro hc
  rcases List.mem_append.mp hc with hc | hc
  · exact absurd (hblanks _ hc) (by decide)
  · exact comma_notMem_closing required hc

/-! ## The kind -/

/-- The scanner stops at the comma that ends the kind in the grammar, and finds it on every line
that has one. -/
theorem kindAndEnding?_eq_some_iff {cs kind : List Char} {required : Bool} :
    kindAndEnding? cs = some (kind, required) ↔
      ∃ blanks, AllBlank blanks ∧ cs = kind ++ ',' :: (blanks ++ closing required) := by
  induction cs generalizing kind with
  | nil => simp [kindAndEnding?]
  | cons c cs ih =>
    rw [kindAndEnding?]
    constructor
    · intro h
      split at h
      · next r hr =>
        obtain ⟨rfl, rfl⟩ : [] = kind ∧ r = required := by simpa using h
        by_cases hc : c = ','
        · rw [if_pos hc] at hr
          obtain ⟨blanks, hblanks, hcs⟩ := ending?_eq_some_iff.mp hr
          exact ⟨blanks, hblanks, by rw [hc, hcs, List.nil_append]⟩
        · rw [if_neg hc] at hr
          cases hr
      · obtain ⟨⟨k, r⟩, hk, hkr⟩ := Option.map_eq_some_iff.mp h
        obtain ⟨rfl, rfl⟩ : c :: k = kind ∧ r = required := by simpa using hkr
        obtain ⟨blanks, hblanks, hcs⟩ := ih.mp hk
        exact ⟨blanks, hblanks, by rw [hcs, List.cons_append]⟩
    · rintro ⟨blanks, hblanks, hcs⟩
      cases kind with
      | nil =>
        obtain ⟨rfl, rfl⟩ : c = ',' ∧ cs = blanks ++ closing required := by simpa using hcs
        rw [if_pos rfl, ending?_eq_some_iff.mpr ⟨blanks, hblanks, rfl⟩]
      | cons k ks =>
        obtain ⟨rfl, rfl⟩ : c = k ∧ cs = ks ++ ',' :: (blanks ++ closing required) := by
          simpa using hcs
        -- an earlier comma does not end the kind, for this one follows it
        have hnone : (if c = ',' then ending? (ks ++ ',' :: (blanks ++ closing required))
            else none) = none := by
          split
          · cases he : ending? (ks ++ ',' :: (blanks ++ closing required)) with
            | none => rfl
            | some r => exact absurd (by simp) (comma_notMem_of_ending? he)
          · rfl
        rw [hnone]
        simp [ih.mpr ⟨blanks, hblanks, rfl⟩]

/-! ## The field -/

theorem any_isTerminator_eq_false_iff {cs : List Char} :
    cs.any isTerminator = false ↔ ∀ c ∈ cs, c ∉ ['\n', '\r', '\u2028', '\u2029'] := by
  rw [List.any_eq_false]
  refine forall₂_congr fun c _ => ?_
  simp [isTerminator, and_assoc]

theorem dropWhile_label {label : List Char} (h : '(' ∉ label) (cs : List Char) :
    (label ++ '(' :: cs).dropWhile (· != '(') = '(' :: cs ∧
      (label ++ '(' :: cs).takeWhile (· != '(') = label := by
  have hall : ∀ c ∈ label, (c != '(') = true := by
    intro c hc
    have : c ≠ '(' := fun he => h (he ▸ hc)
    simpa using this
  constructor
  · rw [List.dropWhile_append_of_pos hall]
    rfl
  · rw [List.takeWhile_append_of_pos hall, List.takeWhile_cons_of_neg (by decide),
      List.append_nil]

theorem exists_label {c : Char} {cs rest : List Char} (h : cs.dropWhile (· != '(') = c :: rest) :
    cs = cs.takeWhile (· != '(') ++ '(' :: rest ∧ '(' ∉ cs.takeWhile (· != '(') := by
  constructor
  · obtain rfl : c = '(' := by
      have := List.head?_dropWhile_not (· != '(') cs
      rw [h] at this
      simpa using this
    rw [← h, List.takeWhile_append_dropWhile]
  · intro hm
    simpa using List.mem_takeWhile_imp hm

theorem field?_eq_some_iff {cs : List Char} {f : Field} :
    field? cs = some f ↔ cs.any isTerminator = false ∧ ∃ label kind blanks,
      cs = label ++ '(' :: (kind ++ ',' :: (blanks ++ closing f.required)) ∧
      '(' ∉ label ∧ AllBlank blanks ∧
      f.label = String.ofList (Text.trimChars label) ∧ Text.trimChars label ≠ [] ∧
      f.kind = Kind.ofTag (String.ofList (Text.trimChars kind)) := by
  constructor
  · intro h
    simp only [field?] at h
    split at h
    · cases h
    next hterm =>
    refine ⟨by simpa using hterm, ?_⟩
    split at h
    · cases h
    next c rest hrest =>
    obtain ⟨hcs, hlabel⟩ := exists_label hrest
    split at h
    · cases h
    next kind required hkind =>
    split at h
    · cases h
    next hne =>
    obtain rfl := Option.some.inj h
    obtain ⟨blanks, hblanks, rfl⟩ := kindAndEnding?_eq_some_iff.mp hkind
    exact ⟨_, kind, blanks, hcs, hlabel, hblanks, rfl, by simpa using hne, rfl⟩
  · rintro ⟨hterm, label, kind, blanks, hcs, hlabel, hblanks, hf, hne, hk⟩
    obtain ⟨hdrop, htake⟩ := dropWhile_label hlabel
      (kind ++ ',' :: (blanks ++ closing f.required))
    have hkind : kindAndEnding? (kind ++ ',' :: (blanks ++ closing f.required)) =
        some (kind, f.required) := kindAndEnding?_eq_some_iff.mpr ⟨blanks, hblanks, rfl⟩
    unfold field?
    rw [if_neg (by simp [hterm]), hcs, hdrop, htake]
    simp only [hkind]
    rw [if_neg (by simpa using hne), ← hf, ← hk]

/-- The field of a line that ends its label at the first parenthesis, if there is one. -/
theorem eq_of_field?_eq_some {label kind blanks : List Char} {required : Bool} {f : Field}
    (hlabel : '(' ∉ label) (hblanks : AllBlank blanks)
    (h : field? (label ++ '(' :: (kind ++ ',' :: (blanks ++ closing required))) = some f) :
    f = ⟨String.ofList (Text.trimChars label), Kind.ofTag (String.ofList (Text.trimChars kind)),
      required⟩ := by
  obtain ⟨hdrop, htake⟩ := dropWhile_label hlabel (kind ++ ',' :: (blanks ++ closing required))
  have hkind : kindAndEnding? (kind ++ ',' :: (blanks ++ closing required)) =
      some (kind, required) := kindAndEnding?_eq_some_iff.mpr ⟨blanks, hblanks, rfl⟩
  unfold field? at h
  rw [hdrop, htake] at h
  simp only [hkind] at h
  split at h
  · cases h
  split at h
  · cases h
  exact (Option.some.inj h).symm

/-- The scanner decides the grammar. -/
theorem field?_toList_eq_some_iff {line : String} {f : Field} :
    field? line.toList = some f ↔ Spells line f := by
  rw [field?_eq_some_iff, any_isTerminator_eq_false_iff]
  constructor
  · rintro ⟨hline, label, kind, blanks, hcs, hlabel, hblanks, hf, hne, hk⟩
    refine ⟨hline, String.ofList label, String.ofList kind, String.ofList blanks, ?_,
      by simpa using hlabel, by simpa [AllBlank] using hblanks,
      by simpa [Text.trim] using hf,
      by simpa [hf] using hne, by simpa [Text.trim] using hk⟩
    rw [← String.toList_inj, hcs]
    simp [closing, requirementWord]
  · rintro ⟨hline, label, kind, blanks, hcs, hlabel, hblanks, hf, hne, hk⟩
    refine ⟨hline, label.toList, kind.toList, blanks.toList, ?_, hlabel, hblanks, hf, ?_, hk⟩
    · rw [hcs]
      simp [closing, requirementWord]
    · intro he
      exact hne (by rw [hf, Text.trim, he])

/-- A line spells at most one field. -/
theorem Spells.unique {line : String} {f g : Field} (hf : Spells line f) (hg : Spells line g) :
    f = g :=
  Option.some.inj ((field?_toList_eq_some_iff.mpr hf).symm.trans (field?_toList_eq_some_iff.mpr hg))

theorem read_eq_ok_iff {l : Line} {f : Field} : l.read = .ok f ↔ Spells l.content f := by
  rw [← field?_toList_eq_some_iff, read]
  cases field? l.content.toList <;> simp

theorem read_eq_error_iff {l : Line} {e : LineError} :
    l.read = .error e ↔ e = ⟨l.content, l.number⟩ ∧ ∀ f, ¬ Spells l.content f := by
  simp only [← field?_toList_eq_some_iff, read]
  cases field? l.content.toList <;> simp [eq_comm]

end Line

/-! ## The whole description -/

section Lists

variable {α β ε : Type} {g : α → Except ε β}

theorem exists_of_forall₂ {r : α → β → Prop} {xs : List α} {ys : List β}
    (h : List.Forall₂ r xs ys) {x : α} (hx : x ∈ xs) : ∃ y, r x y := by
  induction h with
  | nil => cases hx
  | @cons a b as bs hab _ ih =>
    rcases List.mem_cons.mp hx with rfl | hx
    · exact ⟨b, hab⟩
    · exact ih hx

theorem mapM_eq_ok_iff {xs : List α} {ys : List β} :
    xs.mapM g = .ok ys ↔ List.Forall₂ (fun x y => g x = .ok y) xs ys := by
  induction xs generalizing ys with
  | nil => simp [pure, Except.pure, eq_comm]
  | cons x xs ih =>
    rw [List.mapM_cons, List.forall₂_cons_left_iff]
    constructor
    · intro h
      cases hx : g x with
      | error e => rw [hx] at h; cases h
      | ok y =>
        cases hxs : xs.mapM g with
        | error e => rw [hx, hxs] at h; cases h
        | ok zs =>
          rw [hx, hxs] at h
          exact ⟨y, zs, rfl, ih.mp hxs, (Except.ok.inj h).symm⟩
    · rintro ⟨y, zs, hx, hxs, rfl⟩
      rw [hx, ih.mpr hxs]
      rfl

/-- The error of a run through a list is that of the first item that has one. -/
theorem mapM_eq_error_iff {xs : List α} {e : ε} :
    xs.mapM g = .error e ↔ ∃ before x after, xs = before ++ x :: after ∧
      (∀ b ∈ before, ∃ y, g b = .ok y) ∧ g x = .error e := by
  induction xs with
  | nil => simp [pure, Except.pure]
  | cons x xs ih =>
    rw [List.mapM_cons]
    constructor
    · intro h
      cases hx : g x with
      | error d =>
        rw [hx] at h
        exact ⟨[], x, xs, rfl, by simp, by rw [hx, Except.error.inj h]⟩
      | ok y =>
        cases hxs : xs.mapM g with
        | ok zs => rw [hx, hxs] at h; cases h
        | error d =>
          rw [hx, hxs] at h
          obtain ⟨before, z, after, rfl, hb, hz⟩ := ih.mp (by rw [hxs, Except.error.inj h])
          exact ⟨x :: before, z, after, rfl, by simpa using ⟨⟨y, hx⟩, hb⟩, hz⟩
    · rintro ⟨before, z, after, hxs, hb, hz⟩
      cases before with
      | nil =>
        obtain ⟨rfl, -⟩ : x = z ∧ xs = after := by simpa using hxs
        rw [hz]
        rfl
      | cons b before =>
        obtain ⟨rfl, rest⟩ : x = b ∧ xs = before ++ z :: after := by simpa using hxs
        obtain ⟨y, hy⟩ := hb x List.mem_cons_self
        rw [hy, ih.mpr ⟨before, z, after, rest, fun c hc => hb c (List.mem_cons_of_mem _ hc), hz⟩]
        rfl

end Lists

namespace Description

theorem read_eq_ok_iff {text : String} {fs : List Field} :
    read text = .ok fs ↔ List.Forall₂ Line.Spells (lines text) fs := by
  rw [read, mapM_eq_ok_iff, ← map_content_split, List.forall₂_map_left_iff]
  simp only [Line.read_eq_ok_iff]

theorem read_eq_error_iff {text : String} {e : LineError} :
    read text = .error e ↔ ∃ before after, lines text = before ++ e.content :: after ∧
      e.number = before.length + 1 ∧ (∀ line ∈ before, ∃ f, Line.Spells line f) ∧
      ∀ f, ¬ Line.Spells e.content f := by
  rw [read, mapM_eq_error_iff, ← map_content_split]
  simp only [Line.read_eq_ok_iff, Line.read_eq_error_iff]
  constructor
  · rintro ⟨before, l, after, hsplit, hbefore, rfl, hl⟩
    refine ⟨before.map (·.content), after.map (·.content), by rw [hsplit, List.map_append]; rfl,
      ?_, by simpa using hbefore, hl⟩
    have := Line.number_ofSegments hsplit
    simp only [List.length_map]
    omega
  · rintro ⟨before, after, hlines, hnumber, hbefore, hl⟩
    obtain ⟨ls, ms, hsplit, rfl, hms⟩ := List.map_eq_append_iff.mp hlines
    obtain ⟨l, ns, rfl, hcontent, -⟩ := List.map_eq_cons_iff.mp hms
    refine ⟨ls, l, ns, hsplit, by simpa using hbefore, ?_, by rwa [hcontent]⟩
    have := Line.number_ofSegments hsplit
    obtain ⟨content, number⟩ := e
    simp only [List.length_map] at hnumber hcontent
    rw [hcontent, hnumber, this, Nat.add_comm]

/-- **Reading follows the grammar.** A line spells one field at most. A description is read into the
fields of its lines if each of them spells one, and otherwise the first line that spells none is
named, with its position counted from one. -/
theorem read_iff_grammar (text : String) :
    (∀ line f g, Line.Spells line f → Line.Spells line g → f = g) ∧
    ((∃ fs, read text = .ok fs) ↔ ∀ line ∈ lines text, ∃ f, Line.Spells line f) ∧
    (∀ fs, read text = .ok fs ↔ List.Forall₂ Line.Spells (lines text) fs) ∧
    (∀ e, read text = .error e ↔ ∃ before after, lines text = before ++ e.content :: after ∧
      e.number = before.length + 1 ∧ (∀ line ∈ before, ∃ f, Line.Spells line f) ∧
      ∀ f, ¬ Line.Spells e.content f) := by
  refine ⟨fun line f g => Line.Spells.unique, ?_, fun fs => read_eq_ok_iff,
    fun e => read_eq_error_iff⟩
  constructor
  · rintro ⟨fs, h⟩ line hline
    exact exists_of_forall₂ (read_eq_ok_iff.mp h) hline
  · intro h
    cases hr : read text with
    | ok fs => exact ⟨fs, rfl⟩
    | error e =>
      obtain ⟨before, after, hlines, -, -, he⟩ := read_eq_error_iff.mp hr
      obtain ⟨f, hf⟩ := h e.content (by simp [hlines])
      exact absurd hf (he f)

example : Line.field? "Note (text, required), optional)".toList =
    some ⟨"Note", .other "text, required)", false⟩ := by decide

end Description

end Formwork
