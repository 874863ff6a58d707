import Formwork.Proofs.Json.Literal

/-!
# The grammar of JSON

What a text spells as JSON, for the values of `Json`: white space may stand between any two tokens,
and a character of a string may be escaped in each of its forms. The grammar does not know how
`Json.pretty` lays a value out.

* `Json.Spells` — the texts of a value.
* `Json.Document` — a text that is a value, with white space around it.
* `Json.Reader` — what reads every document.

**Main statement**: `Json.document_pretty`.
-/

namespace Formwork.Json

/-! ## The grammar -/

/-- A character that may stand between tokens. -/
def isSpace (c : Char) : Bool := c = ' ' || c = '\t' || c = '\n' || c = '\r'

/-- White space, or nothing. -/
def Space (cs : List Char) : Prop := ∀ c ∈ cs, isSpace c = true

/-- One thing or more, with commas between them and white space around each. -/
inductive SpellsList {α : Type} (P : α → List Char → Prop) : List α → List Char → Prop
  | last {a : α} {left cs right : List Char} :
      Space left → P a cs → Space right → SpellsList P [a] (left ++ (cs ++ right))
  | more {a : α} {as : List α} {left cs right ds : List Char} :
      Space left → P a cs → Space right → SpellsList P as ds →
      SpellsList P (a :: as) (left ++ (cs ++ (right ++ ',' :: ds)))

/-- A key and a value, with a colon between them. -/
inductive SpellsMember (P : Json → List Char → Prop) : String × Json → List Char → Prop
  | mk {k : String} {v : Json} {ks left right cs : List Char} :
      SpellsString k ks → Space left → Space right → P v cs →
      SpellsMember P (k, v) (ks ++ (left ++ ':' :: (right ++ cs)))

/-- The texts of a value. -/
inductive Spells : Json → List Char → Prop
  | true : Spells (.bool true) "true".toList
  | false : Spells (.bool false) "false".toList
  | number (n : Nat) : Spells (.number n) (Nat.toDigits 10 n)
  | string {s : String} {cs : List Char} : SpellsString s cs → Spells (.string s) cs
  | emptyArray {cs : List Char} : Space cs → Spells (.array []) ('[' :: (cs ++ [']']))
  | array {xs : List Json} {cs : List Char} :
      SpellsList Spells xs cs → Spells (.array xs) ('[' :: (cs ++ [']']))
  | emptyObject {cs : List Char} : Space cs → Spells (.object []) ('\x7b' :: (cs ++ ['\x7d']))
  | object {ms : List (String × Json)} {cs : List Char} :
      SpellsList (SpellsMember Spells) ms cs → Spells (.object ms) ('\x7b' :: (cs ++ ['\x7d']))

/-- A text that is a value. -/
def Document (text : String) (j : Json) : Prop :=
  ∃ left cs right, Space left ∧ Spells j cs ∧ Space right ∧ text.toList = left ++ (cs ++ right)

/-- No object has a key twice. -/
inductive Distinct : Json → Prop
  | bool (b : Bool) : Distinct (.bool b)
  | number (n : Nat) : Distinct (.number n)
  | string (s : String) : Distinct (.string s)
  | array {xs : List Json} : (∀ x ∈ xs, Distinct x) → Distinct (.array xs)
  | empty : Distinct (.object [])
  | member {k : String} {v : Json} {ms : List (String × Json)} :
      k ∉ ms.map (·.1) → Distinct v → Distinct (.object ms) → Distinct (.object ((k, v) :: ms))

/-- A reader of JSON: it finds the value of every document. What it makes of other texts, and of
objects that have a key twice, is its own affair. -/
structure Reader where
  read : String → Option Json
  read_of_document : ∀ {text : String} {j : Json}, Document text j → j.Distinct →
    read text = some j

/-! ## What is written -/

theorem space_nil : Space [] := List.forall_mem_nil _

theorem space_newline (level : Nat) : Space (newline level).toList := by
  intro c hc
  simp only [newline, String.toList_append, String.toList_ofList, List.mem_append] at hc
  rcases hc with hc | hc
  · rw [List.mem_singleton.mp hc]
    rfl
  · rw [List.eq_of_mem_replicate hc]
    rfl

/-- The items of an array, each on a line of its own, and the line break behind them. -/
theorem spellsList_items (level inner : Nat) (x : Json) (xs : List Json)
    (h : ∀ y ∈ x :: xs, Spells y (y.render inner).toList) :
    SpellsList Spells (x :: xs) ((newline inner).toList ++ ((x.render inner).toList ++
      ((renderItems inner xs).toList ++ (newline level).toList))) := by
  have hx := h x List.mem_cons_self
  induction xs generalizing x with
  | nil =>
    have := SpellsList.last (space_newline inner) hx (space_newline level)
    simpa [renderItems] using this
  | cons y ys ih =>
    have hys : ∀ z ∈ y :: ys, Spells z (z.render inner).toList :=
      fun z hz => h z (List.mem_cons_of_mem x hz)
    have := SpellsList.more (space_newline inner) hx space_nil
      (ih y hys (hys y List.mem_cons_self))
    simpa [renderItems] using this

theorem spellsMember {inner : Nat} {m : String × Json}
    (h : Spells m.2 (m.2.render inner).toList) :
    SpellsMember Spells m ((quote m.1).toList ++ ':' :: ' ' :: (m.2.render inner).toList) := by
  have hspace : Space [' '] := by simp [Space, isSpace]
  have := SpellsMember.mk (spellsString_quote m.1) space_nil hspace h
  simpa using this

/-- The members of an object, likewise. -/
theorem spellsList_members (level inner : Nat) (m : String × Json) (ms : List (String × Json))
    (h : ∀ e ∈ m :: ms, Spells e.2 (e.2.render inner).toList) :
    SpellsList (SpellsMember Spells) (m :: ms) ((newline inner).toList ++ ((quote m.1).toList ++
      ':' :: ' ' :: ((m.2.render inner).toList ++
        ((renderMembers inner ms).toList ++ (newline level).toList)))) := by
  have hm := spellsMember (h m List.mem_cons_self)
  induction ms generalizing m with
  | nil =>
    have := SpellsList.last (space_newline inner) hm (space_newline level)
    simpa [renderMembers] using this
  | cons e es ih =>
    have hes : ∀ z ∈ e :: es, Spells z.2 (z.2.render inner).toList :=
      fun z hz => h z (List.mem_cons_of_mem m hz)
    have := SpellsList.more (space_newline inner) hm space_nil
      (ih e hes (spellsMember (hes e List.mem_cons_self)))
    simpa [renderMembers] using this

/-- **A value is spelled by its text**, at every level. -/
theorem spells_render (level : Nat) (j : Json) : Spells j (j.render level).toList := by
  match j with
  | .bool true => simpa [render] using Spells.true
  | .bool false => simpa [render] using Spells.false
  | .number n =>
    simp only [render, Nat.toString_eq_repr, Nat.toList_repr]
    exact .number n
  | .string s => simpa [render] using Spells.string (spellsString_quote s)
  | .array [] => simpa [render] using Spells.emptyArray space_nil
  | .array (x :: xs) =>
    have := Spells.array (spellsList_items level (level + 1) x xs fun y hy =>
      spells_render (level + 1) y)
    simpa [render] using this
  | .object [] => simpa [render] using Spells.emptyObject space_nil
  | .object ((k, v) :: ms) =>
    have := Spells.object (spellsList_members level (level + 1) (k, v) ms fun e he =>
      spells_render (level + 1) e.2)
    simpa [render] using this
termination_by sizeOf j
decreasing_by
  · have := List.sizeOf_lt_of_mem hy
    simp at this ⊢
    omega
  · have := List.sizeOf_lt_of_mem he
    cases e
    simp at this ⊢
    omega

/-- **The text of a value is a document**, with a line break at its end or without. -/
theorem document_pretty (j : Json) : Document j.pretty j ∧ Document (j.pretty ++ "\n") j := by
  have hspace : Space ['\n'] := by simp [Space, isSpace]
  exact ⟨⟨[], _, [], space_nil, spells_render 0 j, space_nil, by simp [pretty]⟩,
    ⟨[], _, ['\n'], space_nil, spells_render 0 j, hspace, by simp [pretty]⟩⟩

end Formwork.Json
