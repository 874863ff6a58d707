import Formwork.Json

/-!
# Reading string literals

A reader for the string literals of JSON, and its round trip with `Json.quote`.

The reader goes by the grammar of JSON: a backslash begins one of eight short escapes or `\u` with
four hexadecimal digits, a quote ends the literal, and a character below U+0020 stands nowhere in
it. An escaped surrogate is refused, since the characters here are no units.

* `Json.contents?` — the rest of a literal, behind its first quote.
* `Json.literal?` — a literal at the front of a text, and what follows it.
* `Json.SpellsString` — the literals of a text, which are all read.
-/

namespace Formwork.Json

/-- The number of a hexadecimal digit. -/
def hexValue? (c : Char) : Option Nat :=
  if '0' ≤ c ∧ c ≤ '9' then some (c.toNat - 0x30)
  else if 'a' ≤ c ∧ c ≤ 'f' then some (c.toNat - 0x57)
  else if 'A' ≤ c ∧ c ≤ 'F' then some (c.toNat - 0x37)
  else none

/-- The character with a number that is given by four digits. -/
def hexChar? (a b c d : Char) : Option Char := do
  let a ← hexValue? a
  let b ← hexValue? b
  let c ← hexValue? c
  let d ← hexValue? d
  let n := ((a * 16 + b) * 16 + c) * 16 + d
  if n.isValidChar then some (Char.ofNat n) else none

/-- The character that a short escape stands for. -/
def shortEscape? (c : Char) : Option Char :=
  match c with
  | '"' => some '"'
  | '\\' => some '\\'
  | '/' => some '/'
  | 'b' => some '\x08'
  | 'f' => some '\x0c'
  | 'n' => some '\n'
  | 'r' => some '\r'
  | 't' => some '\t'
  | _ => none

/-- A character in front of what was read. -/
def prepend (c : Char) (p : List Char × List Char) : List Char × List Char := (c :: p.1, p.2)

/-- The characters up to the quote that ends a literal, and what follows that quote. -/
def contents? : List Char → Option (List Char × List Char)
  | '"' :: cs => some ([], cs)
  | '\\' :: 'u' :: a :: b :: c :: d :: cs =>
    (hexChar? a b c d).bind fun e => (contents? cs).map (prepend e)
  | '\\' :: c :: cs => (shortEscape? c).bind fun e => (contents? cs).map (prepend e)
  | c :: cs => if c.toNat < 0x20 then none else (contents? cs).map (prepend c)
  | [] => none

/-- The text of the literal at the front, and what follows it. -/
def literal? : List Char → Option (String × List Char)
  | '"' :: cs => (contents? cs).map fun p => (String.ofList p.1, p.2)
  | _ => none

/-! ## The forms of a character -/

theorem hexValue?_hexDigit : ∀ n < 16, hexValue? (hexDigit n) = some n := by decide

theorem hexChar?_hexDigit {c : Char} (hc : c.toNat < 0x20) :
    hexChar? '0' '0' (hexDigit (c.toNat / 16)) (hexDigit (c.toNat % 16)) = some c := by
  have h₀ : hexValue? '0' = some 0 := by decide
  have h₁ := hexValue?_hexDigit (c.toNat / 16) (by omega)
  have h₂ := hexValue?_hexDigit (c.toNat % 16) (by omega)
  have hn : ((0 * 16 + 0) * 16 + c.toNat / 16) * 16 + c.toNat % 16 = c.toNat := by omega
  unfold hexChar?
  simp only [h₀, h₁, h₂, Option.bind_eq_bind, Option.bind_some, hn]
  have hv : c.toNat.isValidChar := c.valid
  rw [if_pos hv, Char.ofNat_toNat]

/-- The three forms of a character in a literal: a short escape, its number, and the character
itself. -/
inductive EscapeForm (c : Char) : List Char → Prop
  | short {e : Char} : shortEscape? e = some c → EscapeForm c ['\\', e]
  | byNumber {h₁ h₂ h₃ h₄ : Char} : hexChar? h₁ h₂ h₃ h₄ = some c →
      EscapeForm c ['\\', 'u', h₁, h₂, h₃, h₄]
  | itself : c ≠ '"' → c ≠ '\\' → 0x20 ≤ c.toNat → EscapeForm c [c]

theorem escapeForm_escape (c : Char) : EscapeForm c (escape c) := by
  unfold escape
  split
  · next h => exact .short (by rw [h]; rfl)
  split
  · next h => exact .short (by rw [h]; rfl)
  split
  · next h => exact .short (by rw [h]; rfl)
  split
  · next h => exact .short (by rw [h]; rfl)
  split
  · next h => exact .short (by rw [h]; rfl)
  split
  · next h => exact .short (by rw [h]; rfl)
  split
  · next h => exact .short (by rw [h]; rfl)
  split
  · next h => exact .byNumber (hexChar?_hexDigit h)
  · next hquote hback _ _ _ _ _ h => exact .itself hquote hback (Nat.not_lt.mp h)

/-- **A character is read from each of its forms.** -/
theorem contents?_append {c : Char} {form : List Char} (h : EscapeForm c form) (cs : List Char) :
    contents? (form ++ cs) = (contents? cs).map (prepend c) := by
  cases h with
  | @short e he =>
    -- `u` is no short escape, so the clause for numbers does not apply
    have hu : e ≠ 'u' := by
      rintro rfl
      cases he
    show contents? ('\\' :: e :: cs) = _
    rw [contents?, he]
    · rfl
    · intro a b c d cs hcs
      exact absurd hcs hu
  | byNumber h =>
    show contents? ('\\' :: 'u' :: _ :: _ :: _ :: _ :: cs) = _
    rw [contents?, h]
    rfl
  | itself hquote hback h =>
    show contents? (c :: cs) = _
    rw [contents?, if_neg (Nat.not_lt.mpr h)]
    · exact hquote
    · intro a b c d cs hcs
      exact absurd hcs hback
    · intro e cs hcs
      exact absurd hcs hback

/-- The characters of a text, each in one of its forms. -/
inductive SpellsContents : List Char → List Char → Prop
  | nil : SpellsContents [] []
  | cons {c : Char} {s form cs : List Char} :
      EscapeForm c form → SpellsContents s cs → SpellsContents (c :: s) (form ++ cs)

/-- A text between quotes. -/
inductive SpellsString (s : String) : List Char → Prop
  | mk {cs : List Char} : SpellsContents s.toList cs → SpellsString s ('"' :: (cs ++ ['"']))

theorem contents?_of_spells {s cs : List Char} (h : SpellsContents s cs) (rest : List Char) :
    contents? (cs ++ '"' :: rest) = some (s, rest) := by
  induction h with
  | nil => rfl
  | cons hform _ ih =>
    rw [List.append_assoc, contents?_append hform, ih]
    rfl

/-- **A text is read from each of its literals**, and so is what follows it. -/
theorem literal?_of_spells {s : String} {cs : List Char} (h : SpellsString s cs)
    (rest : List Char) : literal? (cs ++ rest) = some (s, rest) := by
  obtain ⟨h⟩ := h
  rw [List.cons_append, List.append_assoc, List.singleton_append, literal?,
    contents?_of_spells h]
  simp

/-! ## What is written -/

theorem toList_quote (s : String) :
    (quote s).toList = '"' :: (s.toList.flatMap escape ++ ['"']) := String.toList_ofList

theorem spellsContents_flatMap_escape (s : List Char) : SpellsContents s (s.flatMap escape) := by
  induction s with
  | nil => exact .nil
  | cons c s ih => exact .cons (escapeForm_escape c) ih

theorem spellsString_quote (s : String) : SpellsString s (quote s).toList := by
  rw [toList_quote]
  exact .mk (spellsContents_flatMap_escape s.toList)

/-- **A text is read back from its literal**, and so is what follows it. -/
@[simp]
theorem literal?_quote (s : String) (rest : List Char) :
    literal? ((quote s).toList ++ rest) = some (s, rest) :=
  literal?_of_spells (spellsString_quote s) rest

/-! ## No control characters -/

theorem le_toNat_of_hexValue? {c : Char} {n : Nat} (h : hexValue? c = some n) : 0x20 ≤ c.toNat := by
  unfold hexValue? at h
  split at h
  · next hc => exact Nat.le_trans (by decide) hc.1
  split at h
  · next hc => exact Nat.le_trans (by decide) hc.1
  split at h
  · next hc => exact Nat.le_trans (by decide) hc.1
  · cases h

theorem le_toNat_of_shortEscape? {c d : Char} (h : shortEscape? c = some d) : 0x20 ≤ c.toNat := by
  unfold shortEscape? at h
  split at h
  case h_9 => cases h
  all_goals decide

/-- A form of a character holds none below U+0020. -/
theorem EscapeForm.le_toNat {c : Char} {form : List Char} (h : EscapeForm c form) :
    ∀ d ∈ form, 0x20 ≤ d.toNat := by
  cases h with
  | short he => simp [le_toNat_of_shortEscape? he]
  | byNumber h =>
    simp only [hexChar?, Option.bind_eq_bind, Option.bind_eq_some_iff] at h
    obtain ⟨n₁, hn₁, n₂, hn₂, n₃, hn₃, n₄, hn₄, -⟩ := h
    simp [le_toNat_of_hexValue? hn₁, le_toNat_of_hexValue? hn₂, le_toNat_of_hexValue? hn₃,
      le_toNat_of_hexValue? hn₄]
  | itself _ _ h => simpa using h

theorem le_toNat_of_mem_quote {s : String} {c : Char} (hc : c ∈ (quote s).toList) :
    0x20 ≤ c.toNat := by
  have hquote : 0x20 ≤ '"'.toNat := by decide
  rw [toList_quote, List.mem_cons, List.mem_append, List.mem_singleton] at hc
  rcases hc with rfl | hc | rfl
  · exact hquote
  · obtain ⟨d, -, hd⟩ := List.mem_flatMap.mp hc
    exact (escapeForm_escape d).le_toNat c hd
  · exact hquote

/-- A literal stands on one line, whatever its text. -/
theorem newline_notMem_quote (s : String) : '\n' ∉ (quote s).toList := by
  intro h
  exact absurd (le_toNat_of_mem_quote h) (by decide)

end Formwork.Json
