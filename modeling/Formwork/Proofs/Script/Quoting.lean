import Formwork.Proofs.Script.Object

/-!
# Quoting texts and keys

A script holds the texts of a form as string literals. A key stands bare where it is an identifier
and as a literal elsewhere. Both forms keep everything, and no key has the form of another.

* `Json.upToQuote?` — where a literal ends for a scanner that knows nothing of it but that a
  backslash escapes the character behind it.
* `propertyKey_inj`, `member_inj` — different keys are written differently.

**Main statement**: `quoting_reads_back`.
-/

namespace Formwork

/-- What is read back from the texts of some values is the same where the texts are. -/
theorem eq_of_read {α β : Type} {text : α → String} {read : List Char → Option (β × List Char)}
    {value : α → β} (h : ∀ a, read (text a).toList = some (value a, [])) {a b : α}
    (hab : text a = text b) : value a = value b := by
  have hread := h a
  rw [hab, h b, Option.some_inj, Prod.mk.injEq] at hread
  exact hread.1.symm

/-! ## The end of a literal -/

namespace Json

/-- The characters up to the first quote that is not escaped, and what follows that quote. A backslash
escapes the character behind it. -/
def upToQuote? : List Char → Option (List Char × List Char)
  | '"' :: cs => some ([], cs)
  | '\\' :: c :: cs => (upToQuote? cs).map fun p => ('\\' :: c :: p.1, p.2)
  | c :: cs => (upToQuote? cs).map (prepend c)
  | [] => none

theorem upToQuote?_cons {c : Char} (hquote : c ≠ '"') (hback : c ≠ '\\') {cs body rest : List Char}
    (h : upToQuote? cs = some (body, rest)) : upToQuote? (c :: cs) = some (c :: body, rest) := by
  rw [upToQuote?, h]
  · rfl
  · exact hquote
  · intro d ds hc
    exact absurd hc hback

theorem upToQuote?_escaped (c : Char) {cs body rest : List Char}
    (h : upToQuote? cs = some (body, rest)) :
    upToQuote? ('\\' :: c :: cs) = some ('\\' :: c :: body, rest) := by
  rw [upToQuote?, h]
  rfl

/-- The scanner passes over the forms of a character. -/
theorem EscapeForm.upToQuote?_append {c : Char} {form : List Char} (hform : EscapeForm c form)
    {cs body rest : List Char} (h : upToQuote? cs = some (body, rest)) :
    upToQuote? (form ++ cs) = some (form ++ body, rest) := by
  cases hform with
  | short => exact upToQuote?_escaped _ h
  | @byNumber h₁ h₂ h₃ h₄ hc =>
    -- the backslash takes the `u` with it, and a digit is neither a quote nor a backslash
    have hdigit : ∀ {d : Char} {n : Nat}, hexValue? d = some n → d ≠ '"' ∧ d ≠ '\\' := by
      intro d n hd
      constructor
      · rintro rfl
        cases hd
      · rintro rfl
        cases hd
    simp only [hexChar?, Option.bind_eq_bind, Option.bind_eq_some_iff] at hc
    obtain ⟨n₁, hn₁, n₂, hn₂, n₃, hn₃, n₄, hn₄, -⟩ := hc
    have h := upToQuote?_cons (hdigit hn₄).1 (hdigit hn₄).2 h
    have h := upToQuote?_cons (hdigit hn₃).1 (hdigit hn₃).2 h
    have h := upToQuote?_cons (hdigit hn₂).1 (hdigit hn₂).2 h
    have h := upToQuote?_cons (hdigit hn₁).1 (hdigit hn₁).2 h
    exact upToQuote?_escaped 'u' h
  | itself hquote hback => exact upToQuote?_cons hquote hback h

/-- **The quote that ends a literal is the first that is not escaped.** -/
theorem upToQuote?_of_spells {s cs : List Char} (h : SpellsContents s cs) (rest : List Char) :
    upToQuote? (cs ++ '"' :: rest) = some (cs, rest) := by
  induction h with
  | nil => rfl
  | cons hform _ ih =>
    rw [List.append_assoc]
    exact hform.upToQuote?_append ih

end Json

/-! ## Keys -/

namespace Script

theorem breaks_nil : Breaks [] := by
  intro c hc
  cases hc

theorem key?_toList_propertyKey (key : String) :
    key? (propertyKey key).toList = some (key, []) := by
  simpa using key?_propertyKey key breaks_nil

theorem propertyKey_inj {j k : String} : propertyKey j = propertyKey k ↔ j = k :=
  ⟨eq_of_read key?_toList_propertyKey, congrArg propertyKey⟩

theorem member?_toList_member (target key : String) :
    member? target (member target key).toList = some (key, []) := by
  simpa using member?_member target key breaks_nil

theorem member_inj {target j k : String} : member target j = member target k ↔ j = k :=
  ⟨eq_of_read (member?_toList_member target), congrArg (member target)⟩

/-- Behind the object, an access is read back as its key. -/
theorem exists_access (target key : String) :
    ∃ access, member target key = target ++ access ∧ access? access.toList = some (key, []) := by
  obtain ⟨cs, hcs⟩ := exists_toList_member target key
  have hread := member?_toList_member target key
  rw [member?, hcs, behind?_eq_some_iff.mpr rfl, Option.bind_some] at hread
  refine ⟨String.ofList cs, ?_, by rwa [String.toList_ofList]⟩
  rw [← String.toList_inj, hcs, String.toList_append, String.toList_ofList]

/-! ## Nothing is lost -/

/-- **Texts and keys are read back from a script.** A literal stands between two quotes, the second of
which is the first that is not escaped, holds no control character and is read as its text. A key
and an access to a property are read as the key, in the bare form and in the quoted one, and so they
tell keys apart. -/
theorem quoting_reads_back (s target j k : String) :
    (∃ body, (Json.quote s).toList = '"' :: (body ++ ['"']) ∧
      Json.upToQuote? (body ++ ['"']) = some (body, [])) ∧
    (∀ c ∈ (Json.quote s).toList, 0x20 ≤ c.toNat) ∧
    Json.literal? (Json.quote s).toList = some (s, []) ∧
    (propertyKey j = propertyKey k ↔ j = k) ∧
    (member target j = member target k ↔ j = k) ∧
    key? (propertyKey k).toList = some (k, []) ∧
    ∃ access, member target k = target ++ access ∧ access? access.toList = some (k, []) := by
  have hends := Json.upToQuote?_of_spells (Json.spellsContents_flatMap_escape s.toList) []
  have hread : Json.literal? (Json.quote s).toList = some (s, []) := by
    simpa using Json.literal?_quote s []
  exact ⟨⟨_, Json.toList_quote s, hends⟩, fun c hc => Json.le_toNat_of_mem_quote hc, hread,
    propertyKey_inj, member_inj, key?_toList_propertyKey k, exists_access target k⟩

end Script

end Formwork
