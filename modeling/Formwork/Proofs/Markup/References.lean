import Formwork.Proofs.Markup.Tokens
import Formwork.Proofs.Text.Cuts

/-!
# Reading character references

A text with references is read from left to right, in one pass: where a reference begins, its character
is put down and the reading goes on behind it. What was put down is not read again, so a text that
looks like a reference comes back as it was. An `&` that begins no reference is only a character.

* `unescape` — a text with its references replaced.
* `EscapeForm` — how a character is written: as a reference or as itself.
* `Escaped` — the texts in which every `&` begins a reference and no other mark stands. They are the
  texts that escaping gives.

**Main statement**: `escape_loses_nothing`.
-/

namespace Formwork.Markup

variable {c : Char} {name form cs ds rest : List Char}

/-! ## References -/

/-- The names of the references and the characters that they stand for. -/
def references : List (String × Char) :=
  [("amp", '&'), ("lt", '<'), ("gt", '>'), ("quot", '"'), ("#39", '\'')]

theorem referenced?_eq_lookup : referenced? name = references.lookup (String.ofList name) := rfl

theorem mem_references (h : referenced? name = some c) : (String.ofList name, c) ∈ references := by
  rw [referenced?_eq_lookup, List.lookup_eq_some_iff] at h
  obtain ⟨before, after, hsplit, -⟩ := h
  simp [hsplit]

/-- The characters that are written as references. -/
def marks : List Char := ['&', '<', '>', '"', '\'']

/-- A name holds no mark, and it ends at the semicolon behind it. -/
theorem notMem_name (h : referenced? name = some c) : ∀ m ∈ ';' :: marks, m ∉ name := by
  intro m hm hmem
  have hall : ∀ e ∈ references, (e.1.toList.all fun d => !(';' :: marks).contains d) = true := by
    decide
  have hname := List.all_eq_true.mp (hall _ (mem_references h)) m (by rwa [String.toList_ofList])
  rw [List.contains_iff_mem.mpr hm] at hname
  cases hname

/-- The character of the reference at the front of a text, and what follows it. -/
def reference? : List Char → Option (Char × List Char)
  | '&' :: cs =>
    if ';' ∈ cs then (referenced? (Text.before ';' cs)).map fun c => (c, Text.behind ';' cs) else none
  | _ => none

/-- **A reference is read** where a text begins with one, and nothing else is. -/
theorem reference?_eq_some_iff : reference? cs = some (c, rest) ↔
    ∃ name, referenced? name = some c ∧ cs = '&' :: (name ++ ';' :: rest) := by
  constructor
  · intro h
    unfold reference? at h
    split at h
    · next cs =>
      split at h
      · next hmem =>
        obtain ⟨d, hd, heq⟩ := Option.map_eq_some_iff.mp h
        obtain ⟨rfl, rfl⟩ := Prod.mk.inj heq
        exact ⟨_, hd, by rw [Text.before_append_behind hmem]⟩
      · cases h
    · cases h
  · rintro ⟨name, hname, rfl⟩
    have hends := notMem_name hname ';' List.mem_cons_self
    rw [reference?, if_pos (by simp), Text.before_append hends, Text.behind_append hends, hname]
    rfl

theorem reference?_cons_eq_none (h : c ≠ '&') (cs : List Char) : reference? (c :: cs) = none := by
  unfold reference?
  split
  · next heq => exact absurd (List.cons.inj heq).1 h
  · rfl

theorem length_lt_of_reference? (h : reference? cs = some (c, rest)) : rest.length < cs.length := by
  obtain ⟨name, -, rfl⟩ := reference?_eq_some_iff.mp h
  rw [List.length_cons, List.length_append, List.length_cons]
  omega

/-! ## The reader -/

/-- The characters of a text with its references replaced. -/
def unescapeChars : List Char → List Char
  | [] => []
  | c :: cs =>
    match _hread : reference? (c :: cs) with
    | some (d, rest) => d :: unescapeChars rest
    | none => c :: unescapeChars cs
termination_by cs => cs.length
decreasing_by
  · exact length_lt_of_reference? _hread
  · exact Nat.lt_succ_self _

/-- A text with its references replaced, from left to right. -/
def unescape (s : String) : String := String.ofList (unescapeChars s.toList)

theorem unescapeChars_reference (h : referenced? name = some c) (rest : List Char) :
    unescapeChars ('&' :: (name ++ ';' :: rest)) = c :: unescapeChars rest := by
  have hread : reference? ('&' :: (name ++ ';' :: rest)) = some (c, rest) :=
    reference?_eq_some_iff.mpr ⟨name, h, rfl⟩
  rw [unescapeChars]
  split
  · next d rest' heq =>
    obtain ⟨rfl, rfl⟩ := Prod.mk.inj (Option.some.inj (hread.symm.trans heq))
    rfl
  · next heq => cases hread.symm.trans heq

theorem unescapeChars_cons (h : c ≠ '&') (cs : List Char) :
    unescapeChars (c :: cs) = c :: unescapeChars cs := by
  have hread := reference?_cons_eq_none h cs
  rw [unescapeChars]
  split
  · next d rest' heq => cases hread.symm.trans heq
  · rfl

/-! ## How a character is written -/

/-- The two forms of a character: a reference, and the character itself. -/
inductive EscapeForm (c : Char) : List Char → Prop
  | reference {name : List Char} (h : referenced? name = some c) :
      EscapeForm c ('&' :: (name ++ [';']))
  | itself (h : c ∉ marks) : EscapeForm c [c]

theorem escapeForm_escapeChar (c : Char) : EscapeForm c (escapeChar c) := by
  unfold escapeChar
  split
  · next h => exact .reference (h ▸ show referenced? "amp".toList = some '&' from rfl)
  split
  · next h => exact .reference (h ▸ show referenced? "lt".toList = some '<' from rfl)
  split
  · next h => exact .reference (h ▸ show referenced? "gt".toList = some '>' from rfl)
  split
  · next h => exact .reference (h ▸ show referenced? "quot".toList = some '"' from rfl)
  split
  · next h => exact .reference (h ▸ show referenced? "#39".toList = some '\'' from rfl)
  · next hamp hlt hgt hquot hapos => exact .itself (by simp [marks, hamp, hlt, hgt, hquot, hapos])

/-- A character has one form. -/
theorem EscapeForm.eq_escapeChar (h : EscapeForm c form) : form = escapeChar c := by
  cases h with
  | @reference name hname =>
    have hall : ∀ e ∈ references, '&' :: (e.1.toList ++ [';']) = escapeChar e.2 := by decide
    simpa using hall _ (mem_references hname)
  | itself hmark =>
    simp only [marks, List.mem_cons, List.not_mem_nil, or_false, not_or] at hmark
    obtain ⟨hamp, hlt, hgt, hquot, hapos⟩ := hmark
    simp [escapeChar, hamp, hlt, hgt, hquot, hapos]

/-- **A character is read back from its form**, whatever follows it. -/
theorem EscapeForm.unescapeChars_append (h : EscapeForm c form) (cs : List Char) :
    unescapeChars (form ++ cs) = c :: unescapeChars cs := by
  cases h with
  | @reference name hname =>
    rw [List.cons_append, List.append_assoc]
    exact unescapeChars_reference hname cs
  | itself hmark =>
    have hamp : c ≠ '&' := by
      rintro rfl
      exact hmark (by decide)
    exact unescapeChars_cons hamp cs

theorem unescapeChars_flatMap_escapeChar (cs : List Char) :
    unescapeChars (cs.flatMap escapeChar) = cs := by
  induction cs with
  | nil => rw [List.flatMap_nil, unescapeChars]
  | cons c cs ih =>
    rw [List.flatMap_cons, (escapeForm_escapeChar c).unescapeChars_append, ih]

theorem unescape_escape (s : String) : unescape (escape s) = s := by
  rw [unescape, escape, String.toList_ofList, unescapeChars_flatMap_escapeChar, String.ofList_toList]

theorem escape_append (s t : String) : escape (s ++ t) = escape s ++ escape t := by
  simp only [escape, String.toList_append, List.flatMap_append, String.ofList_append]

/-! ## Escaped texts -/

/-- Every `&` begins a reference, and no other mark stands in the text. -/
structure Escaped (cs : List Char) : Prop where
  bare : ∀ c ∈ ['<', '>', '"', '\''], c ∉ cs
  amp : ∀ u v, cs = u ++ '&' :: v →
    ∃ name c rest, referenced? name = some c ∧ v = name ++ ';' :: rest

theorem Escaped.nil : Escaped [] := ⟨by simp, by simp⟩

theorem Escaped.append (hcs : Escaped cs) (hds : Escaped ds) : Escaped (cs ++ ds) where
  bare m hm hmem := by
    rcases List.mem_append.mp hmem with h | h
    · exact hcs.bare m hm h
    · exact hds.bare m hm h
  amp u v heq := by
    -- the `&` stands in the second text, or in the first with the whole reference behind it
    rcases List.append_eq_append_iff.mp heq with ⟨u', -, hu⟩ | ⟨v', hu, hv⟩
    · exact hds.amp u' v hu
    · cases v' with
      | nil => exact hds.amp [] v hv.symm
      | cons d v' =>
        obtain ⟨rfl, rfl⟩ := List.cons.inj hv
        obtain ⟨name, c, rest, hname, rfl⟩ := hcs.amp u v' hu
        exact ⟨name, c, rest ++ ds, hname, by simp⟩

theorem Escaped.of_append (h : Escaped (cs ++ ds)) : Escaped ds where
  bare m hm hmem := h.bare m hm (List.mem_append_right cs hmem)
  amp u v heq := h.amp (cs ++ u) v (by rw [heq, List.append_assoc])

theorem EscapeForm.escaped (h : EscapeForm c form) : Escaped form where
  bare m hm hmem := by
    have hmark : m ∈ marks := List.mem_cons_of_mem _ hm
    cases h with
    | @reference name hname =>
      have hamp : m ≠ '&' := by
        rintro rfl
        exact absurd hm (by decide)
      have hends : m ≠ ';' := by
        rintro rfl
        exact absurd hm (by decide)
      simp [hamp, hends, notMem_name hname m (List.mem_cons_of_mem _ hmark)] at hmem
    | itself hbare => exact hbare (List.mem_singleton.mp hmem ▸ hmark)
  amp u v heq := by
    have hmark : '&' ∈ marks := by decide
    cases h with
    | @reference name hname =>
      cases u with
      | nil => exact ⟨name, c, [], hname, (List.cons.inj heq).2.symm⟩
      | cons d u =>
        -- a reference holds no second `&`
        have hmem : '&' ∈ name ++ [';'] := by simp [(List.cons.inj heq).2]
        simp [notMem_name hname '&' (List.mem_cons_of_mem _ hmark)] at hmem
    | itself hbare =>
      have hmem : '&' ∈ [c] := by simp [heq]
      exact absurd (List.mem_singleton.mp hmem ▸ hmark) hbare

theorem escaped_flatMap_escapeChar (cs : List Char) : Escaped (cs.flatMap escapeChar) := by
  induction cs with
  | nil => exact .nil
  | cons c cs ih => exact (escapeForm_escapeChar c).escaped.append ih

theorem escaped_escape (s : String) : Escaped (escape s).toList := by
  rw [escape, String.toList_ofList]
  exact escaped_flatMap_escapeChar s.toList

/-- An escaped text is made of the forms of the characters that are read from it. -/
theorem Escaped.flatMap_unescapeChars (h : Escaped cs) :
    (unescapeChars cs).flatMap escapeChar = cs := by
  fun_induction unescapeChars cs with
  | case1 => rfl
  | case2 c cs d rest hread ih =>
    obtain ⟨name, hname, heq⟩ := reference?_eq_some_iff.mp hread
    have hsplit : c :: cs = '&' :: (name ++ [';']) ++ rest := by simp [heq]
    rw [hsplit] at h ⊢
    rw [List.flatMap_cons, ih h.of_append, ← (EscapeForm.reference hname).eq_escapeChar]
  | case3 c cs hread ih =>
    have hamp : c ≠ '&' := by
      rintro rfl
      obtain ⟨name, d, rest, hname, rfl⟩ := h.amp [] cs rfl
      cases hread.symm.trans (reference?_eq_some_iff.mpr ⟨name, hname, rfl⟩)
    have hmark : c ∉ marks := by
      intro hmem
      rcases List.mem_cons.mp hmem with hc | hc
      · exact hamp hc
      · exact h.bare c hc List.mem_cons_self
    have hrest : Escaped cs := .of_append (show Escaped ([c] ++ cs) from h)
    rw [List.flatMap_cons, ih hrest, ← (EscapeForm.itself hmark).eq_escapeChar]
    rfl

theorem escaped_iff (t : String) : Escaped t.toList ↔ escape (unescape t) = t := by
  constructor
  · intro h
    rw [escape, unescape, String.toList_ofList, h.flatMap_unescapeChars, String.ofList_toList]
  · intro h
    rw [← h]
    exact escaped_escape _

/-- **Escaping loses nothing.** In an escaped text every `&` begins a reference and no other mark
stands. Reading the references once, from left to right, gives back the text, even if it looks as if
it held references itself. Texts are escaped piece by piece. And every text without a bare mark is
what is read from it, escaped. -/
theorem escape_loses_nothing (s t : String) :
    Escaped (escape s).toList ∧ unescape (escape s) = s ∧
    escape (s ++ t) = escape s ++ escape t ∧
    (Escaped t.toList ↔ escape (unescape t) = t) :=
  ⟨escaped_escape s, unescape_escape s, escape_append s t, escaped_iff t⟩

/-- What looks like a reference, beside the character that such a reference stands for. -/
example : escape "&lt; <" = "&amp;lt; &lt;" := by decide

example : unescape "&amp;lt; &lt;" = "&lt; <" := by cbv

end Formwork.Markup
