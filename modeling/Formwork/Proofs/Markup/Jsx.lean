import Formwork.Proofs.Markup.Tokens
import Formwork.Proofs.Script.Quoting
import Formwork.Proofs.Text.Cuts

/-!
# Reading JSX

Readers for the two places of JSX in which texts of a form stand: the value of an attribute and the
text between tags. In both a text stands bare where nothing in it would mean something there, and as
a string literal of the script elsewhere, in braces.

What means something differs from place to place. A bare value ends at a quote; bare text ends at a
tag and holds no brace and no `>`. In both `&` begins a character reference, which the readers refuse,
and a backslash is only a character. The readers take a bare text as it stands, as JSX does while it
is on one line.

* `attribute?` — an attribute with a text, and what follows it.
* `childText?` — the text in front of a tag, and what follows it.

**Main statement**: `jsx_reads_back`.
-/

namespace Formwork.Markup

open Script (behind? behind?_eq_some_iff)

/-! ## The readers -/

/-- The text of a string literal in braces, and what follows them. -/
def bracedLiteral? (cs : List Char) : Option (String × List Char) := do
  let rest ← behind? ['{'] cs
  let (text, rest) ← Json.literal? rest
  let rest ← behind? ['}'] rest
  some (text, rest)

/-- A value in quotes, up to the next quote, and what follows that. It holds no reference. -/
def quotedValue? (cs : List Char) : Option (String × List Char) := do
  let rest ← behind? ['"'] cs
  let value := Text.before '"' rest
  if '"' ∈ rest ∧ '&' ∉ value then some (String.ofList value, Text.behind '"' rest) else none

/-- The name and the value of an attribute, and what follows it. -/
def attribute? (cs : List Char) : Option ((String × String) × List Char) := do
  let name := cs.takeWhile isNameChar
  let rest ← behind? ['='] (cs.dropWhile isNameChar)
  let (value, rest) ← (quotedValue? rest).or (bracedLiteral? rest)
  some ((String.ofList name, value), rest)

/-- The characters that mean something between tags. -/
def textMarks : List Char := ['{', '}', '<', '>', '&']

/-- The text up to the next character that means something. Only a tag may follow it. -/
def bareText? (cs : List Char) : Option (String × List Char) :=
  let rest := cs.dropWhile fun c => !textMarks.contains c
  if rest.head?.all (· = '<') then
    some (String.ofList (cs.takeWhile fun c => !textMarks.contains c), rest)
  else none

/-- The text in front of a tag or of the end, and what follows it. -/
def childText? (cs : List Char) : Option (String × List Char) :=
  (bracedLiteral? cs).or (bareText? cs)

/-! ## Both places -/

theorem notMem_of_mentions {marks : List Char} {s : String} (h : ¬mentions marks s = true) :
    ∀ c ∈ marks, c ∉ s.toList := by
  intro c hc hmem
  exact h (List.any_eq_true.mpr ⟨c, hmem, List.contains_iff_mem.mpr hc⟩)

theorem bracedLiteral?_braced (s : String) (rest : List Char) :
    bracedLiteral? ((braced (Json.quote s)).toList ++ rest) = some (s, rest) := by
  have hs : (braced (Json.quote s)).toList ++ rest =
      ['{'] ++ ((Json.quote s).toList ++ (['}'] ++ rest)) := by
    simp [braced]
  unfold bracedLiteral?
  rw [hs, behind?_eq_some_iff.mpr rfl]
  simp only [Option.bind_eq_bind, Option.bind_some, Json.literal?_quote, behind?_eq_some_iff.mpr rfl]

theorem bracedLiteral?_eq_none {cs : List Char} (h : cs.head? ≠ some '{') :
    bracedLiteral? cs = none := by
  have hb : behind? ['{'] cs = none := by
    rw [Option.eq_none_iff_forall_ne_some]
    intro rest hrest
    rw [behind?_eq_some_iff] at hrest
    exact h (by rw [hrest]; rfl)
  unfold bracedLiteral?
  rw [hb]
  rfl

/-! ## Attributes -/

theorem quotedValue?_append {v : String} (hquote : '"' ∉ v.toList) (hamp : '&' ∉ v.toList)
    (rest : List Char) : quotedValue? ('"' :: (v.toList ++ '"' :: rest)) = some (v, rest) := by
  have hb : behind? ['"'] ('"' :: (v.toList ++ '"' :: rest)) = some (v.toList ++ '"' :: rest) :=
    behind?_eq_some_iff.mpr rfl
  unfold quotedValue?
  rw [hb]
  simp only [Option.bind_eq_bind, Option.bind_some, Text.before_append hquote,
    Text.behind_append hquote]
  rw [if_pos ⟨by simp, hamp⟩, String.ofList_toList]

theorem quotedValue?_braced (e : String) (rest : List Char) :
    quotedValue? ((braced e).toList ++ rest) = none := by
  have hs : (braced e).toList ++ rest = '{' :: (e.toList ++ '}' :: rest) := by simp [braced]
  rw [hs]
  rfl

/-- An attribute is read in two steps: the name up to the `=`, and then the value. -/
theorem attribute?_append {name : String} (hname : ∀ c ∈ name.toList, isNameChar c = true)
    {v : String} {cs rest : List Char}
    (h : (quotedValue? cs).or (bracedLiteral? cs) = some (v, rest)) :
    attribute? (name.toList ++ '=' :: cs) = some ((name, v), rest) := by
  have hstop : isNameChar '=' = false := by decide
  have hb : behind? ['='] ('=' :: cs) = some cs := behind?_eq_some_iff.mpr rfl
  unfold attribute?
  rw [List.takeWhile_append_of_pos hname, List.dropWhile_append_of_pos hname,
    List.takeWhile_cons_of_neg (by simp [hstop]), List.dropWhile_cons_of_neg (by simp [hstop]), hb]
  simp only [Option.bind_eq_bind, Option.bind_some, h, List.append_nil, String.ofList_toList]

/-- **An attribute is read back**, with what follows it. -/
theorem attribute?_render {name : String} (hname : ∀ c ∈ name.toList, isNameChar c = true)
    (v : String) (rest : List Char) :
    attribute? (((attr name v).render .jsx).toList ++ rest) = some ((name, v), rest) := by
  by_cases h : mentions ['"', '&'] v = true
  · have hs : ((attr name v).render .jsx).toList ++ rest =
        name.toList ++ '=' :: ((braced (Json.quote v)).toList ++ rest) := by
      simp [attr, Attr.render, h]
    rw [hs]
    exact attribute?_append hname
      (by rw [quotedValue?_braced, bracedLiteral?_braced, Option.none_or])
  · have hs : ((attr name v).render .jsx).toList ++ rest =
        name.toList ++ '=' :: ('"' :: (v.toList ++ '"' :: rest)) := by
      simp [attr, Attr.render, h]
    have hfree := notMem_of_mentions h
    have hvalue := quotedValue?_append (hfree '"' (by decide)) (hfree '&' (by decide)) rest
    rw [hs]
    exact attribute?_append hname (by rw [hvalue, Option.some_or])

/-! ## Text between tags -/

/-- Behind the text stands a tag, or nothing. -/
def EndsText (cs : List Char) : Prop := ∀ c, cs.head? = some c → c = '<'

theorem endsText_nil : EndsText [] := by
  intro c hc
  cases hc

theorem endsText_tag (cs : List Char) : EndsText ('<' :: cs) := fun _ hc =>
  (Option.some.inj hc).symm

theorem bareText?_append {t : String} (h : ∀ c ∈ textMarks, c ∉ t.toList) {rest : List Char}
    (hrest : EndsText rest) : bareText? (t.toList ++ rest) = some (t, rest) := by
  have hall : ∀ c ∈ t.toList, (!textMarks.contains c) = true := by
    intro c hc
    rw [Bool.not_eq_true', ← Bool.not_eq_true, List.contains_iff_mem]
    exact fun hmark => h c hmark hc
  unfold bareText?
  rw [List.takeWhile_append_of_pos hall, List.dropWhile_append_of_pos hall]
  cases rest with
  | nil => simp
  | cons c rest =>
    obtain rfl : c = '<' := hrest c rfl
    have htake : ('<' :: rest).takeWhile (fun c => !textMarks.contains c) = [] :=
      List.takeWhile_cons_of_neg (by decide)
    have hdrop : ('<' :: rest).dropWhile (fun c => !textMarks.contains c) = '<' :: rest :=
      List.dropWhile_cons_of_neg (by decide)
    simp only [htake, hdrop, List.append_nil, String.ofList_toList]
    rfl

theorem head?_ne_of_notMem {t : String} (h : '{' ∉ t.toList) {rest : List Char}
    (hrest : EndsText rest) : (t.toList ++ rest).head? ≠ some '{' := by
  intro hhead
  cases hs : t.toList with
  | nil =>
    rw [hs, List.nil_append] at hhead
    exact absurd (hrest '{' hhead) (by decide)
  | cons c cs =>
    rw [hs] at h hhead
    obtain rfl : c = '{' := Option.some.inj hhead
    exact h List.mem_cons_self

/-- **A text is read back** in front of a tag and at the end. -/
theorem childText?_renderText (t : String) {rest : List Char} (hrest : EndsText rest) :
    childText? ((renderText .jsx t).toList ++ rest) = some (t, rest) := by
  unfold childText?
  -- the brace of a literal is a mark, so a bare text is never taken for one
  by_cases h : mentions textMarks t = true
  · have hs : renderText .jsx t = braced (Json.quote t) := if_pos h
    rw [hs, bracedLiteral?_braced, Option.some_or]
  · have hs : renderText .jsx t = t := if_neg h
    have hfree := notMem_of_mentions h
    rw [hs, bracedLiteral?_eq_none (head?_ne_of_notMem (hfree '{' (by decide)) hrest),
      bareText?_append hfree hrest, Option.none_or]

/-! ## Nothing is lost -/

/-- **Texts are read back from JSX**: as the value of an attribute whose name has only letters, digits
and dashes, in front of anything, and between tags, at the end and in front of a tag. So different
texts are written differently in each place. -/
theorem jsx_reads_back {name : String} (hname : ∀ c ∈ name.toList, isNameChar c = true)
    (v w t u : String) (rest : List Char) :
    attribute? (((attr name v).render .jsx).toList ++ rest) = some ((name, v), rest) ∧
    childText? (renderText .jsx t).toList = some (t, []) ∧
    childText? ((renderText .jsx t).toList ++ '<' :: rest) = some (t, '<' :: rest) ∧
    ((attr name v).render .jsx = (attr name w).render .jsx ↔ v = w) ∧
    (renderText .jsx t = renderText .jsx u ↔ t = u) := by
  have hattr : ∀ v, attribute? ((attr name v).render .jsx).toList = some ((name, v), []) := by
    intro v
    simpa using attribute?_render hname v []
  have htext : ∀ t, childText? (renderText .jsx t).toList = some (t, []) := by
    intro t
    simpa using childText?_renderText t endsText_nil
  refine ⟨attribute?_render hname v rest, htext t, childText?_renderText t (endsText_tag rest), ?_, ?_⟩
  · exact ⟨fun h => (Prod.mk.inj (eq_of_read hattr h)).2, fun h => by rw [h]⟩
  · exact ⟨eq_of_read htext, fun h => by rw [h]⟩

/-- A value with a quote in it, and texts of which one looks like the literal of the other. -/
theorem jsx_reads_back_quoted :
    (∀ c ∈ "title".toList, isNameChar c = true) ∧
    attribute? (((attr "title" "\"a\" & b").render .jsx).toList ++ " />".toList) =
      some (("title", "\"a\" & b"), " />".toList) ∧
    childText? (renderText .jsx "<a>").toList = some ("<a>", []) ∧
    childText? ((renderText .jsx "<a>").toList ++ '<' :: " />".toList) =
      some ("<a>", '<' :: " />".toList) ∧
    ((attr "title" "\"a\" & b").render .jsx = (attr "title" "a").render .jsx ↔
      "\"a\" & b" = "a") ∧
    (renderText .jsx "<a>" = renderText .jsx "\x7b\"<a>\"\x7d" ↔
      "<a>" = "\x7b\"<a>\"\x7d") :=
  have hname : ∀ c ∈ "title".toList, isNameChar c = true := List.all_eq_true.mp (by decide)
  ⟨hname, jsx_reads_back hname "\"a\" & b" "a" "<a>" "\x7b\"<a>\"\x7d" " />".toList⟩

end Formwork.Markup
