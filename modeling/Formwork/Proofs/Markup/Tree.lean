import Formwork.Proofs.Markup.Tokens
import Formwork.Proofs.Source.Lines
import Mathlib.Data.List.Forall2

/-!
# Markup trees as HTML

What a reader of HTML finds in a markup tree that was written down: the tags and texts of the tree in
their order, and between them the line breaks and margins of its layout.

A tree is written in two ways, so there are two views of it. Inside an element that holds text all is
on one line (`Element.inlineTokens`); elsewhere each tag has its line (`Element.tokenLines`).

* `Element.Plain` — the trees that are HTML: no expression, no condition, and names as names are.
* `Element.reads_render` — a plain tree is read back.
-/

namespace Formwork.Markup

/-! ## Trees without script -/

mutual

/-- The names of an element are names, and so it is with everything in it. -/
def Element.Plain : Element → Prop
  | .mk tag as cs => IsName tag ∧ (∀ a ∈ as, IsName a.name) ∧ plainAll cs

/-- A text, or an element that is plain. -/
def Node.Plain : Node → Prop
  | .element e => e.Plain
  | .text _ => True
  | .expr _ => False
  | .conditional _ _ => False

def plainAll : List Node → Prop
  | [] => True
  | c :: cs => c.Plain ∧ plainAll cs

end

theorem plainAll_iff {cs : List Node} : plainAll cs ↔ ∀ c ∈ cs, c.Plain := by
  induction cs with
  | nil => simp [plainAll]
  | cons c cs ih => rw [plainAll, ih, List.forall_mem_cons]

/-! ## On one line -/

mutual

/-- The tokens of an element that is written on one line. -/
def Element.inlineTokens : Element → List Token
  | .mk tag as [] => [.opening (tagOf tag as) true]
  | .mk tag as (c :: cs) =>
    .opening (tagOf tag as) false :: (c.inlineTokens ++ inlineTokensAll cs ++ [.closing tag])

def Node.inlineTokens : Node → List Token
  | .element e => e.inlineTokens
  | .text t => t.toList.map .char
  | .expr _ => []
  | .conditional _ _ => []

def inlineTokensAll : List Node → List Token
  | [] => []
  | c :: cs => c.inlineTokens ++ inlineTokensAll cs

end

mutual

/-- A plain element on one line is read back. -/
theorem Element.reads_inline {e : Element} (h : e.Plain) :
    Reads (e.inline .html) e.inlineTokens := by
  match e with
  | .mk tag as [] =>
    obtain ⟨htag, has, -⟩ := h
    exact reads_closedTag htag has
  | .mk tag as (c :: cs) =>
    obtain ⟨htag, has, hc, hcs⟩ := h
    have hchildren := (Node.reads_inline hc).append (reads_inlineAll hcs)
    have hrun := ((reads_openTag htag has).append hchildren).append (reads_closeTag htag)
    rw [← String.append_assoc] at hrun
    rw [Element.inline, Element.inlineTokens, ← List.cons_append]
    exact hrun

theorem Node.reads_inline {c : Node} (h : c.Plain) : Reads (c.inline .html) c.inlineTokens := by
  match c with
  | .element e => exact Element.reads_inline h
  | .text t => exact reads_escape t

theorem reads_inlineAll {cs : List Node} (h : plainAll cs) :
    Reads (inlineAll .html cs) (inlineTokensAll cs) := by
  match cs with
  | [] => exact reads_empty
  | c :: cs => exact (Node.reads_inline h.1).append (reads_inlineAll h.2)

end

/-! ## Over several lines -/

/-- The tokens of a margin. -/
def marginTokens (depth : Nat) : List Token := List.replicate (2 * depth) (.char ' ')

mutual

/-- The tokens on each line of an element that stands at a depth. -/
def Element.tokenLines (depth : Nat) : Element → List (List Token)
  | .mk tag as [] =>
    [marginTokens depth ++
      if voidTags.contains tag then [.opening (tagOf tag as) true]
      else [.opening (tagOf tag as) false, .closing tag]]
  | .mk tag as (c :: cs) =>
    if (c :: cs).any Node.isText then
      [marginTokens depth ++ Element.inlineTokens (.mk tag as (c :: cs))]
    else
      (marginTokens depth ++ [.opening (tagOf tag as) false]) ::
        (c.tokenLines (depth + 1) ++ tokenLinesAll (depth + 1) cs ++
          [marginTokens depth ++ [.closing tag]])

/-- The tokens on each line of a child in a block, which is no text. -/
def Node.tokenLines (depth : Nat) : Node → List (List Token)
  | .element e => e.tokenLines depth
  | .text _ => []
  | .expr _ => []
  | .conditional _ _ => []

def tokenLinesAll (depth : Nat) : List Node → List (List Token)
  | [] => []
  | c :: cs => c.tokenLines depth ++ tokenLinesAll depth cs

end

/-- The tokens of an element that is written on its own. -/
def Element.tokens (e : Element) : List Token := [Token.char '\n'].intercalate (e.tokenLines 0)

theorem tokenLinesAll_append (depth : Nat) (cs ds : List Node) :
    tokenLinesAll depth (cs ++ ds) = tokenLinesAll depth cs ++ tokenLinesAll depth ds := by
  induction cs with
  | nil => rfl
  | cons c cs ih => rw [List.cons_append, tokenLinesAll, ih, tokenLinesAll, List.append_assoc]

/-- The lines of an element with children and without text. -/
theorem Element.tokenLines_block (depth : Nat) (tag : String) (as : List Attr) {cs : List Node}
    (hne : cs ≠ []) (ht : cs.any Node.isText = false) :
    Element.tokenLines depth (.mk tag as cs) =
      (marginTokens depth ++ [.opening (tagOf tag as) false]) ::
        (tokenLinesAll (depth + 1) cs ++ [marginTokens depth ++ [.closing tag]]) := by
  cases cs with
  | nil => exact absurd rfl hne
  | cons c cs =>
    rw [Element.tokenLines, if_neg (by rw [ht]; decide)]
    rfl

theorem Element.tokens_of_tokenLines {e : Element} {first : List Token} {rest : List (List Token)}
    (h : e.tokenLines 0 = first :: rest) :
    e.tokens = first ++ rest.flatMap (Token.char '\n' :: ·) := by
  rw [Element.tokens, h]
  clear h
  induction rest generalizing first with
  | nil => simp
  | cons ts rest ih =>
    rw [List.intercalate_cons_of_ne_nil (List.cons_ne_nil _ _), ih, List.flatMap_cons]
    simp

theorem reads_margin (depth : Nat) : Reads (Source.margin depth) (marginTokens depth) := by
  have hspace : next (.text .content) ' ' = some ([.char ' '], .text .content) := rfl
  have hspaces : ∀ n, run (.text .content) (List.replicate n ' ') =
      some (List.replicate n (.char ' '), .text .content) := by
    intro n
    induction n with
    | zero => rfl
    | succ n ih => exact run_cons hspace ih
  rw [Reads, Source.margin, String.toList_ofList]
  exact hspaces (2 * depth)

/-- The line is read back together with its margin. -/
def LineReads (entry : Nat × String) (ts : List Token) : Prop :=
  Reads (Outline.entryLine entry) ts

theorem lineReads_of_reads {text : String} {ts : List Token} (hne : text ≠ "") (h : Reads text ts)
    (depth : Nat) : LineReads (depth, text) (marginTokens depth ++ ts) := by
  have hempty : text.isEmpty = false := by simpa using hne
  rw [LineReads, Outline.entryLine, Source.indented, hempty]
  exact (reads_margin depth).append h

theorem openTag_append_ne_empty (tag : String) (as : List Attr) (s : String) :
    openTag .html tag as ++ s ≠ "" := by
  intro he
  have hs := congrArg String.toList he
  simp [openTag] at hs

theorem closeTag_ne_empty (tag : String) : closeTag tag ≠ "" := by
  intro he
  have hs := congrArg String.toList he
  simp [closeTag] at hs

theorem lineReads_leaf {tag : String} {as : List Attr} (htag : IsName tag)
    (has : ∀ a ∈ as, IsName a.name) (depth : Nat) :
    List.Forall₂ LineReads (Outline.entriesAll depth (leaf .html tag as))
      (Element.tokenLines depth (.mk tag as [])) := by
  have hvoid := lineReads_of_reads (openTag_append_ne_empty tag as " />")
    (reads_closedTag htag has) depth
  have hpair := lineReads_of_reads
    (by rw [String.append_assoc]; exact openTag_append_ne_empty tag as (">" ++ closeTag tag))
    ((reads_openTag htag has).append (reads_closeTag htag)) depth
  rw [Element.tokenLines]
  by_cases hv : voidTags.contains tag = true
  · have hleaf : leaf .html tag as = [.line (openTag .html tag as ++ " />")] := if_pos hv
    rw [hleaf, if_pos hv]
    exact .cons hvoid .nil
  · have hleaf : leaf .html tag as = [.line (openTag .html tag as ++ ">" ++ closeTag tag)] :=
      if_neg hv
    rw [hleaf, if_neg hv]
    exact .cons hpair .nil

theorem lineReads_inline {tag : String} {as : List Attr} {c : Node} {cs : List Node}
    (h : Element.Plain (.mk tag as (c :: cs))) (depth : Nat) :
    LineReads (depth, Element.inline .html (.mk tag as (c :: cs)))
      (marginTokens depth ++ Element.inlineTokens (.mk tag as (c :: cs))) := by
  refine lineReads_of_reads ?_ (Element.reads_inline h) depth
  rw [Element.inline]
  simp only [String.append_assoc]
  exact openTag_append_ne_empty tag as _

/-- The lines of a block: the opening tag, the children one level deeper and the closing tag. -/
theorem entriesAll_block (depth : Nat) (tag : String) (as : List Attr) (parts : List Outline) :
    Outline.entriesAll depth
        (opening .html tag as "" ">" ++ [.deeper parts, .line (closeTag tag)]) =
      (depth, openTag .html tag as ++ ">") ::
        (Outline.entriesAll (depth + 1) parts ++ [(depth, closeTag tag)]) := by
  have hopening : opening .html tag as "" ">" = [.line (openTag .html tag as ++ ">")] := by
    simp [opening]
  rw [hopening]
  rfl

mutual

/-- The lines of a plain element are read back. -/
theorem Element.lineReads_outline {e : Element} (h : e.Plain) (depth : Nat) :
    List.Forall₂ LineReads (Outline.entriesAll depth (e.outline .html)) (e.tokenLines depth) := by
  match e with
  | .mk tag as [] => exact lineReads_leaf h.1 h.2.1 depth
  | .mk tag as (c :: cs) =>
    rw [Element.outline, Element.tokenLines]
    split
    · exact .cons (lineReads_inline h depth) .nil
    · next htext =>
      obtain ⟨htag, has, hc, hcs⟩ := h
      rw [Bool.not_eq_true, List.any_cons, Bool.or_eq_false_iff] at htext
      have hopening := lineReads_of_reads (openTag_append_ne_empty tag as ">")
        (reads_openTag htag has) depth
      have hclosing := lineReads_of_reads (closeTag_ne_empty tag) (reads_closeTag htag) depth
      have hchildren := List.rel_append (Node.lineReads_outline hc htext.1 (depth + 1))
        (lineReads_outlineAll hcs htext.2 (depth + 1))
      rw [entriesAll_block, Outline.entriesAll_append]
      exact .cons hopening (List.rel_append hchildren (.cons hclosing .nil))

theorem Node.lineReads_outline {c : Node} (h : c.Plain) (ht : c.isText = false) (depth : Nat) :
    List.Forall₂ LineReads (Outline.entriesAll depth (c.outline .html)) (c.tokenLines depth) := by
  match c with
  | .element e => exact Element.lineReads_outline h depth

theorem lineReads_outlineAll {cs : List Node} (h : plainAll cs) (ht : cs.any Node.isText = false)
    (depth : Nat) : List.Forall₂ LineReads (Outline.entriesAll depth (outlineAll .html cs))
      (tokenLinesAll depth cs) := by
  match cs with
  | [] => exact .nil
  | c :: cs =>
    rw [List.any_cons, Bool.or_eq_false_iff] at ht
    rw [outlineAll, Outline.entriesAll_append, tokenLinesAll]
    exact List.rel_append (Node.lineReads_outline h.1 ht.1 depth)
      (lineReads_outlineAll h.2 ht.2 depth)

end

/-- Lines that are read back one by one are read back with line feeds between them. -/
theorem run_lines {css : List (List Char)} {tss : List (List Token)}
    (h : List.Forall₂ (fun cs ts => run (.text .content) cs = some (ts, .text .content)) css tss) :
    run (.text .content) (['\n'].intercalate css) =
      some ([Token.char '\n'].intercalate tss, .text .content) := by
  induction h with
  | nil => rfl
  | @cons cs ts css tss hcs hcss ih =>
    -- a line feed stands behind every line but the last
    cases hcss with
    | nil => simpa using hcs
    | cons hcs' hcss' =>
      rw [List.intercalate_cons_of_ne_nil (List.cons_ne_nil _ _),
        List.intercalate_cons_of_ne_nil (List.cons_ne_nil _ _)]
      exact run_append (run_append hcs rfl) ih

/-- **A plain tree is read back from its HTML**: its tags and texts, and nothing else but the line
feeds and margins between them. -/
theorem Element.reads_render {e : Element} (h : e.Plain) : Reads (e.render .html) e.tokens := by
  have hlines := Element.lineReads_outline h 0
  rw [Reads, Element.render_eq, Outline.render_eq, String.toList_intercalate]
  refine run_lines ?_
  rw [List.forall₂_map_left_iff, List.forall₂_map_left_iff]
  exact hlines

/-- A text that looks like markup stays a text. -/
example : tokens? (Element.render .html (.mk "p" [attr "title" "\"><b>"] [.text "&lt;"])) = some
    [.opening ⟨"p", [("title", some "\"><b>")]⟩ false, .char '&', .char 'l', .char 't', .char ';',
      .closing "p"] := by decide

end Formwork.Markup
