import Formwork.Proofs.Markup.Elements
import Formwork.Proofs.Markup.Nesting
import Formwork.Proofs.Markup.Tree

/-!
# Balanced HTML

Which markup trees come out of their HTML with all their tags in pairs.

By the text that is always so: each tag is closed where the tree says (`Nesting.read_tags`). But an
empty element inside of an element that holds text ends in `/>`, since all of that goes on one line,
and HTML does not see that it is closed unless it is void. On a line of its own an empty element gets
a pair of tags.

* `Element.tagTree` — the shape of a tree: its tags as they nest.
* `Element.tags` — the tags of a tree in their order, with the way in which each is written.
* `Element.Paired` — the trees without an empty element that is mistaken.

**Main statement**: `nested?_render`.
-/

namespace Formwork.Markup

/-! ## The tags of a tree -/

mutual

/-- The tags of an element and of what is in it. -/
def Element.tagTree : Element → TagTree
  | .mk tag as cs => .mk (tagOf tag as) (tagTreesAll cs)

/-- A text has no tags. -/
def Node.tagTrees : Node → List TagTree
  | .element e => [e.tagTree]
  | .text _ => []
  | .expr _ => []
  | .conditional _ _ => []

def tagTreesAll : List Node → List TagTree
  | [] => []
  | c :: cs => c.tagTrees ++ tagTreesAll cs

end

mutual

/-- The tags of an element in their order. `onLine` says that it stands on a line with text. -/
def Element.tags (onLine : Bool) : Element → List Token
  | .mk tag as [] =>
    if onLine || voidTags.contains tag then [.opening (tagOf tag as) true]
    else [.opening (tagOf tag as) false, .closing tag]
  | .mk tag as (c :: cs) =>
    .opening (tagOf tag as) false ::
      (c.tags (onLine || (c :: cs).any Node.isText) ++
        tagsAll (onLine || (c :: cs).any Node.isText) cs ++ [.closing tag])

def Node.tags (onLine : Bool) : Node → List Token
  | .element e => e.tags onLine
  | .text _ => []
  | .expr _ => []
  | .conditional _ _ => []

def tagsAll (onLine : Bool) : List Node → List Token
  | [] => []
  | c :: cs => c.tags onLine ++ tagsAll onLine cs

end

/-! ## The tags in the HTML -/

theorem tagsIn_append (ts us : List Token) : tagsIn (ts ++ us) = tagsIn ts ++ tagsIn us :=
  List.filter_append ..

theorem tagsIn_map_char (cs : List Char) : tagsIn (cs.map .char) = [] := by
  simp [tagsIn, List.filter_eq_nil_iff]

theorem tagsIn_marginTokens (depth : Nat) : tagsIn (marginTokens depth) = [] := by
  simp [tagsIn, marginTokens]

mutual

theorem Element.tagsIn_inlineTokens (e : Element) : tagsIn e.inlineTokens = e.tags true := by
  match e with
  | .mk tag as [] => rfl
  | .mk tag as (c :: cs) =>
    have hchildren : tagsIn (c.inlineTokens ++ inlineTokensAll cs) = c.tags true ++ tagsAll true cs := by
      rw [tagsIn_append, Node.tagsIn_inlineTokens c, tagsIn_inlineTokensAll cs]
    rw [Element.inlineTokens, Element.tags, Bool.true_or, ← hchildren]
    show _ :: tagsIn _ = _
    rw [tagsIn_append]
    rfl

theorem Node.tagsIn_inlineTokens (c : Node) : tagsIn c.inlineTokens = c.tags true := by
  match c with
  | .element e => exact Element.tagsIn_inlineTokens e
  | .text t => exact tagsIn_map_char t.toList
  | .expr _ => rfl
  | .conditional _ _ => rfl

theorem tagsIn_inlineTokensAll (cs : List Node) : tagsIn (inlineTokensAll cs) = tagsAll true cs := by
  match cs with
  | [] => rfl
  | c :: cs =>
    rw [inlineTokensAll, tagsIn_append, Node.tagsIn_inlineTokens c, tagsIn_inlineTokensAll cs]
    rfl

end

mutual

theorem Element.tagsIn_tokenLines (e : Element) (depth : Nat) :
    tagsIn (e.tokenLines depth).flatten = e.tags false := by
  match e with
  | .mk tag as [] =>
    rw [Element.tokenLines, Element.tags, List.flatten_singleton, tagsIn_append,
      tagsIn_marginTokens, Bool.false_or]
    split <;> rfl
  | .mk tag as (c :: cs) =>
    rw [Element.tokenLines, Element.tags, Bool.false_or]
    split
    · next htext =>
      have hline := Element.tagsIn_inlineTokens (.mk tag as (c :: cs))
      rw [Element.tags, Bool.true_or] at hline
      rw [List.flatten_singleton, tagsIn_append, tagsIn_marginTokens, htext]
      exact hline
    · next htext =>
      rw [Bool.not_eq_true] at htext
      have hchildren := Node.tagsIn_tokenLines c (depth + 1)
      have hrest := tagsIn_tokenLinesAll cs (depth + 1)
      simp only [List.flatten_cons, List.flatten_append, List.flatten_nil, tagsIn_append,
        tagsIn_marginTokens, hchildren, hrest, htext, List.nil_append, List.append_nil]
      rfl

theorem Node.tagsIn_tokenLines (c : Node) (depth : Nat) :
    tagsIn (c.tokenLines depth).flatten = c.tags false := by
  match c with
  | .element e => exact Element.tagsIn_tokenLines e depth
  | .text _ => rfl
  | .expr _ => rfl
  | .conditional _ _ => rfl

theorem tagsIn_tokenLinesAll (cs : List Node) (depth : Nat) :
    tagsIn (tokenLinesAll depth cs).flatten = tagsAll false cs := by
  match cs with
  | [] => rfl
  | c :: cs =>
    rw [tokenLinesAll, List.flatten_append, tagsIn_append, Node.tagsIn_tokenLines c depth,
      tagsIn_tokenLinesAll cs depth]
    rfl

end

/-- Line feeds are no tags. -/
theorem tagsIn_intercalate (tss : List (List Token)) :
    tagsIn ([Token.char '\n'].intercalate tss) = tagsIn tss.flatten := by
  induction tss with
  | nil => rfl
  | cons ts tss ih =>
    by_cases hne : tss = []
    · simp [hne]
    · rw [List.intercalate_cons_of_ne_nil hne, tagsIn_append, tagsIn_append, ih, List.flatten_cons,
        tagsIn_append]
      simp [tagsIn]

/-- The tags in the HTML of a tree. -/
theorem Element.tagsIn_tokens (e : Element) : tagsIn e.tokens = e.tags false := by
  rw [Element.tokens, tagsIn_intercalate, Element.tagsIn_tokenLines]

/-! ## Reading the tags of a tree -/

namespace Nesting

theorem add_append (s : Nesting) (us vs : List TagTree) : s.add (us ++ vs) = (s.add us).add vs := by
  simp [add]

/-- A pair of tags around complete trees. -/
theorem read_pair (s : Nesting) (tag : Tag) (us : List TagTree) :
    ((⟨[], (tag, s.complete) :: s.around⟩ : Nesting).add us).read byText [.closing tag.name] =
      some (s.add [.mk tag us]) := by
  simp [read, next, add]

mutual

/-- **By the text, the tags of an element are read as they nest**, in whichever way it is
written. -/
theorem read_tags (e : Element) (onLine : Bool) (s : Nesting) :
    s.read byText (e.tags onLine) = some (s.add [e.tagTree]) := by
  match e with
  | .mk tag as [] =>
    rw [Element.tags]
    split
    · rfl
    · exact read_pair s (tagOf tag as) []
  | .mk tag as (c :: cs) =>
    have hopening : s.next byText (.opening (tagOf tag as) false) =
        some ⟨[], (tagOf tag as, s.complete) :: s.around⟩ := rfl
    rw [Element.tags, read_cons, hopening, Option.bind_some, read_append, read_append,
      read_tags_node c, Option.bind_some, read_tagsAll cs, Option.bind_some, ← add_append]
    exact read_pair s (tagOf tag as) (tagTreesAll (c :: cs))

theorem read_tags_node (c : Node) (onLine : Bool) (s : Nesting) :
    s.read byText (c.tags onLine) = some (s.add c.tagTrees) := by
  match c with
  | .element e => exact read_tags e onLine s
  | .text _ => rfl
  | .expr _ => rfl
  | .conditional _ _ => rfl

theorem read_tagsAll (cs : List Node) (onLine : Bool) (s : Nesting) :
    s.read byText (tagsAll onLine cs) = some (s.add (tagTreesAll cs)) := by
  match cs with
  | [] => rfl
  | c :: cs =>
    rw [tagsAll, read_append, read_tags_node c, Option.bind_some, read_tagsAll cs, tagTreesAll,
      add_append]

end

end Nesting

/-! ## Which tags end in `/>` -/

/-- A void element has nothing in it, here and in all elements of the tree. -/
def Element.VoidsEmpty (e : Element) : Prop :=
  ∀ d ∈ e.elements, d.tag ∈ voidTags → d.children = []

/-- An empty element in an element that holds text is void. -/
def Element.Paired (e : Element) : Prop :=
  ∀ d ∈ e.elements, d.isInline = true → ∀ x ∈ d.elements, x.children = [] → x.tag ∈ voidTags

theorem byName_eq_true_iff {tag : Tag} {closed : Bool} :
    byName tag closed = true ↔ tag.name ∈ voidTags := List.contains_iff_mem

mutual

/-- An opening tag that does not end in `/>` is that of an element with a closing tag. -/
theorem Element.notMem_voidTags {e : Element} (hv : e.VoidsEmpty) {onLine : Bool} {t : Tag}
    (h : .opening t false ∈ e.tags onLine) : t.name ∉ voidTags := by
  match e with
  | .mk tag as [] =>
    rw [Element.tags] at h
    split at h
    · simp at h
    · next htag =>
      obtain rfl : t = tagOf tag as := by simpa using h
      intro hmem
      exact htag (Bool.or_eq_true_iff.mpr (.inr (List.contains_iff_mem.mpr hmem)))
  | .mk tag as (c :: cs) =>
    obtain ⟨hself, hchildren⟩ := List.forall_mem_cons.mp hv
    obtain ⟨hc, hcs⟩ := List.forall_mem_append.mp hchildren
    rw [Element.tags, List.mem_cons, List.mem_append, List.mem_append] at h
    rcases h with heq | (h | h) | h
    · obtain rfl : t = tagOf tag as := by simpa using heq
      exact fun hmem => absurd (hself hmem) (List.cons_ne_nil c cs)
    · exact Node.notMem_voidTags hc h
    · exact notMem_voidTags_of_tagsAll hcs h
    · simp at h

theorem Node.notMem_voidTags {c : Node}
    (hv : ∀ d ∈ c.elements, d.tag ∈ voidTags → d.children = []) {onLine : Bool} {t : Tag}
    (h : .opening t false ∈ c.tags onLine) : t.name ∉ voidTags := by
  match c with
  | .element e => exact Element.notMem_voidTags hv h

theorem notMem_voidTags_of_tagsAll {cs : List Node}
    (hv : ∀ d ∈ elementsAll cs, d.tag ∈ voidTags → d.children = []) {onLine : Bool} {t : Tag}
    (h : .opening t false ∈ tagsAll onLine cs) : t.name ∉ voidTags := by
  match cs with
  | c :: cs =>
    obtain ⟨hc, hcs⟩ := List.forall_mem_append.mp hv
    rw [tagsAll, List.mem_append] at h
    rcases h with h | h
    · exact Node.notMem_voidTags hc h
    · exact notMem_voidTags_of_tagsAll hcs h

end

/-- Every tag that ends in `/>` is that of a void element. -/
def OnlyVoidsClosed (ts : List Token) : Prop := ∀ t, .opening t true ∈ ts → t.name ∈ voidTags

theorem onlyVoidsClosed_append {ts us : List Token} :
    OnlyVoidsClosed (ts ++ us) ↔ OnlyVoidsClosed ts ∧ OnlyVoidsClosed us := by
  simp only [OnlyVoidsClosed, List.mem_append, or_imp, forall_and]

/-- What has to hold of the elements on a line with text, and of those in elements that hold text. -/
def PairedIn (onLine : Bool) (es : List Element) : Prop :=
  (onLine = true → ∀ x ∈ es, x.children = [] → x.tag ∈ voidTags) ∧
    ∀ d ∈ es, d.isInline = true → ∀ x ∈ d.elements, x.children = [] → x.tag ∈ voidTags

theorem pairedIn_append {onLine : Bool} {es ds : List Element} :
    PairedIn onLine (es ++ ds) ↔ PairedIn onLine es ∧ PairedIn onLine ds := by
  simp only [PairedIn, List.forall_mem_append, imp_and]
  exact and_and_and_comm

/-- An element with children is what its children are, on a line with text if it holds one. -/
theorem pairedIn_cons {onLine : Bool} {tag : String} {as : List Attr} {c : Node} {cs : List Node} :
    PairedIn onLine (Element.elements (.mk tag as (c :: cs))) ↔
      PairedIn (onLine || (c :: cs).any Node.isText) (elementsAll (c :: cs)) := by
  have hself : (∀ x ∈ Element.elements (.mk tag as (c :: cs)), x.children = [] → x.tag ∈ voidTags) ↔
      ∀ x ∈ elementsAll (c :: cs), x.children = [] → x.tag ∈ voidTags := by
    rw [Element.elements, List.forall_mem_cons]
    exact and_iff_right fun h => absurd h (List.cons_ne_nil c cs)
  unfold PairedIn
  rw [hself, Bool.or_eq_true]
  conv_lhs => rw [Element.elements]
  rw [List.forall_mem_cons, hself]
  show _ ∧ ((c :: cs).any Node.isText = true → _) ∧ _ ↔ _
  tauto

theorem onlyVoidsClosed_leaf (tag : String) (as : List Attr) (onLine : Bool) :
    OnlyVoidsClosed (Element.tags onLine (.mk tag as [])) ↔
      PairedIn onLine (Element.elements (.mk tag as [])) := by
  have hpaired : PairedIn onLine (Element.elements (.mk tag as [])) ↔
      (onLine = true → tag ∈ voidTags) := by
    simp [PairedIn, Element.elements, elementsAll, Element.isInline, Element.children, Element.tag]
  rw [hpaired, Element.tags]
  split
  · next h =>
    rw [Bool.or_eq_true, List.contains_iff_mem] at h
    have hclosed : OnlyVoidsClosed [.opening (tagOf tag as) true] ↔ tag ∈ voidTags := by
      simp [OnlyVoidsClosed, tagOf]
    rw [hclosed]
    exact ⟨fun hmem _ => hmem, fun himp => h.elim himp id⟩
  · next h =>
    rw [Bool.or_eq_true, not_or] at h
    exact iff_of_true (by simp [OnlyVoidsClosed]) fun honLine => absurd honLine h.1

mutual

/-- **Which trees have only void elements without a closing tag.** -/
theorem Element.onlyVoidsClosed_iff {e : Element} (he : e.Plain) (onLine : Bool) :
    OnlyVoidsClosed (e.tags onLine) ↔ PairedIn onLine e.elements := by
  match e with
  | .mk tag as [] => exact onlyVoidsClosed_leaf tag as onLine
  | .mk tag as (c :: cs) =>
    obtain ⟨-, -, hc, hcs⟩ := he
    have hends : ∀ ts, OnlyVoidsClosed (.opening (tagOf tag as) false :: (ts ++ [.closing tag])) ↔
        OnlyVoidsClosed ts := by
      intro ts
      simp [OnlyVoidsClosed]
    rw [pairedIn_cons, Element.tags, hends, onlyVoidsClosed_append, Node.onlyVoidsClosed_iff hc,
      onlyVoidsClosed_all_iff hcs, ← pairedIn_append]
    rfl

theorem Node.onlyVoidsClosed_iff {c : Node} (hc : c.Plain) (onLine : Bool) :
    OnlyVoidsClosed (c.tags onLine) ↔ PairedIn onLine c.elements := by
  match c with
  | .element e => exact Element.onlyVoidsClosed_iff hc onLine
  | .text _ => simp [Node.tags, Node.elements, OnlyVoidsClosed, PairedIn]

theorem onlyVoidsClosed_all_iff {cs : List Node} (hcs : plainAll cs) (onLine : Bool) :
    OnlyVoidsClosed (tagsAll onLine cs) ↔ PairedIn onLine (elementsAll cs) := by
  match cs with
  | [] => simp [tagsAll, elementsAll, OnlyVoidsClosed, PairedIn]
  | c :: cs =>
    rw [tagsAll, elementsAll, onlyVoidsClosed_append, pairedIn_append,
      Node.onlyVoidsClosed_iff hcs.1, onlyVoidsClosed_all_iff hcs.2]

end

/-! ## The HTML of a tree -/

theorem Element.onlyVoidsClosed_tokens {e : Element} (he : e.Plain) :
    OnlyVoidsClosed e.tokens ↔ e.Paired := by
  have htags : OnlyVoidsClosed e.tokens ↔ OnlyVoidsClosed (e.tags false) := by
    simp only [OnlyVoidsClosed, ← Element.tagsIn_tokens, opening_mem_tagsIn]
  rw [htags, Element.onlyVoidsClosed_iff he]
  exact and_iff_right fun h => nomatch h

/-- **When the HTML of a tree is balanced.** By the text its tags always nest in the shape of the
tree: each is closed in its place, by a closing tag or by its own end. To HTML, where only a void
element is without a closing tag, they do so exactly if each empty element is void that stands
inside of an element with text; and otherwise they do not nest at all. -/
theorem nested?_render {e : Element} (he : e.Plain) (hv : e.VoidsEmpty) :
    ∃ ts, tokens? (e.render .html) = some ts ∧
      nested? byText ts = some [e.tagTree] ∧
      (e.Paired → nested? byName ts = some [e.tagTree]) ∧
      (¬ e.Paired → nested? byName ts = none) := by
  have htext : nested? byText e.tokens = some [e.tagTree] := by
    rw [nested?_eq_some_iff, ← Nesting.read_tagsIn, Element.tagsIn_tokens, Nesting.read_tags]
    rfl
  have hopen : ∀ tag, .opening tag false ∈ e.tokens → byName tag false = false := by
    intro tag hmem
    rw [← opening_mem_tagsIn, Element.tagsIn_tokens] at hmem
    rw [Bool.eq_false_iff, Ne, byName_eq_true_iff]
    exact Element.notMem_voidTags hv hmem
  refine ⟨e.tokens, (Element.reads_render he).tokens?_eq, htext, fun hp => ?_, fun hp => ?_⟩
  · refine nested?_byName_of_byText htext hopen fun tag hmem => ?_
    exact byName_eq_true_iff.mpr ((Element.onlyVoidsClosed_tokens he).mpr hp tag hmem)
  · rw [← Element.onlyVoidsClosed_tokens he, OnlyVoidsClosed] at hp
    obtain ⟨tag, hnot⟩ := not_forall.mp hp
    obtain ⟨hmem, htag⟩ := Classical.not_imp.mp hnot
    refine nested?_byName_eq_none htext hopen hmem ?_
    rwa [Bool.eq_false_iff, Ne, byName_eq_true_iff]

/-- An empty element on a line of its own gets a closing tag, and a void one has none anywhere. -/
theorem nested?_render_column :
    let e : Element := .mk "div" [] [
      .element (.mk "p" [] [.text "Name: ", .element (.mk "input" [attr "type" "text"] [])]),
      .element (.mk "span" [] [])]
    e.Plain ∧ e.VoidsEmpty ∧ e.Paired ∧
      (tokens? (e.render .html)).bind (nested? byName) = some [e.tagTree] := by
  intro e
  have hplain : e.Plain :=
    ⟨by decide, by simp, ⟨by decide, by simp, trivial, ⟨by decide, by decide, trivial⟩, trivial⟩,
      ⟨by decide, by simp, trivial⟩, trivial⟩
  have hvoid : e.VoidsEmpty := by
    simp [e, Element.VoidsEmpty, Element.elements, elementsAll, Node.elements, Element.tag,
      Element.children, voidTags]
  have hpaired : e.Paired := by
    simp [e, Element.Paired, Element.elements, elementsAll, Node.elements, Element.tag,
      Element.children, Element.isInline, Node.isText, voidTags]
  obtain ⟨ts, htokens, -, hnested, -⟩ := nested?_render hplain hvoid
  exact ⟨hplain, hvoid, hpaired, by rw [htokens, Option.bind_some, hnested hpaired]⟩

/-- An empty element beside a text has no closing tag, and HTML is left waiting for one. -/
theorem nested?_render_beside_text :
    ¬ ∀ e : Element, e.Plain → e.VoidsEmpty →
      (tokens? (e.render .html)).bind (nested? byName) = some [e.tagTree] := by
  intro h
  let e : Element := .mk "p" [] [.text "x", .element (.mk "span" [] [])]
  have hplain : e.Plain := ⟨by decide, by simp, trivial, ⟨by decide, by simp, trivial⟩, trivial⟩
  have hvoid : e.VoidsEmpty := by
    simp [e, Element.VoidsEmpty, Element.elements, elementsAll, Node.elements, Element.tag,
      Element.children, voidTags]
  have hnone : ((tokens? (e.render .html)).bind (nested? byName)).isNone = true := by decide
  rw [h e hplain hvoid] at hnone
  cases hnone

end Formwork.Markup
