import Formwork.Proofs.Markup.Tokens
import Mathlib

/-!
# Nested tags

A reader of the tags of a text that keeps the open ones on a stack. Each closing tag closes the
innermost tag that is open, and has to have its name.

There are two ways to see that a tag has no closing tag. In the text it ends in `/>`. To HTML that
means nothing: there the name of the tag says it, and only the void elements are without a closing
tag. So the reader is told which opening tags stand alone.

* `nested?` — the trees that the tags of a text make.
* `byText`, `byName` — the two ways.

## The two ways compared

They agree on each tag but `<x />` where `x` is not void, which by its name waits for a closing tag.
If there is no such tag, both find the same trees (`nested?_byName_of_byText`). A single one leaves a
tag open at the end, since as many tags are closed as before (`nested?_byName_eq_none`).
-/

namespace Formwork.Markup

/-! ## Reading nested tags -/

/-- Tags as they nest. -/
inductive TagTree
  | mk (tag : Tag) (children : List TagTree)
  deriving Repr

/-- What a reader of nested tags holds. -/
structure Nesting where
  /-- The trees that are complete in the innermost open tag, the last of them first. -/
  complete : List TagTree
  /-- The open tags, the innermost first, each with the trees that are complete in front of it. -/
  around : List (Tag × List TagTree)
  deriving Repr

namespace Nesting

/-- One token. An opening tag that stands `alone` is complete. -/
def next (alone : Tag → Bool → Bool) (s : Nesting) : Token → Option Nesting
  | .char _ => some s
  | .opening tag closed =>
    if alone tag closed then some { s with complete := .mk tag [] :: s.complete }
    else some ⟨[], (tag, s.complete) :: s.around⟩
  | .closing name =>
    match s.around with
    | [] => none
    | (tag, before) :: around =>
      if tag.name = name then some ⟨.mk tag s.complete.reverse :: before, around⟩ else none

/-- Some tokens. -/
def read (alone : Tag → Bool → Bool) (s : Nesting) (ts : List Token) : Option Nesting :=
  ts.foldlM (next alone) s

/-- More trees are complete. -/
def add (s : Nesting) (us : List TagTree) : Nesting :=
  { s with complete := us.reverse ++ s.complete }

end Nesting

/-- The trees that the tags of a text make, if each that is opened is closed in its place. -/
def nested? (alone : Tag → Bool → Bool) (ts : List Token) : Option (List TagTree) :=
  match Nesting.read alone ⟨[], []⟩ ts with
  | some ⟨complete, []⟩ => some complete.reverse
  | _ => none

/-- By the text, a tag stands alone if it ends in `/>`. -/
def byText (_ : Tag) (closed : Bool) : Bool := closed

/-- By the name, as in HTML, a tag stands alone if its element is void. -/
def byName (tag : Tag) (_ : Bool) : Bool := voidTags.contains tag.name

/-- The tags among some tokens. -/
def tagsIn (ts : List Token) : List Token :=
  ts.filter fun
    | .char _ => false
    | _ => true

/-- The opening tags among some tokens are those among their tags. -/
theorem opening_mem_tagsIn {ts : List Token} {tag : Tag} {closed : Bool} :
    .opening tag closed ∈ tagsIn ts ↔ .opening tag closed ∈ ts := by
  simp [tagsIn]

/-! ## Reading in parts -/

namespace Nesting

theorem read_append (alone : Tag → Bool → Bool) (s : Nesting) (ts us : List Token) :
    s.read alone (ts ++ us) = (s.read alone ts).bind fun s' => s'.read alone us := by
  rw [read, List.foldlM_append]
  rfl

theorem read_cons (alone : Tag → Bool → Bool) (s : Nesting) (t : Token) (ts : List Token) :
    s.read alone (t :: ts) = (s.next alone t).bind fun s' => s'.read alone ts := by
  rw [read, List.foldlM_cons]
  rfl

/-- What stands between the tags is passed over. -/
theorem read_tagsIn (alone : Tag → Bool → Bool) (s : Nesting) (ts : List Token) :
    s.read alone (tagsIn ts) = s.read alone ts := by
  induction ts generalizing s with
  | nil => rfl
  | cons t ts ih =>
    cases t with
    | char c => exact ih s
    | opening tag closed =>
      show s.read alone (.opening tag closed :: tagsIn ts) = _
      simp only [read_cons, ih]
    | closing name =>
      show s.read alone (.closing name :: tagsIn ts) = _
      simp only [read_cons, ih]

end Nesting

/-! ## The two ways compared -/

/-- The number of tags that a token opens, less the number that it closes. -/
def Token.rise (alone : Tag → Bool → Bool) : Token → Int
  | .char _ => 0
  | .opening tag closed => if alone tag closed then 0 else 1
  | .closing _ => -1

namespace Nesting

variable {alone : Tag → Bool → Bool} {s s' : Nesting}

theorem length_around_next {t : Token} (h : s.next alone t = some s') :
    (s'.around.length : Int) = s.around.length + t.rise alone := by
  cases t with
  | char c =>
    obtain rfl := Option.some.inj h
    simp [Token.rise]
  | opening tag closed =>
    simp only [next] at h
    split at h
    · next ha =>
      obtain rfl := Option.some.inj h
      simp [Token.rise, ha]
    · next ha =>
      obtain rfl := Option.some.inj h
      simp [Token.rise, ha]
  | closing name =>
    obtain ⟨complete, around⟩ := s
    cases around with
    | nil => cases h
    | cons frame around =>
      simp only [next, Option.ite_none_right_eq_some, Option.some.injEq] at h
      obtain ⟨-, rfl⟩ := h
      simp [Token.rise]

theorem length_around_read {ts : List Token} (h : s.read alone ts = some s') :
    (s'.around.length : Int) = s.around.length + (ts.map (Token.rise alone)).sum := by
  induction ts generalizing s with
  | nil =>
    obtain rfl := Option.some.inj h
    simp
  | cons t ts ih =>
    rw [read_cons] at h
    obtain ⟨s₁, hnext, hread⟩ := Option.bind_eq_some_iff.mp h
    rw [List.map_cons, List.sum_cons, ih hread, length_around_next hnext]
    omega

theorem read_congr {alone' : Tag → Bool → Bool} {ts : List Token}
    (h : ∀ tag closed, .opening tag closed ∈ ts → alone tag closed = alone' tag closed) :
    s.read alone ts = s.read alone' ts := by
  induction ts generalizing s with
  | nil => rfl
  | cons t ts ih =>
    have hnext : s.next alone t = s.next alone' t := by
      cases t with
      | opening tag closed => simp only [next, h tag closed List.mem_cons_self]
      | char c => rfl
      | closing name => rfl
    have hrest : ∀ s', read alone s' ts = read alone' s' ts := fun s' =>
      ih fun tag closed hmem => h tag closed (List.mem_cons_of_mem _ hmem)
    simp only [read_cons, hnext, hrest]

end Nesting

theorem nested?_eq_some_iff {alone : Tag → Bool → Bool} {ts : List Token} {us : List TagTree} :
    nested? alone ts = some us ↔ Nesting.read alone ⟨[], []⟩ ts = some ⟨us.reverse, []⟩ := by
  unfold nested?
  constructor
  · intro h
    split at h
    · next complete hread =>
      obtain rfl := Option.some.inj h
      rw [hread, List.reverse_reverse]
    · cases h
  · intro h
    rw [h]
    exact congrArg some us.reverse_reverse

/-- Where tags nest, as many are closed as are opened. -/
theorem sum_rise_of_nested? {alone : Tag → Bool → Bool} {ts : List Token} {us : List TagTree}
    (h : nested? alone ts = some us) : (ts.map (Token.rise alone)).sum = 0 := by
  have hlength := Nesting.length_around_read (nested?_eq_some_iff.mp h)
  simpa using hlength.symm

section

variable {ts : List Token} {us : List TagTree}

/-- If only void elements have tags that end in `/>`, it does not matter who reads. -/
theorem nested?_byName_of_byText (h : nested? byText ts = some us)
    (hopen : ∀ tag, .opening tag false ∈ ts → byName tag false = false)
    (hclosed : ∀ tag, .opening tag true ∈ ts → byName tag true = true) :
    nested? byName ts = some us := by
  rw [nested?_eq_some_iff] at h ⊢
  rw [← h]
  refine Nesting.read_congr fun tag closed hmem => ?_
  cases closed with
  | false => exact hopen tag hmem
  | true => exact hclosed tag hmem

/-- **One tag too many that ends in `/>`** waits for a closing tag, and the text is not balanced. -/
theorem nested?_byName_eq_none (h : nested? byText ts = some us)
    (hopen : ∀ tag, .opening tag false ∈ ts → byName tag false = false)
    {tag : Tag} (hmem : .opening tag true ∈ ts) (htag : byName tag true = false) :
    nested? byName ts = none := by
  cases hread : nested? byName ts with
  | none => rfl
  | some vs =>
    -- by the names no token opens less than by the text, and this one opens more
    have hle : ∀ t ∈ ts, t.rise byText ≤ t.rise byName := by
      intro t ht
      cases t with
      | char c => exact le_rfl
      | closing name => exact le_rfl
      | opening tag closed =>
        cases closed with
        | false => simp [Token.rise, byText, hopen tag ht]
        | true =>
          show (0 : Int) ≤ if byName tag true = true then 0 else 1
          split <;> decide
    have hlt : Token.rise byText (.opening tag true) < Token.rise byName (.opening tag true) := by
      simp [Token.rise, byText, htag]
    have hsum := List.sum_lt_sum _ _ hle ⟨_, hmem, hlt⟩
    rw [sum_rise_of_nested? h, sum_rise_of_nested? hread] at hsum
    exact absurd hsum (lt_irrefl 0)

end

end Formwork.Markup
