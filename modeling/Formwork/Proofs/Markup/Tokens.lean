import Formwork.Markup.Layout

/-!
# Reading HTML

A reader of HTML, character by character: tags with their attributes, and the text between them. It
knows nothing of how markup is laid out or which elements there are.

## How a character is read

The reader is a state machine. Its `Mode` says where it stands, and `next` answers with the tokens
that a character completes and the mode behind it. A text outside the tags gives one token per
character, so texts that stand side by side need not be told apart.

Quotes end a value and `<` begins a tag only where they are written as such. A reference is collected
up to its `;` and then put where it stands, and there it is only a character.

* `tokens?` — the tokens of a text.
* `run_append` — what is read in two parts is read in one.
* `run_escape_content`, `run_escape_value` — an escaped text is read back, wherever it stands.
* `exists_run_openTag` — so is an opening tag with all its attributes.
-/

namespace Formwork.Markup

/-! ## Tokens -/

/-- The name and the attributes of a tag. An attribute without a value is just there. -/
structure Tag where
  name : String
  attrs : List (String × Option String)
  deriving Repr, DecidableEq

inductive Token
  /-- An opening tag. With `closed` it ends in `/>`. -/
  | opening (tag : Tag) (closed : Bool)
  | closing (name : String)
  | char (c : Char)
  deriving Repr, DecidableEq

/-- A tag with one more attribute. -/
def Tag.add (t : Tag) (name : String) (value : Option String) : Tag :=
  { t with attrs := t.attrs ++ [(name, value)] }

/-! ## The reader -/

/-- Where text stands. -/
inductive Place
  /-- Between tags. -/
  | content
  /-- In the value of an attribute, behind a part of it. -/
  | value (tag : Tag) (name : String) (text : List Char)
  deriving Repr, DecidableEq

/-- Where the reader stands. -/
inductive Mode
  | text (p : Place)
  /-- In a reference, behind a part of its name. -/
  | reference (p : Place) (name : List Char)
  /-- Behind the `<` of a tag. -/
  | tagStart
  | tagName (name : List Char)
  | closingName (name : List Char)
  /-- Behind a space in a tag. -/
  | gap (tag : Tag)
  | attrName (tag : Tag) (name : List Char)
  /-- Behind the `=` of an attribute. -/
  | valueStart (tag : Tag) (name : String)
  /-- Behind the quote that ends a value. -/
  | valueEnd (tag : Tag)
  /-- Behind the `/` at the end of a tag. -/
  | slash (tag : Tag)
  deriving Repr, DecidableEq

/-- A character of the name of a tag or an attribute. -/
def isNameChar (c : Char) : Bool := c.isAlphanum || c == '-'

/-- The character that a reference stands for. -/
def referenced? (name : List Char) : Option Char :=
  [("amp", '&'), ("lt", '<'), ("gt", '>'), ("quot", '"'), ("#39", '\'')].lookup (String.ofList name)

/-- What a character of a text amounts to. -/
def put : Place → Char → List Token × Mode
  | .content, c => ([.char c], .text .content)
  | .value tag name text, c => ([], .text (.value tag name (text ++ [c])))

/-- A character behind a complete part of a tag. -/
def afterPart (tag : Tag) (c : Char) : Option (List Token × Mode) :=
  if c = ' ' then some ([], .gap tag)
  else if c = '>' then some ([.opening tag false], .text .content)
  else none

/-- One character: the tokens that it completes, and where the reader stands behind it. -/
def next : Mode → Char → Option (List Token × Mode)
  | .text .content, c =>
    if c = '&' then some ([], .reference .content [])
    else if c = '<' then some ([], .tagStart)
    else some (put .content c)
  | .text (.value tag name text), c =>
    if c = '&' then some ([], .reference (.value tag name text) [])
    else if c = '"' then some ([], .valueEnd (tag.add name (some (String.ofList text))))
    else some (put (.value tag name text) c)
  | .reference p name, c =>
    if c = ';' then (referenced? name).map (put p) else some ([], .reference p (name ++ [c]))
  | .tagStart, c =>
    if c = '/' then some ([], .closingName [])
    else if isNameChar c then some ([], .tagName [c]) else none
  | .tagName name, c =>
    if isNameChar c then some ([], .tagName (name ++ [c]))
    else afterPart ⟨String.ofList name, []⟩ c
  | .closingName name, c =>
    if isNameChar c then some ([], .closingName (name ++ [c]))
    else if c = '>' then some ([.closing (String.ofList name)], .text .content) else none
  | .gap tag, c =>
    if isNameChar c then some ([], .attrName tag [c])
    else if c = '/' then some ([], .slash tag) else none
  | .attrName tag name, c =>
    if isNameChar c then some ([], .attrName tag (name ++ [c]))
    else if c = '=' then some ([], .valueStart tag (String.ofList name))
    else afterPart (tag.add (String.ofList name) none) c
  | .valueStart tag name, c =>
    if c = '"' then some ([], .text (.value tag name [])) else none
  | .valueEnd tag, c => afterPart tag c
  | .slash tag, c => if c = '>' then some ([.opening tag true], .text .content) else none

/-- The tokens that some characters complete, and where the reader stands behind them. -/
def run : Mode → List Char → Option (List Token × Mode)
  | m, [] => some ([], m)
  | m, c :: cs =>
    (next m c).bind fun p => (run p.2 cs).map fun q => (p.1 ++ q.1, q.2)

/-- The tokens of a text. A text that ends inside a tag or a reference has none. -/
def tokens? (text : String) : Option (List Token) :=
  match run (.text .content) text.toList with
  | some (ts, .text .content) => some ts
  | _ => none

/-! ## Parts -/

/-- **What is read in two parts is read in one.** -/
theorem run_append {m m' m'' : Mode} {cs ds : List Char} {ts us : List Token}
    (h : run m cs = some (ts, m')) (h' : run m' ds = some (us, m'')) :
    run m (cs ++ ds) = some (ts ++ us, m'') := by
  induction cs generalizing m ts with
  | nil =>
    obtain ⟨rfl, rfl⟩ := Prod.mk.inj (Option.some.inj h)
    exact h'
  | cons c cs ih =>
    obtain ⟨⟨ts₁, m₁⟩, hnext, hrest⟩ := Option.bind_eq_some_iff.mp h
    obtain ⟨⟨ts₂, m₂⟩, hrun, hts⟩ := Option.map_eq_some_iff.mp hrest
    obtain ⟨rfl, rfl⟩ := Prod.mk.inj hts
    rw [List.cons_append, run, hnext, Option.bind_some, ih hrun]
    simp

theorem run_cons {m m' m'' : Mode} {c : Char} {cs : List Char} {ts us : List Token}
    (h : next m c = some (ts, m')) (h' : run m' cs = some (us, m'')) :
    run m (c :: cs) = some (ts ++ us, m'') := by
  rw [run, h, Option.bind_some, h']
  rfl

/-- A reader that takes each of some characters for itself takes them all. -/
theorem run_of_forall {mode : List Char → Mode} {cs : List Char}
    (h : ∀ c ∈ cs, ∀ ds, next (mode ds) c = some ([], mode (ds ++ [c]))) (ds : List Char) :
    run (mode ds) cs = some ([], mode (ds ++ cs)) := by
  induction cs generalizing ds with
  | nil => rw [List.append_nil]; rfl
  | cons c cs ih =>
    have hrest := ih (fun d hd => h d (List.mem_cons_of_mem _ hd)) (ds ++ [c])
    rw [run_cons (h c List.mem_cons_self ds) hrest]
    simp

/-! ## Escaped text -/

/-- **A character is read back from how it is written**, as a character and nothing else. -/
theorem run_escapeChar (p : Place) (c : Char) : run (.text p) (escapeChar c) = some (put p c) := by
  unfold escapeChar
  split
  · next h => subst h; cases p <;> rfl
  split
  · next h => subst h; cases p <;> rfl
  split
  · next h => subst h; cases p <;> rfl
  split
  · next h => subst h; cases p <;> rfl
  split
  · next h => subst h; cases p <;> rfl
  · next hamp hlt _ hquot _ =>
    -- the reader stops at fewer characters than are escaped, and at others in each place
    cases p with
    | content => simp [run, next, hamp, hlt]
    | value tag name text => simp [run, next, hamp, hquot]

theorem run_escape_content (cs : List Char) :
    run (.text .content) (cs.flatMap escapeChar) = some (cs.map .char, .text .content) := by
  induction cs with
  | nil => rfl
  | cons c cs ih => exact run_append (run_escapeChar .content c) ih

theorem run_escape_value (tag : Tag) (name : String) (text cs : List Char) :
    run (.text (.value tag name text)) (cs.flatMap escapeChar) =
      some ([], .text (.value tag name (text ++ cs))) := by
  induction cs generalizing text with
  | nil => rw [List.append_nil]; rfl
  | cons c cs ih =>
    have hrun := run_append (run_escapeChar (.value tag name text) c) (ih (text ++ [c]))
    rw [List.append_assoc] at hrun
    exact hrun

/-! ## Tags -/

/-- A name of a tag or an attribute. -/
structure IsName (name : String) : Prop where
  nonempty : name ≠ ""
  chars : ∀ c ∈ name.toList, isNameChar c = true

instance (name : String) : Decidable (IsName name) :=
  decidable_of_iff (name ≠ "" ∧ name.toList.all isNameChar = true)
    ⟨fun h => ⟨h.1, List.all_eq_true.mp h.2⟩,
      fun h => ⟨h.nonempty, List.all_eq_true.mpr h.chars⟩⟩

theorem IsName.exists_cons {name : String} (h : IsName name) :
    ∃ c cs, name.toList = c :: cs ∧ isNameChar c = true ∧ ∀ d ∈ cs, isNameChar d = true := by
  cases hs : name.toList with
  | nil => exact absurd (String.toList_eq_nil_iff.mp hs) h.nonempty
  | cons c cs =>
    have hall := h.chars
    rw [hs, List.forall_mem_cons] at hall
    exact ⟨c, cs, rfl, hall.1, hall.2⟩

/-- The reader stands behind a part of a tag that may be its last. -/
inductive Complete : Mode → Tag → Prop
  | name (name : List Char) : Complete (.tagName name) ⟨String.ofList name, []⟩
  | present (tag : Tag) (name : List Char) :
      Complete (.attrName tag name) (tag.add (String.ofList name) none)
  | value (tag : Tag) : Complete (.valueEnd tag) tag

theorem Complete.next_eq {m : Mode} {tag : Tag} (h : Complete m tag) {c : Char}
    (hname : isNameChar c = false) (hc : c ≠ '=') : next m c = afterPart tag c := by
  cases h <;> simp [next, hname, hc]

/-- The attribute as it is read back. -/
def Attr.read (a : Attr) : String × Option String :=
  match a.value with
  | .text v => (a.name, some v)
  | .expr v => (a.name, some v)
  | .present => (a.name, none)

/-- The name of an attribute, behind the space in front of it. -/
theorem run_attrName {m : Mode} {tag : Tag} (h : Complete m tag) {name : String}
    (hn : IsName name) : run m (' ' :: name.toList) = some ([], .attrName tag name.toList) := by
  obtain ⟨c, cs, hs, hc, hcs⟩ := hn.exists_cons
  have hgap : next m ' ' = some ([], .gap tag) := h.next_eq (by decide) (by decide)
  have hfirst : next (.gap tag) c = some ([], .attrName tag [c]) := by simp [next, hc]
  have hrest : run (.attrName tag [c]) cs = some ([], .attrName tag ([c] ++ cs)) :=
    run_of_forall (fun d hd ds => by simp [next, hcs d hd]) [c]
  rw [hs]
  exact run_cons hgap (run_cons hfirst hrest)

/-- A value in quotes, behind the name of its attribute. -/
theorem run_attrValue (tag : Tag) (name : List Char) (v : String) :
    run (.attrName tag name) ('=' :: '"' :: (v.toList.flatMap escapeChar ++ ['"'])) =
      some ([], .valueEnd (tag.add (String.ofList name) (some v))) := by
  have hequals : next (.attrName tag name) '=' =
      some ([], .valueStart tag (String.ofList name)) := rfl
  have hquote : next (.valueStart tag (String.ofList name)) '"' =
      some ([], .text (.value tag (String.ofList name) [])) := rfl
  have hend : run (.text (.value tag (String.ofList name) v.toList)) ['"'] =
      some ([], .valueEnd (tag.add (String.ofList name) (some v))) := by
    simp [run, next]
  exact run_cons hequals (run_cons hquote (run_append (run_escape_value _ _ [] _) hend))

/-- **An attribute is read back**, behind any complete part of its tag. -/
theorem exists_run_attr {m : Mode} {tag : Tag} (h : Complete m tag) {a : Attr}
    (hn : IsName a.name) : ∃ m', Complete m' (tag.add a.read.1 a.read.2) ∧
      run m (' ' :: (a.render .html).toList) = some ([], m') := by
  have hname := run_attrName h hn
  have hvalue : ∀ v : String, ∃ m', Complete m' (tag.add a.name (some v)) ∧
      run m (' ' :: (a.name ++ "=\"" ++ escape v ++ "\"").toList) = some ([], m') := by
    intro v
    refine ⟨_, .value _, ?_⟩
    have hs : ' ' :: (a.name ++ "=\"" ++ escape v ++ "\"").toList =
        (' ' :: a.name.toList) ++ ('=' :: '"' :: (v.toList.flatMap escapeChar ++ ['"'])) := by
      simp [escape]
    rw [hs]
    have hrun := run_append hname (run_attrValue tag a.name.toList v)
    rw [String.ofList_toList] at hrun
    exact hrun
  obtain ⟨name, value⟩ := a
  cases value with
  | text v => exact hvalue v
  | expr v => exact hvalue v
  | present =>
    have hc := Complete.present tag name.toList
    rw [String.ofList_toList] at hc
    exact ⟨_, hc, hname⟩

theorem exists_run_attrs {m : Mode} {tag : Tag} (h : Complete m tag) {as : List Attr}
    (hn : ∀ a ∈ as, IsName a.name) :
    ∃ m', Complete m' { tag with attrs := tag.attrs ++ as.map Attr.read } ∧
      run m (renderAttrs .html as).toList = some ([], m') := by
  induction as generalizing m tag with
  | nil => exact ⟨m, by simpa using h, rfl⟩
  | cons a as ih =>
    obtain ⟨m₁, h₁, hrun₁⟩ := exists_run_attr h (hn a List.mem_cons_self)
    obtain ⟨m₂, h₂, hrun₂⟩ := ih h₁ fun b hb => hn b (List.mem_cons_of_mem _ hb)
    refine ⟨m₂, by simpa [Tag.add] using h₂, ?_⟩
    have hs : (renderAttrs .html (a :: as)).toList =
        (' ' :: (a.render .html).toList) ++ (renderAttrs .html as).toList := by
      simp [renderAttrs, String.join_cons]
    rw [hs]
    exact run_append hrun₁ hrun₂

theorem next_lt : next (.text .content) '<' = some ([], .tagStart) := rfl

/-- The tag of an element. -/
def tagOf (name : String) (as : List Attr) : Tag := ⟨name, as.map Attr.read⟩

/-- **An opening tag is read back** up to its end. -/
theorem exists_run_openTag {name : String} {as : List Attr} (hn : IsName name)
    (has : ∀ a ∈ as, IsName a.name) : ∃ m, Complete m (tagOf name as) ∧
      run (.text .content) (openTag .html name as).toList = some ([], m) := by
  obtain ⟨c, cs, hs, hc, hcs⟩ := hn.exists_cons
  have hfirst : next .tagStart c = some ([], .tagName [c]) := by
    have hslash : c ≠ '/' := by
      rintro rfl
      exact absurd hc (by decide)
    simp [next, hc, hslash]
  have hrest : run (.tagName [c]) cs = some ([], .tagName name.toList) := by
    rw [hs]
    exact run_of_forall (fun d hd ds => by simp [next, hcs d hd]) [c]
  have hname : Complete (.tagName name.toList) ⟨name, []⟩ := by
    have h := Complete.name name.toList
    rwa [String.ofList_toList] at h
  obtain ⟨m, hm, hattrs⟩ := exists_run_attrs hname has
  refine ⟨m, hm, ?_⟩
  have hopen : (openTag .html name as).toList = '<' :: c :: (cs ++ (renderAttrs .html as).toList) := by
    simp [openTag, hs]
  rw [hopen]
  exact run_cons next_lt (run_cons hfirst (run_append hrest hattrs))

/-! ## Complete texts -/

/-- The text is read outside the tags, from its beginning to its end. -/
def Reads (text : String) (ts : List Token) : Prop :=
  run (.text .content) text.toList = some (ts, .text .content)

theorem Reads.tokens?_eq {text : String} {ts : List Token} (h : Reads text ts) :
    tokens? text = some ts := by
  rw [tokens?, h]

theorem Reads.append {s t : String} {ts us : List Token} (hs : Reads s ts) (ht : Reads t us) :
    Reads (s ++ t) (ts ++ us) := by
  rw [Reads, String.toList_append]
  exact run_append hs ht

theorem reads_empty : Reads "" [] := rfl

theorem reads_escape (s : String) : Reads (escape s) (s.toList.map .char) := by
  rw [Reads, escape, String.toList_ofList]
  exact run_escape_content s.toList

theorem reads_openTag {name : String} {as : List Attr} (hn : IsName name)
    (has : ∀ a ∈ as, IsName a.name) :
    Reads (openTag .html name as ++ ">") [.opening (tagOf name as) false] := by
  obtain ⟨m, hm, hrun⟩ := exists_run_openTag hn has
  have hend : next m '>' = some ([.opening (tagOf name as) false], .text .content) :=
    hm.next_eq (by decide) (by decide)
  rw [Reads, String.toList_append]
  exact run_append hrun (run_cons hend rfl)

theorem reads_closedTag {name : String} {as : List Attr} (hn : IsName name)
    (has : ∀ a ∈ as, IsName a.name) :
    Reads (openTag .html name as ++ " />") [.opening (tagOf name as) true] := by
  obtain ⟨m, hm, hrun⟩ := exists_run_openTag hn has
  have hgap : next m ' ' = some ([], .gap (tagOf name as)) :=
    hm.next_eq (by decide) (by decide)
  rw [Reads, String.toList_append]
  exact run_append hrun (run_cons hgap rfl)

theorem reads_closeTag {name : String} (hn : IsName name) :
    Reads (closeTag name) [.closing name] := by
  have hname : run (.closingName []) name.toList = some ([], .closingName name.toList) :=
    run_of_forall (fun c hc ds => by simp [next, hn.chars c hc]) []
  have hend : run (.closingName name.toList) ['>'] = some ([.closing name], .text .content) := by
    simp [run, next, show isNameChar '>' = false from by decide]
  have hs : (closeTag name).toList = '<' :: '/' :: (name.toList ++ ['>']) := by
    simp [closeTag]
  have hslash : next .tagStart '/' = some ([], .closingName []) := rfl
  rw [Reads, hs]
  exact run_cons next_lt (run_cons hslash (run_append hname hend))

end Formwork.Markup
