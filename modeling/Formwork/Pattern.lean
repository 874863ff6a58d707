/-!
# Patterns

Regular expressions over characters, and the decision whether a whole text matches one.

## How a text is matched

The matcher keeps a list of patterns, one of which the rest of the text has to match. Reading a
character replaces each of them by its partial derivatives: the patterns that may follow after that
character. A text matches when one of the patterns that are left matches the empty text. Only
finitely many patterns can arise, so dropping repetitions keeps the list short.

* `Pattern.Matches` — the language of a pattern.
* `Pattern.accepts` — the matcher.
-/

namespace Formwork

/-- A set of characters: the union of inclusive ranges, or all characters outside it. -/
structure CharSet where
  ranges : List (Char × Char)
  outside : Bool
  deriving Repr, DecidableEq

namespace CharSet

/-- The characters in one of the ranges. -/
def within (ranges : List (Char × Char)) : CharSet := ⟨ranges, false⟩

/-- The characters in none of the ranges. -/
def without (ranges : List (Char × Char)) : CharSet := ⟨ranges, true⟩

/-- The characters of a list. -/
def ofList (cs : List Char) : CharSet := within (cs.map fun c => (c, c))

/-- Whether a character is in the set. -/
def contains (s : CharSet) (c : Char) : Bool :=
  (s.ranges.any fun r => r.1 ≤ c && c ≤ r.2) != s.outside

end CharSet

/-- A regular expression over characters. -/
inductive Pattern
  /-- The empty text. -/
  | empty
  /-- One character of a set. -/
  | char (s : CharSet)
  /-- A text of the first pattern, then one of the second. -/
  | seq (p q : Pattern)
  /-- A text of either pattern. -/
  | alt (p q : Pattern)
  /-- Any number of texts of a pattern. -/
  | star (p : Pattern)
  deriving Repr, DecidableEq

namespace Pattern

/-! ## Derived forms -/

/-- The one text. -/
def text (s : String) : Pattern := s.toList.foldr (fun c p => seq (char (.ofList [c])) p) empty

/-- A text of the pattern, or none. -/
def optional (p : Pattern) : Pattern := alt p empty

/-- At least one text of the pattern. -/
def plus (p : Pattern) : Pattern := seq p (star p)

/-- `n` texts of the pattern, then one of `last`. -/
def timesThen (n : Nat) (p last : Pattern) : Pattern := n.repeat (seq p) last

/-- `n` texts of the pattern. -/
def times (n : Nat) (p : Pattern) : Pattern := timesThen n p empty

/-- At least `n` texts of the pattern. -/
def atLeast (n : Nat) (p : Pattern) : Pattern := timesThen n p (star p)

/-- At most `n` texts of the pattern. -/
def atMost (n : Nat) (p : Pattern) : Pattern := n.repeat (fun q => optional (seq p q)) empty

/-- One pattern after the other. -/
def all (ps : List Pattern) : Pattern := ps.foldr seq empty

/-! ## The language of a pattern -/

/-- The texts of a pattern. -/
inductive Matches : Pattern → List Char → Prop
  | empty : Matches .empty []
  | char {s : CharSet} {c : Char} : s.contains c = true → Matches (.char s) [c]
  | seq {p q : Pattern} {u v : List Char} : Matches p u → Matches q v → Matches (.seq p q) (u ++ v)
  | altLeft {p q : Pattern} {u : List Char} : Matches p u → Matches (.alt p q) u
  | altRight {p q : Pattern} {u : List Char} : Matches q u → Matches (.alt p q) u
  | starNil {p : Pattern} : Matches (.star p) []
  | starCons {p : Pattern} {u v : List Char} :
      Matches p u → Matches (.star p) v → Matches (.star p) (u ++ v)

/-! ## The matcher -/

/-- Whether the empty text is one of the pattern's. -/
def nullable : Pattern → Bool
  | empty => true
  | char _ => false
  | seq p q => p.nullable && q.nullable
  | alt p q => p.nullable || q.nullable
  | star _ => true

/-- The patterns that may follow in a text of the pattern after the character `c`. -/
def derivatives (c : Char) : Pattern → List Pattern
  | empty => []
  | char s => if s.contains c then [empty] else []
  | seq p q => (p.derivatives c).map (seq · q) ++ if p.nullable then q.derivatives c else []
  | alt p q => p.derivatives c ++ q.derivatives c
  | star p => (p.derivatives c).map (seq · (star p))

/-- The patterns that may follow after `c` in a text of one of the patterns. -/
def advance (ps : List Pattern) (c : Char) : List Pattern :=
  (ps.flatMap (derivatives c)).eraseDups

/-- Whether the characters are a text of one of the patterns. -/
def acceptsAny (ps : List Pattern) (cs : List Char) : Bool :=
  (cs.foldl advance ps).any nullable

/-- Whether a whole text matches the pattern. -/
def accepts (p : Pattern) (s : String) : Bool := acceptsAny [p] s.toList

end Pattern

end Formwork
