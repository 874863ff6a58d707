import Formwork.Json

/-!
# Script text

The pieces of script that a generated component holds.

* `isIdentifier` — names that can stand bare; only ASCII ones do. `propertyKey` and `member` are a
  key in an object literal or an interface, and the access to it: the bare name where that is an
  identifier, and a string literal otherwise.
* `Regex`, `RegexLiteral` — the regular expression literals, as terms, and their source text. Each
  of them is anchored at both ends.
* `Condition` — what a script asks about a text: whether it fails to match a regular expression, and
  whether it is too short. A script counts the length in UTF-16 units.
-/

namespace Formwork.Script

/-! ## Names and keys -/

/-- A character that an identifier may start with. -/
def isNameStart (c : Char) : Bool := c.isAlpha || c == '_' || c == '$'

/-- A character inside an identifier. -/
def isNamePart (c : Char) : Bool := c.isAlphanum || c == '_' || c == '$'

/-- An ASCII identifier. -/
def isIdentifier (s : String) : Bool :=
  match s.toList with
  | [] => false
  | c :: cs => isNameStart c && cs.all isNamePart

/-- A key where a script declares it. -/
def propertyKey (key : String) : String := if isIdentifier key then key else Json.quote key

/-- The property of the object `target` under a key. -/
def member (target key : String) : String :=
  if isIdentifier key then target ++ "." ++ key else target ++ "[" ++ Json.quote key ++ "]"

/-! ## Regular expressions -/

/-- A member of a bracketed class. -/
inductive ClassItem
  /-- A character that stands for itself. -/
  | char (c : Char)
  /-- A character that stands for itself behind a backslash. -/
  | escaped (c : Char)
  | range (first last : Char)
  /-- An ASCII letter or digit, or the underscore. -/
  | word
  /-- White space and line terminators. -/
  | space
  deriving Repr, DecidableEq

/-- How often a term is repeated. -/
inductive Quantifier
  | optional
  | star
  | plus
  | exactly (n : Nat)
  | atLeast (n : Nat)
  | between (m n : Nat)
  deriving Repr, DecidableEq

/-- A term of a regular expression. -/
inductive Regex
  /-- A character that stands for itself. -/
  | char (c : Char)
  /-- A character that stands for itself behind a backslash. -/
  | escaped (c : Char)
  /-- A character of a class. -/
  | oneOf (items : List ClassItem)
  /-- Any character but a line terminator. -/
  | any
  | group (r : Regex)
  | repeated (r : Regex) (q : Quantifier)
  | seq (r s : Regex)
  deriving Repr, DecidableEq

/-- An anchored regular expression with its flag. -/
structure RegexLiteral where
  body : Regex
  ignoreCase : Bool
  deriving Repr, DecidableEq

def ClassItem.source : ClassItem → String
  | char c => String.singleton c
  | escaped c => "\\" ++ String.singleton c
  | range a b => String.singleton a ++ "-" ++ String.singleton b
  | word => "\\w"
  | space => "\\s"

def Quantifier.source : Quantifier → String
  | optional => "?"
  | star => "*"
  | plus => "+"
  | exactly n => "\x7b" ++ toString n ++ "\x7d"
  | atLeast n => "\x7b" ++ toString n ++ ",\x7d"
  | between m n => "\x7b" ++ toString m ++ "," ++ toString n ++ "\x7d"

namespace Regex

/-- One term after the other; `last` is the last of them. -/
def thenAll (rs : List Regex) (last : Regex) : Regex := rs.foldr seq last

/-- The text of a term. -/
def source : Regex → String
  | char c => String.singleton c
  | escaped c => "\\" ++ String.singleton c
  | oneOf items => "[" ++ String.join (items.map ClassItem.source) ++ "]"
  | any => "."
  | group r => "(" ++ r.source ++ ")"
  | repeated r q => r.source ++ q.source
  | seq r s => r.source ++ s.source

end Regex

/-- The text of a literal. -/
def RegexLiteral.source (l : RegexLiteral) : String :=
  "/^" ++ l.body.source ++ "$/" ++ if l.ignoreCase then "i" else ""

/-! ## Conditions -/

/-- A condition on a text. -/
inductive Condition
  /-- The text does not match. -/
  | mismatch (l : RegexLiteral)
  /-- The text has fewer units. -/
  | shorterThan (n : Nat)
  deriving Repr, DecidableEq

/-- The condition on the text that the expression `value` stands for. -/
def Condition.source (value : String) : Condition → String
  | mismatch l => "!" ++ l.source ++ ".test(" ++ value ++ ")"
  | shorterThan n => value ++ ".length < " ++ toString n

end Formwork.Script
