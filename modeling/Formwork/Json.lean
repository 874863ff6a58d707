/-!
# JSON

Values with natural numbers, and their text over several lines, two spaces to a level.

* `Json.quote` — a text as a string literal. The literal is also one of a script.
* `Json.pretty` — a value as text. An empty array or object stays on its line.
-/

namespace Formwork

/-- A JSON value; the members of an object keep their order. -/
inductive Json
  | bool (b : Bool)
  | number (n : Nat)
  | string (s : String)
  | array (items : List Json)
  | object (members : List (String × Json))
  deriving Repr

namespace Json

/-! ## String literals -/

/-- A digit of a number below sixteen. -/
def hexDigit (n : Nat) : Char := if n < 10 then Char.ofNat (0x30 + n) else Char.ofNat (0x57 + n)

/-- A character inside a string literal. The quote, the backslash and the characters below U+0020
are escaped; all others stand for themselves. -/
def escape (c : Char) : List Char :=
  if c = '"' then ['\\', '"']
  else if c = '\\' then ['\\', '\\']
  else if c = '\x08' then ['\\', 'b']
  else if c = '\t' then ['\\', 't']
  else if c = '\n' then ['\\', 'n']
  else if c = '\x0c' then ['\\', 'f']
  else if c = '\r' then ['\\', 'r']
  else if c.toNat < 0x20 then
    ['\\', 'u', '0', '0', hexDigit (c.toNat / 16), hexDigit (c.toNat % 16)]
  else [c]

/-- A text as a string literal. -/
def quote (s : String) : String := String.ofList ('"' :: s.toList.flatMap escape ++ ['"'])

/-! ## Values -/

/-- A line break and the indentation of a level. -/
def newline (level : Nat) : String := "\n" ++ String.ofList (List.replicate (2 * level) ' ')

mutual

/-- A value whose first line is already indented to `level`. -/
def render (level : Nat) : Json → String
  | bool b => if b then "true" else "false"
  | number n => toString n
  | string s => quote s
  | array [] => "[]"
  | array (x :: xs) =>
    "[" ++ newline (level + 1) ++ x.render (level + 1) ++ renderItems (level + 1) xs ++
      newline level ++ "]"
  | object [] => "\x7b\x7d"
  | object ((k, v) :: ms) =>
    "\x7b" ++ newline (level + 1) ++ quote k ++ ": " ++ v.render (level + 1) ++
      renderMembers (level + 1) ms ++ newline level ++ "\x7d"

/-- The items of an array after the first. -/
def renderItems (level : Nat) : List Json → String
  | [] => ""
  | x :: xs => "," ++ newline level ++ x.render level ++ renderItems level xs

/-- The members of an object after the first. -/
def renderMembers (level : Nat) : List (String × Json) → String
  | [] => ""
  | (k, v) :: ms =>
    "," ++ newline level ++ quote k ++ ": " ++ v.render level ++ renderMembers level ms

end

/-- A value as text over several lines. -/
def pretty (j : Json) : String := j.render 0

end Json

end Formwork
