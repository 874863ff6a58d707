/-!
# TOML text

The characters of a document: blanks, line ends, comments and the four notations of a text.

A reader takes the characters of the document and answers with what it read and what is left, or
with `none`. A notation's reader starts behind its opening quotes.

* `basic`, `literal` — texts on one line, with escapes and without.
* `longBasic`, `longLiteral` — texts between three quotes. A line end in them is `\n`.
-/

namespace Formwork.Toml

/-- A character that may stand for itself somewhere in a document: all but the control characters
other than the tabulator. -/
def isPlain (c : Char) : Bool := c == '\t' || (0x20 ≤ c.toNat && c.toNat != 0x7F)

/-- White space inside a line. -/
def isSpace (c : Char) : Bool := c == ' ' || c == '\t'

def skipSpace (cs : List Char) : List Char := cs.dropWhile isSpace

/-- What follows a line end. -/
def newline? : List Char → Option (List Char)
  | '\n' :: cs => some cs
  | '\r' :: '\n' :: cs => some cs
  | _ => none

/-- What follows a comment, if there is one here. -/
def skipComment : List Char → List Char
  | '#' :: cs => cs.dropWhile isPlain
  | cs => cs

/-- What follows the rest of a line on which nothing but a comment may come. -/
def endOfLine? (cs : List Char) : Option (List Char) :=
  match skipComment (skipSpace cs) with
  | [] => some []
  | rest => newline? rest

/-- What follows blanks, line ends and comments. `inComment` says that a comment was begun. -/
def skipBlank (inComment : Bool) : List Char → List Char
  | [] => []
  | '\n' :: cs => skipBlank false cs
  | '\r' :: '\n' :: cs => skipBlank false cs
  | c :: cs =>
    if inComment then if isPlain c then skipBlank true cs else c :: cs
    else if isSpace c then skipBlank false cs
    else if c = '#' then skipBlank true cs
    else c :: cs

/-! ## Escapes -/

/-- The value of a hexadecimal digit. -/
def hexDigit? (c : Char) : Option Nat :=
  if '0' ≤ c ∧ c ≤ '9' then some (c.toNat - 0x30)
  else if 'a' ≤ c ∧ c ≤ 'f' then some (c.toNat - 0x57)
  else if 'A' ≤ c ∧ c ≤ 'F' then some (c.toNat - 0x37)
  else none

/-- The character with a hexadecimal number. -/
def scalar? (digits : List Char) : Option Char := do
  let n ← digits.foldlM (fun n c => (hexDigit? c).map (16 * n + ·)) 0
  if n < 0xD800 ∨ (0xE000 ≤ n ∧ n < 0x110000) then some (Char.ofNat n) else none

/-- The character of a short escape. -/
def escaped? : Char → Option Char
  | 'b' => some '\x08'
  | 't' => some '\t'
  | 'n' => some '\n'
  | 'f' => some '\x0c'
  | 'r' => some '\r'
  | '"' => some '"'
  | '\\' => some '\\'
  | _ => none

/-- The characters read so far in front of those that a reader finds. -/
def prepend (read : List Char) : Option (List Char × List Char) → Option (List Char × List Char) :=
  Option.map fun p => (read ++ p.1, p.2)

/-! ## The four notations -/

/-- A text in double quotes. -/
def basic : List Char → Option (List Char × List Char)
  | [] => none
  | '"' :: cs => some ([], cs)
  | '\\' :: 'u' :: a :: b :: c :: d :: cs => do
    prepend [← scalar? [a, b, c, d]] (basic cs)
  | '\\' :: 'U' :: a :: b :: c :: d :: e :: f :: g :: h :: cs => do
    prepend [← scalar? [a, b, c, d, e, f, g, h]] (basic cs)
  | '\\' :: c :: cs => do prepend [← escaped? c] (basic cs)
  | c :: cs => if isPlain c && c != '\\' then prepend [c] (basic cs) else none

/-- A text in single quotes. -/
def literal : List Char → Option (List Char × List Char)
  | [] => none
  | '\'' :: cs => some ([], cs)
  | c :: cs => if isPlain c then prepend [c] (literal cs) else none

/-- Whether a backslash before these characters joins lines. -/
def joinsLines (cs : List Char) : Bool := (newline? (skipSpace cs)).isSome

/-- A text between three double quotes, of which one or two may belong to the text. Where `joining`,
blanks and line ends are skipped up to the next character. -/
def longBasic (joining : Bool) : List Char → Option (List Char × List Char)
  | [] => none
  | '"' :: '"' :: '"' :: '"' :: '"' :: cs => some (['"', '"'], cs)
  | '"' :: '"' :: '"' :: '"' :: cs => some (['"'], cs)
  | '"' :: '"' :: '"' :: cs => some ([], cs)
  | '\n' :: cs => prepend (if joining then [] else ['\n']) (longBasic joining cs)
  | '\r' :: '\n' :: cs => prepend (if joining then [] else ['\n']) (longBasic joining cs)
  | '\\' :: 'u' :: a :: b :: c :: d :: cs => do
    prepend [← scalar? [a, b, c, d]] (longBasic false cs)
  | '\\' :: 'U' :: a :: b :: c :: d :: e :: f :: g :: h :: cs => do
    prepend [← scalar? [a, b, c, d, e, f, g, h]] (longBasic false cs)
  | '\\' :: c :: cs =>
    if joinsLines (c :: cs) then longBasic true (c :: cs)
    else do prepend [← escaped? c] (longBasic false cs)
  | c :: cs =>
    if joining && isSpace c then longBasic true cs
    else if isPlain c && c != '\\' then prepend [c] (longBasic false cs)
    else none

/-- A text between three single quotes, of which one or two may belong to the text. -/
def longLiteral : List Char → Option (List Char × List Char)
  | [] => none
  | '\'' :: '\'' :: '\'' :: '\'' :: '\'' :: cs => some (['\'', '\''], cs)
  | '\'' :: '\'' :: '\'' :: '\'' :: cs => some (['\''], cs)
  | '\'' :: '\'' :: '\'' :: cs => some ([], cs)
  | '\n' :: cs => prepend ['\n'] (longLiteral cs)
  | '\r' :: '\n' :: cs => prepend ['\n'] (longLiteral cs)
  | c :: cs => if isPlain c then prepend [c] (longLiteral cs) else none

/-- A text without the line end that it starts with. -/
def afterNewline (cs : List Char) : List Char := (newline? cs).getD cs

/-- A text in any notation. -/
def text? : List Char → Option (List Char × List Char)
  | '"' :: '"' :: '"' :: cs => longBasic false (afterNewline cs)
  | '"' :: cs => basic cs
  | '\'' :: '\'' :: '\'' :: cs => longLiteral (afterNewline cs)
  | '\'' :: cs => literal cs
  | _ => none

end Formwork.Toml
