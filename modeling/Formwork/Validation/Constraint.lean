import Formwork.Text.Basic
import Formwork.Pattern
import Formwork.Field
import Formwork.Script

/-!
# Format constraints

Some kinds of field constrain the text that may be entered: e-mail addresses, web addresses and
telephone numbers follow a pattern, and passwords have a least length.

Each constraint has two sides that say the same. `Constraint.accepts` decides about a text here, and
`Constraint.violation` is the condition with which a generated form decides about it. A script reads
its patterns over UTF-16 units, knows other blank characters than `\s` does elsewhere and ends a
line at four characters, so the sets below are spelled out.
-/

namespace Formwork

/-- The least number of UTF-16 units in a password. -/
def leastPasswordLength : Nat := 8

/-- What the text in a field has to look like. -/
inductive Constraint
  /-- A mailbox and a dotted domain, in letters of either case. -/
  | email
  /-- A web address with a dotted host. -/
  | url
  /-- A telephone number with an area code, and separators between the groups of digits. -/
  | tel
  /-- A least number of UTF-16 units. -/
  | minLength (n : Nat)
  deriving Repr, DecidableEq

namespace Constraint

/-- The constraint on fields of a kind. -/
def ofKind? : Kind → Option Constraint
  | .email => some email
  | .url => some url
  | .tel => some tel
  | .password => some (minLength leastPasswordLength)
  | _ => none

/-- What a form says about a text that violates the constraint. -/
def message : Constraint → String
  | email => "Invalid email address"
  | url => "Invalid URL format"
  | tel => "Invalid phone number format"
  | minLength n => "Password must be at least " ++ toString n ++ " characters"

/-! ## The patterns -/

def letters : List (Char × Char) := [('A', 'Z'), ('a', 'z')]

def digits : List (Char × Char) := [('0', '9')]

/-- A single character as a range. -/
def only (cs : List Char) : List (Char × Char) := cs.map fun c => (c, c)

/-- The line ends of a script. -/
def lineEnds : List (Char × Char) := [('\n', '\n'), ('\r', '\r'), ('\u2028', '\u2029')]

/-- The blank characters of a script: with the byte order mark and without U+0085. -/
def scriptBlanks : List (Char × Char) :=
  [('\t', '\r'), (' ', ' '), ('\u00A0', '\u00A0'), ('\u1680', '\u1680'), ('\u2000', '\u200A'),
    ('\u2028', '\u2029'), ('\u202F', '\u202F'), ('\u205F', '\u205F'), ('\u3000', '\u3000'),
    ('\uFEFF', '\uFEFF')]

/-- One character of some ranges. -/
def oneOf (ranges : List (Char × Char)) : Pattern := .char (.within ranges)

/-- A mailbox, `@`, and a domain whose last part is two letters or more. -/
def emailPattern : Pattern := .all [
  .plus (oneOf (letters ++ digits ++ only ['.', '_', '%', '+', '-'])),
  .text "@",
  .plus (oneOf (letters ++ digits ++ only ['.', '-'])),
  .text ".",
  .atLeast 2 (oneOf letters)]

/-- One character of a host name's part. -/
def hostChar : Pattern := oneOf (letters ++ digits ++ only ['_', '-'])

/-- A scheme, a host of two parts or more, and anything else on the line. -/
def urlPattern : Pattern := .all [
  .text "http", .optional (.text "s"), .text "://",
  .plus hostChar,
  .plus (.seq (.text ".") (.plus hostChar)),
  .optional (oneOf (only ['/', '#', '?'])),
  .star (.char (.without lineEnds))]

def digit : Pattern := oneOf digits

/-- A blank, a dash or a dot between two groups of digits, or nothing. -/
def separator : Pattern := .optional (oneOf (only ['-'] ++ scriptBlanks ++ only ['.']))

/-- An area code of three digits, three more digits, and four to six at the end. -/
def telPattern : Pattern := .all [
  .optional (.text "+"),
  .optional (.text "("), .times 3 digit, .optional (.text ")"),
  separator, .times 3 digit,
  separator, .timesThen 4 digit (.atMost 2 digit)]

/-- Whether a text that is not empty satisfies the constraint. -/
def accepts : Constraint → String → Bool
  | email, s => emailPattern.accepts s
  | url, s => urlPattern.accepts s
  | tel, s => telPattern.accepts s
  | minLength n, s => n ≤ Text.units s

/-! ## The conditions of a script -/

open Script in
/-- The e-mail pattern of a script; its flag stands for the small letters. -/
def emailRegex : RegexLiteral where
  body := .thenAll [
    .repeated (.oneOf [.range 'A' 'Z', .range '0' '9', .char '.', .char '_', .char '%', .char '+',
      .char '-']) .plus,
    .char '@',
    .repeated (.oneOf [.range 'A' 'Z', .range '0' '9', .char '.', .char '-']) .plus,
    .escaped '.'] (.repeated (.oneOf [.range 'A' 'Z']) (.atLeast 2))
  ignoreCase := true

open Script in
/-- The pattern of web addresses of a script. -/
def urlRegex : RegexLiteral where
  body := .thenAll [
    .char 'h', .char 't', .char 't', .char 'p', .repeated (.char 's') .optional, .char ':',
    .escaped '/', .escaped '/',
    .repeated (.oneOf [.word, .escaped '-']) .plus,
    .repeated (.group (.seq (.escaped '.') (.repeated (.oneOf [.word, .escaped '-']) .plus))) .plus,
    .repeated (.oneOf [.char '/', .char '#', .char '?']) .optional] (.repeated .any .star)
  ignoreCase := false

open Script in
/-- The pattern of telephone numbers of a script. -/
def telRegex : RegexLiteral where
  body := .thenAll [
    .repeated (.oneOf [.char '+']) .optional,
    .repeated (.oneOf [.char '(']) .optional,
    .repeated (.oneOf [.range '0' '9']) (.exactly 3),
    .repeated (.oneOf [.char ')']) .optional,
    .repeated (.oneOf [.char '-', .space, .char '.']) .optional,
    .repeated (.oneOf [.range '0' '9']) (.exactly 3),
    .repeated (.oneOf [.char '-', .space, .char '.']) .optional]
    (.repeated (.oneOf [.range '0' '9']) (.between 4 6))
  ignoreCase := false

/-- The condition under which a script finds that a text that is not empty violates the
constraint. -/
def violation : Constraint → Script.Condition
  | email => .mismatch emailRegex
  | url => .mismatch urlRegex
  | tel => .mismatch telRegex
  | minLength n => .shorterThan n

end Constraint

end Formwork
