import Formwork.Text.Case
import Formwork.Script

/-!
# Options of a component

The name that a user gives to a component is brought into the form `UpperCamel`: it is taken apart
into words, and each word gets a capital and small letters after it.

A word ends at a space, an underscore or a hyphen, which go away, and where the letters show it:

* a small letter before a capital, and a digit next to a letter;
* the last of several capitals begins a new word if a small letter follows it.

What is then no ASCII identifier is replaced by `defaultName`.
-/

namespace Formwork.Component

/-- The name of a component that was given none. -/
def defaultName : String := "MyForm"

/-! ## Letters -/

/-- A character that is its own upper case and has another lower case. -/
def isCapital (c : Char) : Bool := Text.upperChar c == [c] && Text.lowerChar c != [c]

/-- A character that is its own lower case and has another upper case. -/
def isSmall (c : Char) : Bool := Text.lowerChar c == [c] && Text.upperChar c != [c]

/-- A character that separates words and belongs to none. -/
def isDelimiter (c : Char) : Bool := c == ' ' || c == '_' || c == '-'

/-! ## Words -/

/-- A word ends between two characters. -/
def endsBetween (c d : Char) : Bool :=
  (isSmall c && isCapital d) || (isCapital c && d.isDigit) || (c.isDigit && isCapital d) ||
    (c.isDigit && isSmall d) || (isSmall c && d.isDigit)

/-- A word ends after `c` when `rest` follows. -/
def endsBefore (c : Char) : List Char → Bool
  | [] => false
  | [d] => endsBetween c d
  | d :: e :: _ => endsBetween c d || (isCapital c && isCapital d && isSmall e)

/-- The words of a name; some of them may be empty. -/
def words : List Char → List (List Char)
  | [] => [[]]
  | c :: cs =>
    if isDelimiter c then [] :: words cs
    else match words cs with
      | [] => [[c]]
      | w :: ws => if endsBefore c cs then [c] :: w :: ws else (c :: w) :: ws

/-- A word with a capital in front and small letters after it. -/
def capitalized : List Char → List Char
  | [] => []
  | c :: cs => Text.upperChar c ++ Text.lowerChars cs

/-- The words of a name, capitalized and joined. -/
def upperCamel (name : String) : String :=
  String.ofList ((words name.toList).flatMap capitalized)

/-- The name of the component that a user's name stands for. -/
def resolveName (name : String) : String :=
  if Script.isIdentifier (upperCamel name) then upperCamel name else defaultName

theorem isIdentifier_resolveName (name : String) :
    Script.isIdentifier (resolveName name) = true := by
  unfold resolveName
  split
  · next h => exact h
  · decide

/-! ## Options -/

/-- What can be chosen about a generated component. -/
structure Options where
  /-- The user's name for the component, in any notation. -/
  name : String
  /-- The line under the heading. -/
  subtitle : String
  /-- Forms with two fields that share a state key are refused. -/
  strictKeys : Bool
  /-- How long the submit handler pretends to wait, in milliseconds. -/
  submitDelay : Nat
  deriving Repr, DecidableEq

namespace Options

/-- The options of a user who chose nothing. -/
def standard : Options where
  name := defaultName
  subtitle := "Please fill in the required information"
  strictKeys := false
  submitDelay := 1000

/-- The name of the component. -/
def resolvedName (o : Options) : String := resolveName o.name

end Options

end Formwork.Component
