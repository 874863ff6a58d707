/-!
# Markup trees

A form's markup as a tree of elements. The tree carries raw labels, keys and script expressions;
nothing in it is escaped. How a value has to be quoted is decided where the tree is written down.
-/

namespace Formwork.Markup

/-- The value of an attribute. -/
inductive AttrValue
  /-- A text. -/
  | text (s : String)
  /-- An expression of a script. -/
  | expr (e : String)
  /-- The attribute is just there. -/
  | present
  deriving Repr, DecidableEq

/-- A named attribute. -/
structure Attr where
  name : String
  value : AttrValue
  deriving Repr, DecidableEq

/-- An attribute with a text as its value. -/
def attr (name value : String) : Attr := ⟨name, .text value⟩

/-- An attribute with a script expression as its value. -/
def dynamic (name value : String) : Attr := ⟨name, .expr value⟩

/-- An attribute without a value where `on`, and none otherwise. -/
def switch (name : String) (on : Bool) : List Attr := if on then [⟨name, .present⟩] else []

mutual

/-- An element with its attributes and children. -/
inductive Element
  | mk (tag : String) (attrs : List Attr) (children : List Node)
  deriving Repr

/-- What stands between the tags of an element. -/
inductive Node
  | element (e : Element)
  | text (s : String)
  /-- The value of a script expression. -/
  | expr (e : String)
  /-- An element that is there while a script condition holds. -/
  | conditional (condition : String) (body : Element)
  deriving Repr

end

/-- A text, or the value of an expression. -/
def Node.isText : Node → Bool
  | .text _ => true
  | .expr _ => true
  | _ => false

namespace Element

def tag : Element → String
  | mk t _ _ => t

def attrs : Element → List Attr
  | mk _ as _ => as

def children : Element → List Node
  | mk _ _ cs => cs

/-- An element that holds text or an expression keeps all its content on one line. -/
def isInline (e : Element) : Bool := e.children.any Node.isText

end Element

end Formwork.Markup
