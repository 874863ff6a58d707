import Formwork.Json
import Formwork.Source
import Formwork.Markup.Element

/-!
# The layout of markup

A markup tree is written in one of two dialects. All quoting happens here.

* An element without children is one tag or a pair of them.
* An element that holds text or an expression is written on one line, with everything in it.
* Any other element is a block with its children one level deeper.

In JSX a tag with more than three attributes gets a line for each of them, and a text or value that
would be read as markup is written as a string literal in braces.

`Element.write` goes over a tree once, and goes in and out as it passes the blocks. `Element.outline`
holds the same lines as a part of a larger text (`Element.writeAll_outline`).
-/

namespace Formwork.Markup

/-- The languages that markup is written in. -/
inductive Dialect
  | html
  | jsx
  deriving Repr, DecidableEq

/-- The number of attributes that a JSX tag may have on its own line. -/
def attrsPerLine : Nat := 3

/-- The HTML elements without a closing tag. -/
def voidTags : List String := ["input", "br", "hr", "img"]

/-! ## Quoting -/

/-- A character in HTML text or an attribute value. -/
def escapeChar (c : Char) : List Char :=
  if c = '&' then "&amp;".toList
  else if c = '<' then "&lt;".toList
  else if c = '>' then "&gt;".toList
  else if c = '"' then "&quot;".toList
  else if c = '\'' then "&#39;".toList
  else [c]

/-- A text in HTML text or an attribute value. -/
def escape (s : String) : String := String.ofList (s.toList.flatMap escapeChar)

/-- A script expression in braces. -/
def braced (e : String) : String := "\x7b" ++ e ++ "\x7d"

/-- The text has one of the characters. -/
def mentions (cs : List Char) (s : String) : Bool := s.toList.any cs.contains

/-- An attribute in a tag. -/
def Attr.render (d : Dialect) (a : Attr) : String :=
  match a.value, d with
  | .present, _ => a.name
  | .text v, .html => a.name ++ "=\"" ++ escape v ++ "\""
  | .expr v, .html => a.name ++ "=\"" ++ escape v ++ "\""
  | .text v, .jsx =>
    if mentions ['"', '&'] v then a.name ++ "=" ++ braced (Json.quote v)
    else a.name ++ "=\"" ++ v ++ "\""
  | .expr e, .jsx => a.name ++ "=" ++ braced e

/-- Attributes behind the name of a tag. -/
def renderAttrs (d : Dialect) (as : List Attr) : String :=
  String.join (as.map fun a => " " ++ a.render d)

/-- A text between tags. -/
def renderText : Dialect → String → String
  | .html, t => escape t
  | .jsx, t => if mentions ['{', '}', '<', '>', '&'] t then braced (Json.quote t) else t

/-- An opening tag up to its end. -/
def openTag (d : Dialect) (tag : String) (as : List Attr) : String :=
  "<" ++ tag ++ renderAttrs d as

def closeTag (tag : String) : String := "</" ++ tag ++ ">"

/-! ## On one line -/

mutual

/-- An element on one line. -/
def Element.inline (d : Dialect) : Element → String
  | .mk tag as [] => openTag d tag as ++ " />"
  | .mk tag as (c :: cs) =>
    openTag d tag as ++ ">" ++ c.inline d ++ inlineAll d cs ++ closeTag tag

/-- A child on the line of its element. -/
def Node.inline (d : Dialect) : Node → String
  | .element e => e.inline d
  | .text t => renderText d t
  | .expr e => braced e
  | .conditional condition body => braced (condition ++ " && " ++ body.inline d)

/-- Children on the line of their element. -/
def inlineAll (d : Dialect) : List Node → String
  | [] => ""
  | c :: cs => c.inline d ++ inlineAll d cs

end

/-! ## Over several lines -/

/-- Writes an opening tag. `ending` ends it, behind `gap` if that is on the tag's line. -/
def writeOpening (d : Dialect) (tag : String) (as : List Attr) (gap ending : String) (w : Source) :
    Source :=
  if d = .jsx ∧ attrsPerLine < as.length then
    let w := (w.line ("<" ++ tag)).indent
    let w := as.foldl (fun w a => w.line (a.render d)) w
    w.outdent.line ending
  else w.line (openTag d tag as ++ gap ++ ending)

/-- Writes an element without children. -/
def writeLeaf (d : Dialect) (tag : String) (as : List Attr) (w : Source) : Source :=
  match d with
  | .jsx => writeOpening d tag as " " "/>" w
  | .html =>
    if voidTags.contains tag then w.line (openTag d tag as ++ " />")
    else w.line (openTag d tag as ++ ">" ++ closeTag tag)

mutual

/-- Writes an element. -/
def Element.write (d : Dialect) : Element → Source → Source
  | .mk tag as [], w => writeLeaf d tag as w
  | .mk tag as (c :: cs), w =>
    if (c :: cs).any Node.isText then w.line (Element.inline d (.mk tag as (c :: cs)))
    else
      let w := (writeOpening d tag as "" ">" w).indent
      let w := writeAll d cs (c.write d w)
      w.outdent.line (closeTag tag)

/-- Writes a child of a block. -/
def Node.write (d : Dialect) : Node → Source → Source
  | .element e, w => e.write d w
  | .text t, w => w.line (renderText d t)
  | .expr e, w => w.line (braced e)
  | .conditional condition body, w =>
    w.block ("\x7b" ++ condition ++ " && (") ")\x7d" (body.write d)

/-- Writes the children of a block. -/
def writeAll (d : Dialect) : List Node → Source → Source
  | [], w => w
  | c :: cs, w => writeAll d cs (c.write d w)

end

/-- An element as text. -/
def Element.render (d : Dialect) (e : Element) : String := (e.write d .start).text

/-! ## Outlines -/

/-- The outline of an opening tag. -/
def opening (d : Dialect) (tag : String) (as : List Attr) (gap ending : String) : List Outline :=
  if d = .jsx ∧ attrsPerLine < as.length then
    Outline.block ("<" ++ tag) ending (Outline.ofLines (as.map (Attr.render d)))
  else [.line (openTag d tag as ++ gap ++ ending)]

/-- The outline of an element without children. -/
def leaf (d : Dialect) (tag : String) (as : List Attr) : List Outline :=
  match d with
  | .jsx => opening d tag as " " "/>"
  | .html =>
    if voidTags.contains tag then [.line (openTag d tag as ++ " />")]
    else [.line (openTag d tag as ++ ">" ++ closeTag tag)]

mutual

/-- The outline of an element. -/
def Element.outline (d : Dialect) : Element → List Outline
  | .mk tag as [] => leaf d tag as
  | .mk tag as (c :: cs) =>
    if (c :: cs).any Node.isText then [.line (Element.inline d (.mk tag as (c :: cs)))]
    else
      opening d tag as "" ">" ++
        [.deeper (c.outline d ++ outlineAll d cs), .line (closeTag tag)]

/-- The outline of a child in a block. -/
def Node.outline (d : Dialect) : Node → List Outline
  | .element e => e.outline d
  | .text t => [.line (renderText d t)]
  | .expr e => [.line (braced e)]
  | .conditional condition body =>
    Outline.block ("\x7b" ++ condition ++ " && (") ")\x7d" (body.outline d)

/-- The outlines of the children of a block. -/
def outlineAll (d : Dialect) : List Node → List Outline
  | [] => []
  | c :: cs => c.outline d ++ outlineAll d cs

end

theorem writeAll_opening (d : Dialect) (tag : String) (as : List Attr) (gap ending : String)
    (w : Source) :
    Outline.writeAll (opening d tag as gap ending) w = writeOpening d tag as gap ending w := by
  unfold opening writeOpening
  split
  · show (Outline.writeAll (Outline.ofLines _) (w.line _).indent).outdent.line ending = _
    rw [Outline.writeAll_ofLines, List.foldl_map]
  · rfl

theorem writeAll_leaf (d : Dialect) (tag : String) (as : List Attr) (w : Source) :
    Outline.writeAll (leaf d tag as) w = writeLeaf d tag as w := by
  cases d with
  | jsx => exact writeAll_opening .jsx tag as " " "/>" w
  | html =>
    simp only [leaf, writeLeaf]
    split
    · rfl
    · rfl

mutual

/-- **An element is written as its outline is.** -/
theorem Element.writeAll_outline (d : Dialect) (e : Element) (w : Source) :
    Outline.writeAll (e.outline d) w = e.write d w := by
  match e with
  | .mk tag as [] => exact writeAll_leaf d tag as w
  | .mk tag as (c :: cs) =>
    unfold Element.outline Element.write
    split
    · rfl
    · rw [Outline.writeAll_append, writeAll_opening]
      show (Outline.writeAll (c.outline d ++ outlineAll d cs) _).outdent.line _ = _
      rw [Outline.writeAll_append, Node.writeAll_outline d c, writeAll_outlineAll d cs]

theorem Node.writeAll_outline (d : Dialect) (c : Node) (w : Source) :
    Outline.writeAll (c.outline d) w = c.write d w := by
  match c with
  | .element e => exact e.writeAll_outline d w
  | .text t => rfl
  | .expr e => rfl
  | .conditional condition body =>
    show (Outline.writeAll (body.outline d) (w.line _).indent).outdent.line _ = _
    rw [body.writeAll_outline d]
    rfl

theorem writeAll_outlineAll (d : Dialect) (cs : List Node) (w : Source) :
    Outline.writeAll (outlineAll d cs) w = writeAll d cs w := by
  match cs with
  | [] => rfl
  | c :: cs =>
    rw [outlineAll, Outline.writeAll_append, Node.writeAll_outline d c, writeAll_outlineAll d cs,
      writeAll]

end

/-- The text of an element is that of its outline. -/
theorem Element.render_eq (d : Dialect) (e : Element) :
    e.render d = Outline.render (e.outline d) := by
  rw [render, Outline.render, writeAll_outline]

end Formwork.Markup
