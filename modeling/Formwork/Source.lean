/-!
# Source text

Generated text is written line by line, at a depth of indentation that goes up and down.

* `Source` — what has been written: the lines, and the depth of the next one.
* `Outline` — what is to be written: lines, and parts that stand one level deeper.

Writing an outline leaves the depth where it was, so outlines are put together without regard to
where they will stand.
-/

namespace Formwork

/-- The lines written so far and the depth of the next one. -/
structure Source where
  lines : Array String
  depth : Nat
  deriving Repr, DecidableEq

namespace Source

/-- Nothing written yet. -/
def start : Source := ⟨#[], 0⟩

/-- The margin of a line. -/
def margin (depth : Nat) : String := String.ofList (List.replicate (2 * depth) ' ')

/-- A text behind its margin; an empty line has none. -/
def indented (depth : Nat) (text : String) : String :=
  if text.isEmpty then "" else margin depth ++ text

/-- Writes a line at the current depth. -/
def line (text : String) (w : Source) : Source :=
  { w with lines := w.lines.push (indented w.depth text) }

/-- Writes an empty line. -/
def blank (w : Source) : Source := { w with lines := w.lines.push "" }

/-- Goes one level deeper. -/
def indent (w : Source) : Source := { w with depth := w.depth + 1 }

/-- Goes one level up, and not above the outermost. -/
def outdent (w : Source) : Source := { w with depth := w.depth - 1 }

/-- Writes a line, a body one level deeper and a line that closes it. -/
def block (opening closing : String) (body : Source → Source) (w : Source) : Source :=
  (body (w.line opening).indent).outdent.line closing

/-- The text written. There is no line break at its end. -/
def text (w : Source) : String := "\n".intercalate w.lines.toList

end Source

/-- A part of a text that is to be written. -/
inductive Outline
  | line (text : String)
  /-- Parts that stand one level deeper. -/
  | deeper (parts : List Outline)
  deriving Repr

namespace Outline

/-- An empty line. -/
def blank : Outline := line ""

/-- One line for each text. -/
def ofLines (texts : List String) : List Outline := texts.map line

/-- A line, a deeper part and a line that closes it. -/
def block (opening closing : String) (parts : List Outline) : List Outline :=
  [line opening, deeper parts, line closing]

mutual

/-- Writes a part. -/
def write : Outline → Source → Source
  | line text, w => w.line text
  | deeper parts, w => (writeAll parts w.indent).outdent

/-- Writes parts in their order. -/
def writeAll : List Outline → Source → Source
  | [], w => w
  | p :: ps, w => writeAll ps (p.write w)

end

mutual

/-- Writing a part leaves the depth where it was. -/
@[simp]
theorem depth_write (p : Outline) (w : Source) : (p.write w).depth = w.depth := by
  match p with
  | line text => rfl
  | deeper parts =>
    rw [write, Source.outdent, depth_writeAll parts w.indent]
    rfl

/-- Writing parts leaves the depth where it was. -/
@[simp]
theorem depth_writeAll (ps : List Outline) (w : Source) : (writeAll ps w).depth = w.depth := by
  match ps with
  | [] => rfl
  | p :: ps => rw [writeAll, depth_writeAll ps (p.write w), depth_write p w]

end

/-- Parts are written one after the other. -/
theorem writeAll_append (ps qs : List Outline) (w : Source) :
    writeAll (ps ++ qs) w = writeAll qs (writeAll ps w) := by
  induction ps generalizing w with
  | nil => rfl
  | cons p ps ih => exact ih (p.write w)

theorem writeAll_ofLines (texts : List String) (w : Source) :
    writeAll (ofLines texts) w = texts.foldl (fun w t => w.line t) w := by
  induction texts generalizing w with
  | nil => rfl
  | cons t ts ih => exact ih (w.line t)

/-- Parts as a text. -/
def render (parts : List Outline) : String := (writeAll parts .start).text

end Outline

end Formwork
