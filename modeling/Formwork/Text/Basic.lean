/-!
# Characters of a text

* `trim` — a text without the blank characters at its ends. The blank characters are those with the
  Unicode property `White_Space`; they include the line separators, and neither the byte order mark
  nor the zero-width space.
* `segments` — the pieces of a text between the occurrences of a separator.
* `units` — the length of a text in the units of UTF-16, in which a script counts the characters of
  a string.
-/

namespace Formwork.Text

/-! ## Blank characters -/

/-- A character with the property `White_Space`. -/
def isBlank (c : Char) : Bool :=
  let n := c.toNat
  (0x09 ≤ n && n ≤ 0x0D) || n == 0x20 || n == 0x85 || n == 0xA0 || n == 0x1680 ||
    (0x2000 ≤ n && n ≤ 0x200A) || n == 0x2028 || n == 0x2029 || n == 0x202F || n == 0x205F ||
    n == 0x3000

/-- Characters without the blank ones at either end. -/
def trimChars (cs : List Char) : List Char :=
  ((cs.dropWhile isBlank).reverse.dropWhile isBlank).reverse

/-- A text without the blank characters at either end. -/
def trim (s : String) : String := String.ofList (trimChars s.toList)

/-! ## Segments -/

/-- The pieces between the occurrences of a separator; there is always at least one. -/
def segments (sep : Char) : List Char → List (List Char)
  | [] => [[]]
  | c :: cs =>
    if c = sep then [] :: segments sep cs
    else match segments sep cs with
      | [] => [[c]]
      | s :: ss => (c :: s) :: ss

theorem segments_ne_nil (sep : Char) (cs : List Char) : segments sep cs ≠ [] := by
  cases cs with
  | nil => simp [segments]
  | cons c cs =>
    simp only [segments]
    split
    · simp
    · split <;> simp

theorem segments_of_notMem {sep : Char} {cs : List Char} (h : sep ∉ cs) :
    segments sep cs = [cs] := by
  induction cs with
  | nil => rfl
  | cons c cs ih =>
    rw [List.mem_cons, not_or] at h
    rw [segments, if_neg (Ne.symm h.1), ih h.2]

/-! ## Code units -/

/-- The number of units that a character takes: two for those beyond U+FFFF. -/
def unitsOf (c : Char) : Nat := if c.toNat < 0x10000 then 1 else 2

/-- The number of units in some characters. -/
def unitCount : List Char → Nat
  | [] => 0
  | c :: cs => unitsOf c + unitCount cs

/-- The number of units in a text. -/
def units (s : String) : Nat := unitCount s.toList

end Formwork.Text
