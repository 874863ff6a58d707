import Formwork.Script
import Formwork.Text.Case
import Formwork.Proofs.Text.Utf16

/-!
# What conditions mean

The meaning of the conditions of a script, on texts as the script sees them: lists of UTF-16 units.
A regular expression takes a unit for a character, so it may match half a character. A literal is
anchored at both ends and matches whole texts.

## Letter case

With the flag `i` two units are the same when `canonicalize` makes them the same. It takes a unit to
its upper case if that is a single unit, and never from beyond ASCII into ASCII.

* `Regex.Matches` — the texts of a term.
* `Condition.Holds` — when a condition on a text is true.
-/

namespace Formwork.Script

/-! ## Units -/

/-- The upper case of a unit. A surrogate is no character on its own and stays. -/
def upperUnits (u : UInt16) : List UInt16 :=
  if u.toNat.isValidChar then Text.encode (Text.upperChar (Char.ofNat u.toNat)) else [u]

/-- The unit that stands for all those that differ from it in case only. -/
def canonicalize (u : UInt16) : UInt16 :=
  match upperUnits u with
  | [v] => if 0x80 ≤ u.toNat ∧ v.toNat < 0x80 then u else v
  | _ => u

/-- A unit as it is compared with others. -/
def compared (ignoreCase : Bool) (u : UInt16) : UInt16 := if ignoreCase then canonicalize u else u

/-- A unit that ends a line. -/
def EndsLine (u : UInt16) : Prop := u ∈ [0x0A, 0x0D, 0x2028, 0x2029]

/-- A unit that `\w` stands for: an ASCII letter or digit, or the underscore. -/
def IsWord (u : UInt16) : Prop :=
  0x41 ≤ u.toNat ∧ u.toNat ≤ 0x5A ∨ 0x61 ≤ u.toNat ∧ u.toNat ≤ 0x7A ∨
    0x30 ≤ u.toNat ∧ u.toNat ≤ 0x39 ∨ u.toNat = 0x5F

/-- A unit that `\s` stands for: tab, line feed, vertical tab, form feed, carriage return, the byte
order mark, the line and paragraph separators, and the space separators. -/
def IsSpace (u : UInt16) : Prop :=
  0x09 ≤ u.toNat ∧ u.toNat ≤ 0x0D ∨ u.toNat = 0xFEFF ∨ u.toNat = 0x2028 ∨ u.toNat = 0x2029 ∨
    u.toNat = 0x20 ∨ u.toNat = 0xA0 ∨ u.toNat = 0x1680 ∨ 0x2000 ≤ u.toNat ∧ u.toNat ≤ 0x200A ∨
    u.toNat = 0x202F ∨ u.toNat = 0x205F ∨ u.toNat = 0x3000

/-- The units that a member of a class stands for. -/
def ClassItem.Has : ClassItem → UInt16 → Prop
  | char c, u => u ∈ Text.encodeChar c
  | escaped c, u => u ∈ Text.encodeChar c
  | range a b, u => a.toNat ≤ u.toNat ∧ u.toNat ≤ b.toNat
  | word, u => IsWord u
  | space, u => IsSpace u

/-- The numbers of repetitions that a quantifier allows. -/
def Quantifier.Allows : Quantifier → Nat → Prop
  | optional, k => k ≤ 1
  | star, _ => True
  | plus, k => 1 ≤ k
  | exactly n, k => k = n
  | atLeast n, k => n ≤ k
  | between m n, k => m ≤ k ∧ k ≤ n

/-! ## Terms and conditions -/

/-- The texts of a term. -/
def Regex.Matches (ignoreCase : Bool) : Regex → List UInt16 → Prop
  | char c, us => us.map (compared ignoreCase) = (Text.encodeChar c).map (compared ignoreCase)
  | escaped c, us => us.map (compared ignoreCase) = (Text.encodeChar c).map (compared ignoreCase)
  | oneOf items, us =>
    ∃ u a, us = [u] ∧ compared ignoreCase a = compared ignoreCase u ∧ ∃ i ∈ items, i.Has a
  | any, us => ∃ u a, us = [u] ∧ compared ignoreCase a = compared ignoreCase u ∧ ¬ EndsLine a
  | group r, us => r.Matches ignoreCase us
  | repeated r q, us =>
    ∃ parts : List (List UInt16), q.Allows parts.length ∧
      (∀ part ∈ parts, r.Matches ignoreCase part) ∧ us = parts.flatten
  | seq r s, us => ∃ vs ws, r.Matches ignoreCase vs ∧ s.Matches ignoreCase ws ∧ us = vs ++ ws

/-- The texts that a literal matches. -/
def RegexLiteral.Matches (l : RegexLiteral) (us : List UInt16) : Prop :=
  l.body.Matches l.ignoreCase us

/-- The condition is true of a text. -/
def Condition.Holds : Condition → List UInt16 → Prop
  | mismatch l, us => ¬ l.Matches us
  | shorterThan n, us => us.length < n

/-! ## Letter case in ASCII -/

/-- Inside ASCII, the small letters are taken to the capitals. -/
theorem toNat_canonicalize_of_lt {u : UInt16} (h : u.toNat < 0x80) :
    (canonicalize u).toNat =
      if 0x61 ≤ u.toNat ∧ u.toNat ≤ 0x7A then u.toNat - 0x20 else u.toNat := by
  -- each unit of ASCII in turn, by its number
  have hall : ∀ n ∈ List.range 0x80, (canonicalize (.ofNat n)).toNat =
      if 0x61 ≤ n ∧ n ≤ 0x7A then n - 0x20 else n := by decide +kernel
  have hu := hall u.toNat (List.mem_range.mpr h)
  rwa [UInt16.ofNat_toNat] at hu

/-- Beyond ASCII, nothing is taken into ASCII. -/
theorem le_toNat_canonicalize {u : UInt16} (h : 0x80 ≤ u.toNat) :
    0x80 ≤ (canonicalize u).toNat := by
  unfold canonicalize
  split
  · split
    · exact h
    · omega
  · exact h

/-- An ASCII unit is compared as equal with itself and the same letter in the other case. -/
theorem canonicalize_eq_iff {a u : UInt16} (ha : a.toNat < 0x80) :
    canonicalize a = canonicalize u ↔ a = u ∨
      (0x41 ≤ a.toNat ∧ a.toNat ≤ 0x5A ∧ u.toNat = a.toNat + 0x20) ∨
      (0x61 ≤ a.toNat ∧ a.toNat ≤ 0x7A ∧ u.toNat + 0x20 = a.toNat) := by
  rw [← UInt16.toNat_inj, ← UInt16.toNat_inj]
  have hca := toNat_canonicalize_of_lt ha
  by_cases hu : u.toNat < 0x80
  · have hcu := toNat_canonicalize_of_lt hu
    rw [hca, hcu]
    split <;> split <;> omega
  · have hcu := le_toNat_canonicalize (Nat.not_lt.mp hu)
    rw [hca]
    split <;> omega

end Formwork.Script
