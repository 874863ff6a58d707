import Mathlib
import Formwork.Text.Basic

/-!
# UTF-16

A script sees a text as a list of 16-bit units: one for each character up to U+FFFF, and a pair of
surrogates for each character beyond.

No character's units begin those of another, so a text can be cut between its units only in front of
a unit that starts a character (`encode_eq_append_iff`).
-/

namespace Formwork.Text

/-- The units of a character. -/
def encodeChar (c : Char) : List UInt16 :=
  if c.toNat < 0x10000 then [.ofNat c.toNat]
  else [.ofNat (0xD800 + (c.toNat - 0x10000) / 0x400), .ofNat (0xDC00 + (c.toNat - 0x10000) % 0x400)]

/-- The units of some characters. -/
def encode (cs : List Char) : List UInt16 := cs.flatMap encodeChar

/-- A text as a script sees it. -/
def utf16 (s : String) : List UInt16 := encode s.toList

@[simp]
theorem encode_nil : encode [] = [] := rfl

@[simp]
theorem encode_cons (c : Char) (cs : List Char) : encode (c :: cs) = encodeChar c ++ encode cs :=
  rfl

@[simp]
theorem encode_append (cs ds : List Char) : encode (cs ++ ds) = encode cs ++ encode ds :=
  List.flatMap_append

theorem encode_flatten (css : List (List Char)) : encode css.flatten = (css.map encode).flatten := by
  induction css with
  | nil => rfl
  | cons cs css ih => rw [List.flatten_cons, encode_append, ih, List.map_cons, List.flatten_cons]

/-- Counting the units of a text and listing them agree. -/
theorem length_encode (cs : List Char) : (encode cs).length = unitCount cs := by
  induction cs with
  | nil => rfl
  | cons c cs ih =>
    rw [encode_cons, List.length_append, ih, unitCount, encodeChar, unitsOf]
    split <;> rfl

theorem toNat_lt (c : Char) : c.toNat < 0xD800 ∨ (0xDFFF < c.toNat ∧ c.toNat < 0x110000) := c.valid

/-! ## One character -/

theorem encodeChar_of_lt {c : Char} (h : c.toNat < 0x10000) :
    encodeChar c = [.ofNat c.toNat] := if_pos h

theorem encodeChar_of_le {c : Char} (h : 0x10000 ≤ c.toNat) :
    encodeChar c = [.ofNat (0xD800 + (c.toNat - 0x10000) / 0x400),
      .ofNat (0xDC00 + (c.toNat - 0x10000) % 0x400)] :=
  if_neg (Nat.not_lt.mpr h)

/-- A character with a single unit is that unit. -/
theorem encodeChar_eq_singleton_iff {c : Char} {u : UInt16} :
    encodeChar c = [u] ↔ c.toNat = u.toNat := by
  by_cases hc : c.toNat < 0x10000
  · rw [encodeChar_of_lt hc, List.singleton_inj, ← UInt16.toNat_inj, UInt16.toNat_ofNat_of_lt' hc]
  · have hu := u.toNat_lt
    rw [encodeChar_of_le (by omega)]
    constructor
    · intro h
      cases h
    · intro h
      omega

/-- A character up to U+FFFF has no unit but its own. -/
theorem mem_encodeChar_iff {c : Char} {u : UInt16} (hc : c.toNat < 0x10000) :
    u ∈ encodeChar c ↔ u.toNat = c.toNat := by
  rw [encodeChar_of_lt hc, List.mem_singleton, ← UInt16.toNat_inj, UInt16.toNat_ofNat_of_lt' hc]

/-- A unit that is no surrogate is a character. -/
theorem exists_char_of_unit {u : UInt16} (hu : u.toNat < 0xD800 ∨ 0xDFFF < u.toNat) :
    ∃ c : Char, c.toNat = u.toNat := by
  have hlt := u.toNat_lt
  refine ⟨Char.ofNat u.toNat, ?_⟩
  rw [Char.toNat_ofNat, if_pos (by unfold Nat.isValidChar; omega)]

/-- **No character's units begin those of another.** -/
theorem encodeChar_append_inj {c d : Char} {us vs : List UInt16}
    (h : encodeChar c ++ us = encodeChar d ++ vs) : c = d ∧ us = vs := by
  have hc := toNat_lt c
  have hd := toNat_lt d
  have hsize : UInt16.size = 0x10000 := rfl
  rw [← Char.toNat_inj]
  by_cases hc' : c.toNat < 0x10000
  · rw [encodeChar_of_lt hc'] at h
    by_cases hd' : d.toNat < 0x10000
    · rw [encodeChar_of_lt hd'] at h
      obtain ⟨h₁, rfl⟩ := List.cons.inj h
      rw [← UInt16.toNat_inj, UInt16.toNat_ofNat_of_lt' hc', UInt16.toNat_ofNat_of_lt' hd'] at h₁
      exact ⟨h₁, rfl⟩
    · -- a character of one unit is no surrogate
      rw [encodeChar_of_le (by omega)] at h
      have h₁ := (List.cons.inj h).1
      rw [← UInt16.toNat_inj, UInt16.toNat_ofNat_of_lt' hc',
        UInt16.toNat_ofNat_of_lt' (by omega)] at h₁
      omega
  · rw [encodeChar_of_le (by omega)] at h
    by_cases hd' : d.toNat < 0x10000
    · rw [encodeChar_of_lt hd'] at h
      have h₁ := (List.cons.inj h).1
      rw [← UInt16.toNat_inj, UInt16.toNat_ofNat_of_lt' hd',
        UInt16.toNat_ofNat_of_lt' (by omega)] at h₁
      omega
    · rw [encodeChar_of_le (by omega)] at h
      obtain ⟨h₁, h'⟩ := List.cons.inj h
      obtain ⟨h₂, rfl⟩ := List.cons.inj h'
      rw [← UInt16.toNat_inj, UInt16.toNat_ofNat_of_lt' (by omega),
        UInt16.toNat_ofNat_of_lt' (by omega)] at h₁ h₂
      exact ⟨by omega, rfl⟩

/-! ## Several characters -/

theorem encodeChar_ne_nil (c : Char) : encodeChar c ≠ [] := by
  unfold encodeChar
  split <;> simp

/-- Behind the units of some of its characters, a text goes on with the units of the others. -/
theorem encode_eq_append_iff {cs ds : List Char} {us : List UInt16} :
    encode cs = encode ds ++ us ↔ ∃ es, cs = ds ++ es ∧ us = encode es := by
  induction ds generalizing cs with
  | nil =>
    rw [encode_nil, List.nil_append]
    exact ⟨fun h => ⟨cs, rfl, h.symm⟩, by rintro ⟨es, rfl, rfl⟩; rfl⟩
  | cons d ds ih =>
    constructor
    · intro h
      cases cs with
      | nil =>
        rw [encode_nil, encode_cons, List.append_assoc, eq_comm, List.append_eq_nil_iff] at h
        exact absurd h.1 (encodeChar_ne_nil d)
      | cons c cs =>
        rw [encode_cons, encode_cons, List.append_assoc] at h
        -- both begin with the units of a character, so it is the same one
        obtain ⟨rfl, h'⟩ := encodeChar_append_inj h
        obtain ⟨es, rfl, hes⟩ := ih.mp h'
        exact ⟨es, rfl, hes⟩
    · rintro ⟨es, rfl, rfl⟩
      exact encode_append (d :: ds) es

/-- Texts with the same units are the same. -/
theorem encode_inj {cs ds : List Char} : encode cs = encode ds ↔ cs = ds := by
  constructor
  · intro h
    obtain ⟨es, hcs, hes⟩ := encode_eq_append_iff.mp (h.trans (List.append_nil (encode ds)).symm)
    cases es with
    | nil => rw [hcs, List.append_nil]
    | cons e es =>
      rw [encode_cons, eq_comm, List.append_eq_nil_iff] at hes
      exact absurd hes.1 (encodeChar_ne_nil e)
  · rintro rfl
    rfl

end Formwork.Text
