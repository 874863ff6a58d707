import Formwork.Proofs.Script.Member

/-!
# Reading object literals

A reader for the keys that a script declares and for object literals that hold texts, and its round
trip. A key is a bare name or a string literal, and so it may hold any character that separates
entries. The quotes keep it apart from them.

* `key?` — the key at the front of a text, and what follows it.
* `object?` — the entries of the object literal at the front of a text, and what follows it.
-/

namespace Formwork.Script

/-! ## The reader -/

/-- The key at the front of a text, and what follows it. -/
def key? (cs : List Char) : Option (String × List Char) := (Json.literal? cs).or (name? cs)

/-- A key with a text at the front, and what follows them. -/
def entry? (cs : List Char) : Option ((String × String) × List Char) := do
  let (key, rest) ← key? cs
  let rest ← behind? ": ".toList rest
  let (value, rest) ← Json.literal? rest
  some ((key, value), rest)

/-- The entries up to the brace that ends an object, `n` of them at most, and what follows it. -/
def entries? : Nat → List Char → Option (List (String × String) × List Char)
  | 0, _ => none
  | n + 1, cs => do
    let (e, rest) ← entry? cs
    match behind? ", ".toList rest with
    | some rest =>
      let (es, rest) ← entries? n rest
      some (e :: es, rest)
    | none =>
      let rest ← behind? " \x7d".toList rest
      some ([e], rest)

/-- The entries of the object at the front of a text, and what follows it. -/
def object? (cs : List Char) : Option (List (String × String) × List Char) :=
  match behind? "\x7b\x7d".toList cs with
  | some rest => some ([], rest)
  | none => (behind? "\x7b ".toList cs).bind (entries? cs.length)

/-! ## Keys -/

theorem literal?_of_isIdentifier {s : String} (h : isIdentifier s = true) (rest : List Char) :
    Json.literal? (s.toList ++ rest) = none := by
  obtain ⟨c, cs, hs, hc, -⟩ := exists_of_isIdentifier h
  have hquote : c ≠ '"' := by
    rintro rfl
    exact absurd hc (by decide)
  rw [hs, List.cons_append, Json.literal?]
  simpa using hquote

/-- **A key is read back**, with what follows it. -/
theorem key?_propertyKey (key : String) {rest : List Char} (hrest : Breaks rest) :
    key? ((propertyKey key).toList ++ rest) = some (key, rest) := by
  unfold propertyKey key?
  split
  · next h => rw [literal?_of_isIdentifier h, name?_append h hrest, Option.none_or]
  · rw [Json.literal?_quote, Option.some_or]

/-! ## Entries -/

/-- A key with a text. -/
def entry (e : String × String) : String := propertyKey e.1 ++ ": " ++ Json.quote e.2

theorem entry?_entry (e : String × String) (rest : List Char) :
    entry? ((entry e).toList ++ rest) = some (e, rest) := by
  have hs : (entry e).toList ++ rest =
      (propertyKey e.1).toList ++ (": ".toList ++ ((Json.quote e.2).toList ++ rest)) := by
    simp [entry]
  have hkey := key?_propertyKey e.1
    (breaks_append ": ".toList (by decide) ((Json.quote e.2).toList ++ rest))
  unfold entry?
  rw [hs, hkey]
  simp only [Option.bind_eq_bind, Option.bind_some, behind?_eq_some_iff.mpr rfl,
    Json.literal?_quote]

/-- **Entries are read back** from their texts with commas between them, up to the brace. -/
theorem entries?_intercalate (e : String × String) (es : List (String × String)) {n : Nat}
    (hn : es.length < n) (rest : List Char) :
    entries? n (", ".toList.intercalate ((e :: es).map fun e => (entry e).toList) ++
      (" \x7d".toList ++ rest)) = some (e :: es, rest) := by
  induction es generalizing e n with
  | nil =>
    obtain ⟨m, rfl⟩ := Nat.exists_eq_succ_of_ne_zero (Nat.ne_of_gt hn)
    have hcomma : behind? ", ".toList (" \x7d".toList ++ rest) = none := rfl
    rw [List.map_cons, List.map_nil, List.intercalate_singleton, entries?, entry?_entry]
    simp only [Option.bind_eq_bind, Option.bind_some, hcomma, behind?_eq_some_iff.mpr rfl]
  | cons d es ih =>
    obtain ⟨m, rfl⟩ := Nat.exists_eq_succ_of_ne_zero (Nat.ne_of_gt (Nat.zero_lt_of_lt hn))
    have ih := ih d (Nat.lt_of_succ_lt_succ hn)
    rw [List.map_cons] at ih
    rw [List.map_cons, List.map_cons, List.intercalate_cons_cons, List.append_assoc,
      List.append_assoc, entries?, entry?_entry]
    simp only [Option.bind_eq_bind, Option.bind_some, behind?_eq_some_iff.mpr rfl, ih]

/-- The text of an object literal has room for its entries. -/
theorem length_lt_length_intercalate (e : String × String) (es : List (String × String))
    (rest : List Char) :
    es.length < ("\x7b ".toList ++ (", ".toList.intercalate
      ((e :: es).map fun e => (entry e).toList) ++ rest)).length := by
  induction es generalizing e with
  | nil => simp
  | cons d es ih =>
    have := ih d
    rw [List.map_cons] at this
    rw [List.map_cons, List.map_cons, List.intercalate_cons_cons]
    simp at this ⊢
    omega

/-- The text of an object literal. -/
def object (es : List (String × String)) : String :=
  if es.isEmpty then "\x7b\x7d" else "\x7b " ++ ", ".intercalate (es.map entry) ++ " \x7d"

/-- **An object literal is read back**, with what follows it. -/
theorem object?_object (es : List (String × String)) (rest : List Char) :
    object? ((object es).toList ++ rest) = some (es, rest) := by
  unfold object? object
  cases es with
  | nil =>
    have h : behind? "\x7b\x7d".toList ("\x7b\x7d".toList ++ rest) = some rest :=
      behind?_eq_some_iff.mpr rfl
    simp only [List.isEmpty_nil, if_true, h]
  | cons e es =>
    have hs : ("\x7b " ++ ", ".intercalate ((e :: es).map entry) ++ " \x7d").toList ++ rest =
        "\x7b ".toList ++ (", ".toList.intercalate ((e :: es).map fun e => (entry e).toList) ++
          (" \x7d".toList ++ rest)) := by
      simp [String.toList_intercalate, Function.comp_def]
    have hempty : behind? "\x7b\x7d".toList ("\x7b ".toList ++ (", ".toList.intercalate
        ((e :: es).map fun e => (entry e).toList) ++ (" \x7d".toList ++ rest))) = none := rfl
    simp only [List.isEmpty_cons, Bool.false_eq_true, if_false]
    rw [hs, hempty]
    simp only [behind?_eq_some_iff.mpr rfl, Option.bind_some]
    exact entries?_intercalate e es (length_lt_length_intercalate e es _) rest

end Formwork.Script
