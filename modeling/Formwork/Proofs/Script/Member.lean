import Formwork.Script
import Formwork.Proofs.Json.Literal
import Formwork.Proofs.Script.Syntax

/-!
# Reading member accesses

A reader for the accesses to a property, by a bare name behind a dot or by a string literal in
brackets, and its round trip with `member`.

A bare name goes as far as its characters do. So an access is read back only in front of a character
that cannot be part of a name (`Breaks`).

* `member?` — the key under which an object is accessed at the front of a text, and what follows.
-/

namespace Formwork.Script

/-- The bare name at the front of a text, and what follows it. -/
def name? : List Char → Option (String × List Char)
  | [] => none
  | c :: cs =>
    if isNameStart c then
      some (String.ofList (c :: cs.takeWhile isNamePart), cs.dropWhile isNamePart)
    else none

/-- The key of an access, behind the object. -/
def access? : List Char → Option (String × List Char)
  | '.' :: cs => name? cs
  | '[' :: cs => do
    let (key, rest) ← Json.literal? cs
    let rest ← behind? [']'] rest
    some (key, rest)
  | _ => none

/-- The key under which `target` is accessed at the front of a text, and what follows. -/
def member? (target : String) (cs : List Char) : Option (String × List Char) :=
  (behind? target.toList cs).bind access?

/-- The text does not go on with a character of a name. -/
def Breaks (cs : List Char) : Prop := ∀ c, cs.head? = some c → isNamePart c = false

theorem breaks_append (ps : List Char) (h : (ps.head?.any fun c => !isNamePart c) = true)
    (cs : List Char) : Breaks (ps ++ cs) := by
  cases ps with
  | nil => cases h
  | cons p ps =>
    intro c hc
    obtain rfl : p = c := Option.some_inj.mp hc
    simpa using h

theorem Breaks.takeWhile_eq {cs : List Char} (h : Breaks cs) : cs.takeWhile isNamePart = [] := by
  cases cs with
  | nil => rfl
  | cons c cs => rw [List.takeWhile_cons, h c rfl]; rfl

theorem Breaks.dropWhile_eq {cs : List Char} (h : Breaks cs) : cs.dropWhile isNamePart = cs := by
  cases cs with
  | nil => rfl
  | cons c cs => rw [List.dropWhile_cons, h c rfl]; rfl

/-! ## Identifiers -/

theorem exists_of_isIdentifier {s : String} (h : isIdentifier s = true) :
    ∃ c cs, s.toList = c :: cs ∧ isNameStart c = true ∧ ∀ d ∈ cs, isNamePart d = true := by
  unfold isIdentifier at h
  split at h
  · cases h
  · next c cs hs =>
    rw [Bool.and_eq_true, List.all_eq_true] at h
    exact ⟨c, cs, hs, h.1, h.2⟩

theorem isNamePart_of_isNameStart {c : Char} (h : isNameStart c = true) : isNamePart c = true := by
  unfold isNameStart at h
  unfold isNamePart Char.isAlphanum
  simp only [Bool.or_eq_true] at h ⊢
  rcases h with (h | h) | h
  · exact .inl (.inl (.inl h))
  · exact .inl (.inr h)
  · exact .inr h

theorem isNamePart_of_mem {s : String} (h : isIdentifier s = true) :
    ∀ c ∈ s.toList, isNamePart c = true := by
  obtain ⟨c, cs, hs, hc, hcs⟩ := exists_of_isIdentifier h
  rw [hs, List.forall_mem_cons]
  exact ⟨isNamePart_of_isNameStart hc, hcs⟩

/-! ## Round trip -/

theorem name?_append {s : String} {rest : List Char} (hs : isIdentifier s = true)
    (hrest : Breaks rest) : name? (s.toList ++ rest) = some (s, rest) := by
  obtain ⟨c, cs, h, hc, hcs⟩ := exists_of_isIdentifier hs
  rw [h, List.cons_append, name?, if_pos hc, List.takeWhile_append_of_pos hcs,
    List.dropWhile_append_of_pos hcs, hrest.takeWhile_eq, hrest.dropWhile_eq, List.append_nil, ← h,
    String.ofList_toList]

/-- A key in an object begins with a letter or a quote. -/
theorem exists_toList_propertyKey (key : String) :
    ∃ c cs, (propertyKey key).toList = c :: cs ∧ c ≠ ' ' := by
  unfold propertyKey
  split
  · next h =>
    obtain ⟨c, cs, hs, hc, -⟩ := exists_of_isIdentifier h
    refine ⟨c, cs, hs, ?_⟩
    rintro rfl
    exact absurd hc (by decide)
  · exact ⟨'"', _, Json.toList_quote key, by decide⟩

/-- An access begins with the object. -/
theorem exists_toList_member (target key : String) :
    ∃ cs, (member target key).toList = target.toList ++ cs := by
  unfold member
  split
  · exact ⟨('.' :: key.toList), by simp⟩
  · exact ⟨'[' :: ((Json.quote key).toList ++ [']']), by simp⟩

/-- **An access is read back**, with the key and what follows. -/
theorem member?_member (target key : String) {rest : List Char} (hrest : Breaks rest) :
    member? target ((member target key).toList ++ rest) = some (key, rest) := by
  unfold member member?
  split
  · next hkey =>
    have hb : behind? target.toList ((target ++ "." ++ key).toList ++ rest) =
        some ('.' :: (key.toList ++ rest)) := by
      rw [behind?_eq_some_iff]
      simp
    rw [hb, Option.bind_some, access?, name?_append hkey hrest]
  · have hb : behind? target.toList ((target ++ "[" ++ Json.quote key ++ "]").toList ++ rest) =
        some ('[' :: ((Json.quote key).toList ++ ']' :: rest)) := by
      rw [behind?_eq_some_iff]
      simp
    rw [hb, Option.bind_some, access?, Json.literal?_quote]
    rfl

/-! ## One line -/

theorem newline_notMem_of_isIdentifier {s : String} (h : isIdentifier s = true) :
    '\n' ∉ s.toList := by
  intro hmem
  exact absurd (isNamePart_of_mem h _ hmem) (by decide)

theorem newline_notMem_propertyKey (key : String) : '\n' ∉ (propertyKey key).toList := by
  unfold propertyKey
  split
  · next h => exact newline_notMem_of_isIdentifier h
  · exact Json.newline_notMem_quote key

theorem newline_notMem_member {target : String} (ht : '\n' ∉ target.toList) (key : String) :
    '\n' ∉ (member target key).toList := by
  unfold member
  split
  · next h => simp [ht, newline_notMem_of_isIdentifier h]
  · simp [ht, Json.newline_notMem_quote key]

end Formwork.Script
