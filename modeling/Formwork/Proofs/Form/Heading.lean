import Formwork.Form
import Mathlib.Data.List.Chain

/-!
# Headings

A heading puts a space in front of each ASCII capital of a label but its first character. A label may
have spaces there already, and nothing tells them from those that were put in. But the heading has one
more in front of each capital, so taking one away from each leaves the label.

* `unspaced` — a text without the space in front of each of its capitals.
* `CapitalsBehindSpaces` — the texts that have a space there.

**Main statement**: `spaced_loses_nothing`.
-/

namespace Formwork

/-! ## Taking the spaces away -/

/-- Some characters without each space that stands directly in front of an ASCII capital. Of several
spaces in front of a capital, only the last does. -/
def unspaceCapitals : List Char → List Char
  | [] => []
  | c :: cs =>
    if c = ' ' ∧ cs.head?.any Char.isUpper then unspaceCapitals cs else c :: unspaceCapitals cs

/-- A text without the space directly in front of each ASCII capital. -/
def unspaced (s : String) : String := String.ofList (unspaceCapitals s.toList)

/-- Every ASCII capital but the first character stands directly behind a space. -/
def CapitalsBehindSpaces (cs : List Char) : Prop :=
  cs.IsChain fun c d => d.isUpper = true → c = ' '

variable {c : Char} {cs : List Char}

theorem unspaceCapitals_space (h : c.isUpper = true) (cs : List Char) :
    unspaceCapitals (' ' :: c :: cs) = unspaceCapitals (c :: cs) :=
  if_pos ⟨rfl, h⟩

theorem unspaceCapitals_cons (h : cs.head?.any Char.isUpper = false) (c : Char) :
    unspaceCapitals (c :: cs) = c :: unspaceCapitals cs := by
  rw [unspaceCapitals, if_neg (by simp [h])]

/-! ## Putting them in -/

theorem spaceCapitals_cons_of_isUpper (h : c.isUpper = true) (cs : List Char) :
    spaceCapitals (c :: cs) = ' ' :: c :: spaceCapitals cs := by
  simp [spaceCapitals, h]

theorem spaceCapitals_cons_of_not_isUpper (h : c.isUpper = false) (cs : List Char) :
    spaceCapitals (c :: cs) = c :: spaceCapitals cs := by
  simp [spaceCapitals, h]

/-- Behind the first character of a heading there is no capital. -/
theorem head?_spaceCapitals (cs : List Char) :
    (spaceCapitals cs).head?.any Char.isUpper = false := by
  cases cs with
  | nil => rfl
  | cons c cs =>
    cases h : c.isUpper with
    | true =>
      rw [spaceCapitals_cons_of_isUpper h]
      rfl
    | false =>
      rw [spaceCapitals_cons_of_not_isUpper h]
      exact h

theorem unspaceCapitals_spaceCapitals (cs : List Char) :
    unspaceCapitals (spaceCapitals cs) = cs := by
  induction cs with
  | nil => rfl
  | cons c cs ih =>
    have hcons := unspaceCapitals_cons (head?_spaceCapitals cs) c
    cases h : c.isUpper with
    | true => rw [spaceCapitals_cons_of_isUpper h, unspaceCapitals_space h, hcons, ih]
    | false => rw [spaceCapitals_cons_of_not_isUpper h, hcons, ih]

theorem capitalsBehindSpaces_cons (c : Char) (cs : List Char) :
    CapitalsBehindSpaces (c :: spaceCapitals cs) := by
  induction cs generalizing c with
  | nil => exact .singleton c
  | cons d cs ih =>
    cases h : d.isUpper with
    | true =>
      rw [spaceCapitals_cons_of_isUpper h]
      exact .cons_cons (by simp) (.cons_cons (fun _ => rfl) (ih d))
    | false =>
      rw [spaceCapitals_cons_of_not_isUpper h]
      exact .cons_cons (by simp [h]) (ih d)

theorem length_spaceCapitals (cs : List Char) :
    (spaceCapitals cs).length = cs.length + cs.countP Char.isUpper := by
  induction cs with
  | nil => rfl
  | cons c cs ih =>
    cases h : c.isUpper with
    | true =>
      rw [spaceCapitals_cons_of_isUpper h, List.countP_cons_of_pos h]
      simp only [List.length_cons, ih]
      omega
    | false =>
      rw [spaceCapitals_cons_of_not_isUpper h, List.countP_cons_of_neg (by simp [h])]
      simp only [List.length_cons, ih]
      omega

/-! ## Headings -/

theorem unspaced_spaced (label : String) : unspaced (spaced label) = label := by
  unfold spaced
  split
  · next h => rw [String.toList_eq_nil_iff.mp h]; rfl
  · next c cs h =>
    rw [unspaced, String.toList_ofList, unspaceCapitals_cons (head?_spaceCapitals cs),
      unspaceCapitals_spaceCapitals, ← h, String.ofList_toList]

theorem capitalsBehindSpaces_spaced (label : String) :
    CapitalsBehindSpaces (spaced label).toList := by
  unfold spaced
  split
  · exact .nil
  · rw [String.toList_ofList]
    exact capitalsBehindSpaces_cons _ _

theorem length_spaced (label : String) :
    (spaced label).length = label.length + label.toList.tail.countP Char.isUpper := by
  unfold spaced
  split
  · next h => rw [String.toList_eq_nil_iff.mp h]; rfl
  · next c cs h =>
    rw [String.length_ofList, List.length_cons, length_spaceCapitals, ← String.length_toList, h,
      List.length_cons, List.tail_cons]
    omega

theorem spaced_inj {s t : String} : spaced s = spaced t ↔ s = t :=
  (Function.LeftInverse.injective unspaced_spaced).eq_iff

/-- **A heading loses nothing of its label.** Each ASCII capital but the first character stands
behind a space, and without that one space for each the label comes back, with all spaces that it
had. So labels are told apart by their headings, and a heading is longer than its label by the number
of those capitals. -/
theorem spaced_loses_nothing (label other : String) :
    CapitalsBehindSpaces (spaced label).toList ∧
    unspaced (spaced label) = label ∧
    (spaced label = spaced other ↔ label = other) ∧
    (spaced label).length = label.length + label.toList.tail.countP Char.isUpper :=
  ⟨capitalsBehindSpaces_spaced label, unspaced_spaced label, spaced_inj, length_spaced label⟩

/-- A first letter of two bytes, and a space in front of a capital. -/
example : spaced "äB C" = "ä B  C" := by decide

end Formwork
