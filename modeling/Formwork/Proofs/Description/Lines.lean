import Formwork.Description

/-!
# The lines of a description

A description is cut at the line feeds of its trimmed text, and each piece loses one carriage return
at its end. `Line.split` also numbers the lines; here the numbers are taken apart from the texts.

* `segments_eq_splitOn` — the pieces are those of the standard library's `splitOn`.
* `Description.lines` — the lines as texts.
-/

namespace Formwork

namespace Text

theorem segments_eq_splitOn (sep : Char) (cs : List Char) : segments sep cs = cs.splitOn sep := by
  induction cs with
  | nil => rfl
  | cons c cs ih =>
    rw [List.splitOn_cons_eq_if_modifyHead, ← ih, segments]
    by_cases hc : c = sep
    · simp [hc]
    · rw [if_neg hc, if_neg (by simpa using hc)]
      cases h : segments sep cs with
      | nil => exact absurd h (segments_ne_nil sep cs)
      | cons s ss => rfl

end Text

namespace Line

theorem dropReturn_of_last {cs : List Char} (h : cs.getLast? ≠ some '\r') : dropReturn cs = cs :=
  if_neg h

theorem mem_of_mem_dropReturn {c : Char} {cs : List Char} (h : c ∈ dropReturn cs) :
    c ∈ cs := by
  unfold dropReturn at h
  split at h
  · exact List.dropLast_subset cs h
  · exact h

theorem map_content_ofSegments (n : Nat) (ss : List (List Char)) :
    (ofSegments n ss).map (·.content) = ss.map fun s => String.ofList (dropReturn s) := by
  induction ss generalizing n with
  | nil => rfl
  | cons s ss ih => rw [ofSegments, List.map_cons, List.map_cons, ih]

/-- The lines are numbered from `n` on. -/
theorem number_ofSegments {n : Nat} {ss : List (List Char)} {before after : List Line} {l : Line}
    (h : ofSegments n ss = before ++ l :: after) : l.number = n + before.length := by
  induction ss generalizing n before with
  | nil => cases before <;> cases h
  | cons s ss ih =>
    rw [ofSegments] at h
    cases before with
    | nil =>
      rw [List.nil_append, List.cons.injEq] at h
      rw [← h.1]
      rfl
    | cons b before =>
      rw [List.cons_append, List.cons.injEq] at h
      rw [ih h.2, List.length_cons]
      omega

end Line

namespace Description

/-- The lines of a description: the pieces of its trimmed text between the line feeds, each without
one carriage return at its end. -/
def lines (text : String) : List String :=
  ((Text.trim text).toList.splitOn '\n').map fun piece => String.ofList (Line.dropReturn piece)

theorem map_content_split (text : String) : (Line.split text).map (·.content) = lines text := by
  rw [Line.split, Line.map_content_ofSegments, Text.segments_eq_splitOn, lines, Text.trim,
    String.toList_ofList]

/-- There is always at least one line. -/
theorem lines_ne_nil (text : String) : lines text ≠ [] := by
  simp [lines, List.splitOn_ne_nil]

end Description

end Formwork
