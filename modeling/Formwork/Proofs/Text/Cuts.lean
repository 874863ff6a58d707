/-!
# Cuts

A text that holds a separator falls into the part in front of it and the part behind it, where it is
the first separator or the last one that counts.

* `Text.before`, `Text.behind` — the parts around the first separator.
* `Text.beforeLast`, `Text.behindLast` — the parts around the last separator.
-/

namespace Formwork.Text

/-- The characters in front of the first `sep`. -/
def before (sep : Char) (cs : List Char) : List Char := cs.takeWhile (· != sep)

/-- The characters behind the first `sep`. -/
def behind (sep : Char) (cs : List Char) : List Char := (cs.dropWhile (· != sep)).drop 1

/-- The characters in front of the last `sep`. -/
def beforeLast (sep : Char) (cs : List Char) : List Char := (behind sep cs.reverse).reverse

/-- The characters behind the last `sep`. -/
def behindLast (sep : Char) (cs : List Char) : List Char := (before sep cs.reverse).reverse

variable {sep : Char} {cs u v : List Char}

theorem forall_bne_of_notMem (h : sep ∉ u) : ∀ c ∈ u, (c != sep) = true := by
  intro c hc
  rw [bne_iff_ne]
  rintro rfl
  exact h hc

theorem before_append (h : sep ∉ u) (v : List Char) : before sep (u ++ sep :: v) = u := by
  rw [before, List.takeWhile_append_of_pos (forall_bne_of_notMem h),
    List.takeWhile_cons_of_neg (by simp), List.append_nil]

theorem behind_append (h : sep ∉ u) (v : List Char) : behind sep (u ++ sep :: v) = v := by
  rw [behind, List.dropWhile_append_of_pos (forall_bne_of_notMem h),
    List.dropWhile_cons_of_neg (by simp), List.drop_one, List.tail_cons]

/-- A text is cut at its first separator. -/
theorem before_append_behind (h : sep ∈ cs) : before sep cs ++ sep :: behind sep cs = cs := by
  obtain ⟨u, v, rfl, hu⟩ := List.eq_append_cons_of_mem h
  rw [before_append hu, behind_append hu]

theorem reverse_append_cons (u v : List Char) (sep : Char) :
    (u ++ sep :: v).reverse = v.reverse ++ sep :: u.reverse := by
  rw [List.reverse_append, List.reverse_cons, List.append_assoc, List.singleton_append]

theorem beforeLast_append (h : sep ∉ v) (u : List Char) : beforeLast sep (u ++ sep :: v) = u := by
  rw [beforeLast, reverse_append_cons, behind_append (by simpa using h), List.reverse_reverse]

theorem behindLast_append (h : sep ∉ v) (u : List Char) : behindLast sep (u ++ sep :: v) = v := by
  rw [behindLast, reverse_append_cons, before_append (by simpa using h), List.reverse_reverse]

/-- A text is cut at its last separator. -/
theorem beforeLast_append_behindLast (h : sep ∈ cs) :
    beforeLast sep cs ++ sep :: behindLast sep cs = cs := by
  rw [beforeLast, behindLast, ← reverse_append_cons, before_append_behind (by simpa using h),
    List.reverse_reverse]

end Formwork.Text
