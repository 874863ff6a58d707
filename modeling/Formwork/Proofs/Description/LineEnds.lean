import Formwork.Proofs.Description.Grammar

/-!
# Line ends and margins of a description

A line of a description may end in a line feed or in a carriage return and a line feed, each line as it
likes, and blanks around the description do not count. `Text.withReturns` puts carriage returns in
front of some line feeds; reading does not see them.

## Why nothing is lost

* **In the margin** the carriage returns are blanks among blanks, and the margin is trimmed.
* **Between the lines** each of them is the last character of a piece, and a piece loses one carriage
  return at its end. Its other characters are no carriage returns, so it loses nothing else.

**Main statement**: `Description.read_withReturns`.
-/

namespace Formwork

namespace Text

/-- A text with a carriage return in front of those of its line feeds whose positions are chosen. -/
def withReturns (chosen : Nat → Bool) : List Char → List Char
  | [] => []
  | c :: cs =>
    (if c = '\n' ∧ chosen 0 = true then ['\r', '\n'] else [c]) ++
      withReturns (fun i => chosen (i + 1)) cs

theorem withReturns_cons_of_ne {c : Char} (hc : c ≠ '\n') (chosen : Nat → Bool) (cs : List Char) :
    withReturns chosen (c :: cs) = c :: withReturns (fun i => chosen (i + 1)) cs := by
  rw [withReturns, if_neg fun h => hc h.1, List.singleton_append]

theorem withReturns_none (cs : List Char) : withReturns (fun _ => false) cs = cs := by
  induction cs with
  | nil => rfl
  | cons c cs ih => rw [withReturns, if_neg (by simp), ih, List.singleton_append]

theorem withReturns_append (chosen : Nat → Bool) (cs ds : List Char) :
    withReturns chosen (cs ++ ds) =
      withReturns chosen cs ++ withReturns (fun i => chosen (cs.length + i)) ds := by
  induction cs generalizing chosen with
  | nil => simp [withReturns]
  | cons c cs ih =>
    have hshift : (fun i => chosen (cs.length + i + 1)) =
        fun i => chosen ((c :: cs).length + i) := by
      funext i
      rw [List.length_cons, Nat.add_right_comm]
    rw [List.cons_append, withReturns, ih, hshift, withReturns, List.append_assoc]

/-! ## The margin -/

theorem AllBlank.withReturns {cs : List Char} (h : AllBlank cs) (chosen : Nat → Bool) :
    AllBlank (withReturns chosen cs) := by
  induction cs generalizing chosen with
  | nil => exact h
  | cons c cs ih =>
    have hcs := List.forall_mem_cons.mp h
    rw [Text.withReturns]
    refine List.forall_mem_append.mpr ⟨?_, ih hcs.2 _⟩
    split
    · exact List.all_eq_true.mp (show ['\r', '\n'].all isBlank = true by decide)
    · exact List.forall_mem_singleton.mpr hcs.1

theorem ne_newline_of_isBlank {c : Char} (h : isBlank c = false) : c ≠ '\n' := by
  rintro rfl
  exact absurd h (by decide)

/-- The ends of a trimmed text are no line feeds, so they stay. -/
theorem Trimmed.withReturns {cs : List Char} (h : Trimmed cs) (chosen : Nat → Bool) :
    Trimmed (withReturns chosen cs) := by
  constructor
  case head =>
    cases cs with
    | nil => exact h.head
    | cons c cs =>
      rw [withReturns_cons_of_ne (ne_newline_of_isBlank (h.head c rfl))]
      exact h.head
  case last =>
    rcases List.eq_nil_or_concat' cs with rfl | ⟨ds, c, rfl⟩
    · exact h.last
    · have hc : isBlank c = false := h.last c List.getLast?_concat
      rw [withReturns_append, withReturns_cons_of_ne (ne_newline_of_isBlank hc), Text.withReturns,
        List.getLast?_concat]
      rintro d ⟨⟩
      exact hc

/-- What is left of a text without its margin has the carriage returns that it had in it. -/
theorem trimChars_withReturns (chosen : Nat → Bool) (cs : List Char) :
    ∃ kept, trimChars (withReturns chosen cs) = withReturns kept (trimChars cs) := by
  obtain ⟨a, b, ha, hb, hcs⟩ := exists_margins cs
  have hparts : withReturns chosen cs = withReturns chosen a ++
      withReturns (fun i => chosen (a.length + i)) (trimChars cs) ++
        withReturns (fun i => chosen ((a ++ trimChars cs).length + i)) b := by
    conv_lhs => rw [hcs]
    rw [withReturns_append, withReturns_append]
  rw [hparts]
  exact ⟨_, trimChars_append (ha.withReturns _) ((trimmed_trimChars cs).withReturns _)
    (hb.withReturns _)⟩

end Text

/-! ## The lines -/

namespace Line

theorem dropReturn_cons {c : Char} (hc : c ≠ '\r') (cs : List Char) :
    dropReturn (c :: cs) = c :: dropReturn cs := by
  cases cs with
  | nil => rw [dropReturn_of_last (by simpa using hc), dropReturn_of_last (by simp)]
  | cons d ds =>
    unfold dropReturn
    rw [List.getLast?_cons_cons, List.dropLast_cons_cons]
    split
    · rfl
    · rfl

/-- **Carriage returns in front of line feeds are not seen in the pieces between them.** -/
theorem map_dropReturn_segments {cs : List Char} (h : '\r' ∉ cs) (chosen : Nat → Bool) :
    (Text.segments '\n' (Text.withReturns chosen cs)).map dropReturn = Text.segments '\n' cs := by
  induction cs generalizing chosen with
  | nil => rfl
  | cons c cs ih =>
    rw [List.mem_cons, not_or] at h
    have hrest := ih h.2 fun i => chosen (i + 1)
    by_cases hc : c = '\n'
    · obtain rfl := hc
      by_cases hchosen : chosen 0 = true
      · -- the carriage return makes up a piece of its own, and goes away
        rw [Text.withReturns, if_pos ⟨rfl, hchosen⟩]
        simp only [List.cons_append, List.nil_append, Text.segments, if_true,
          if_neg (show ¬ '\r' = '\n' by decide), List.map_cons, hrest]
        rfl
      · rw [Text.withReturns, if_neg fun hboth => hchosen hboth.2]
        simp only [List.cons_append, List.nil_append, Text.segments, if_true, List.map_cons, hrest]
        rfl
    · rw [Text.withReturns_cons_of_ne hc, Text.segments, Text.segments, if_neg hc, if_neg hc,
        ← hrest]
      cases hs : Text.segments '\n' (Text.withReturns (fun i => chosen (i + 1)) cs) with
      | nil => exact absurd hs (Text.segments_ne_nil _ _)
      | cons s ss => simp only [List.map_cons, dropReturn_cons (Ne.symm h.1)]

end Line

namespace Description

theorem lines_eq (text : String) : lines text =
    ((Text.segments '\n' (Text.trimChars text.toList)).map Line.dropReturn).map String.ofList := by
  rw [lines, Text.toList_trim, Text.segments_eq_splitOn, List.map_map]
  rfl

theorem lines_withReturns {text front back : String} (htext : '\r' ∉ text.toList)
    (hfront : Text.AllBlank front.toList) (hback : Text.AllBlank back.toList)
    (chosen : Nat → Bool) :
    lines (front ++ String.ofList (Text.withReturns chosen text.toList) ++ back) = lines text := by
  have hreturn : '\r' ∉ Text.trimChars text.toList := fun h => htext (Text.mem_of_mem_trimChars h)
  obtain ⟨kept, hkept⟩ := Text.trimChars_withReturns chosen text.toList
  have hplain := Line.map_dropReturn_segments hreturn fun _ => false
  rw [Text.withReturns_none] at hplain
  rw [lines_eq, lines_eq, String.toList_append, String.toList_append, String.toList_ofList,
    Text.trimChars_margins hfront hback, hkept, Line.map_dropReturn_segments hreturn, hplain]

/-- Descriptions with the same lines are read alike, and errors in them too. -/
theorem read_congr {text text' : String} (h : lines text = lines text') :
    read text = read text' := by
  cases hr : read text with
  | ok fs =>
    rw [read_eq_ok_iff, h] at hr
    exact (read_eq_ok_iff.mpr hr).symm
  | error e =>
    rw [read_eq_error_iff, h] at hr
    exact (read_eq_error_iff.mpr hr).symm

/-- **Line ends and margins do not count.** Blanks around a description and carriage returns in front
of any of its line feeds change neither the fields that are read nor the line that is named as
none, nor its number. -/
theorem read_withReturns {text front back : String} (htext : '\r' ∉ text.toList)
    (hfront : ∀ c ∈ front.toList, Text.isBlank c = true)
    (hback : ∀ c ∈ back.toList, Text.isBlank c = true) (chosen : Nat → Bool) :
    read (front ++ String.ofList (Text.withReturns chosen text.toList) ++ back) = read text :=
  read_congr (lines_withReturns htext hfront hback chosen)

/-- Line ends of both kinds, in the margin and between the lines, and a blank line that is named. -/
theorem read_withReturns_mixed :
    '\r' ∉ "\n A (text, required)\n\nB\n".toList ∧
    (∀ c ∈ "\r\n\u2028".toList, Text.isBlank c = true) ∧
    (∀ c ∈ "\r".toList, Text.isBlank c = true) ∧
    "\r\n\u2028" ++ String.ofList (Text.withReturns (fun i => i != 20)
      "\n A (text, required)\n\nB\n".toList) ++ "\r" =
        "\r\n\u2028\r\n A (text, required)\n\r\nB\r\n\r" ∧
    read "\r\n\u2028\r\n A (text, required)\n\r\nB\r\n\r" = .error ⟨"", 2⟩ := by
  have hreturn : '\r' ∉ "\n A (text, required)\n\nB\n".toList := by decide
  have hfront : ∀ c ∈ "\r\n\u2028".toList, Text.isBlank c = true :=
    List.all_eq_true.mp (by decide)
  have hback : ∀ c ∈ "\r".toList, Text.isBlank c = true := List.all_eq_true.mp (by decide)
  have hmixed : "\r\n\u2028" ++ String.ofList (Text.withReturns (fun i => i != 20)
      "\n A (text, required)\n\nB\n".toList) ++ "\r" =
        "\r\n\u2028\r\n A (text, required)\n\r\nB\r\n\r" := by decide
  have hplain : read "\n A (text, required)\n\nB\n" = .error ⟨"", 2⟩ := by decide
  refine ⟨hreturn, hfront, hback, hmixed, ?_⟩
  rw [← hmixed, ← hplain]
  exact read_withReturns hreturn hfront hback _

end Description

end Formwork
