import Formwork.Proofs.Description.Roundtrip

/-!
# Descriptions one after the other

A description is trimmed as a whole before it is cut into lines, each line loses a carriage return on
its own, and the first line that is no field ends the reading. None of this looks at what stands
next to a description. If two descriptions have no blank margin, then with a line feed between them
they have the lines of the first and then those of the second, and they are read one after the other.

**Main statement**: `Description.read_joined`.
-/

namespace Formwork.Description

open Text (Trimmed)

variable {a b : String}

/-! ## Lines -/

theorem trim_joined (ha : a ≠ "") (hatrim : Text.trim a = a) (hb : b ≠ "")
    (hbtrim : Text.trim b = b) : Text.trim (a ++ "\n" ++ b) = a ++ "\n" ++ b := by
  have hjoined : (a ++ "\n" ++ b).toList = ['\n'].intercalate [a.toList, b.toList] := by
    simp [List.intercalate_cons_cons]
  rw [Text.trim_eq_self_iff, hjoined]
  refine (trimmed_intercalate fun m hm => ?_).1
  rcases List.mem_cons.mp hm with rfl | hm
  · exact ⟨Text.trim_eq_self_iff.mp hatrim, mt String.toList_eq_nil_iff.mp ha⟩
  · obtain rfl := List.mem_singleton.mp hm
    exact ⟨Text.trim_eq_self_iff.mp hbtrim, mt String.toList_eq_nil_iff.mp hb⟩

/-- The lines of joined descriptions are those of the first and those of the second. -/
theorem lines_joined (ha : a ≠ "") (hatrim : Text.trim a = a) (hb : b ≠ "")
    (hbtrim : Text.trim b = b) : lines (a ++ "\n" ++ b) = lines a ++ lines b := by
  have hjoined : (a ++ "\n" ++ b).toList = a.toList ++ '\n' :: b.toList := by simp
  rw [lines, trim_joined ha hatrim hb hbtrim, hjoined, List.splitOn_append_cons_self,
    List.map_append, lines, hatrim, lines, hbtrim]

/-- There is one line for each field that was read. -/
theorem length_lines_of_read {fs : List Field} (h : read a = .ok fs) :
    (lines a).length = fs.length :=
  (read_eq_ok_iff.mp h).length_eq

/-! ## Reading -/

/-- **Joined descriptions are read one after the other.** An error in the first is the error of both.
If the first is read, an error in the second is the error of both, and its line is counted behind the
lines of the first; and if both are read, so are the fields of the first and then of the second. -/
theorem read_joined (ha : a ≠ "") (hatrim : Text.trim a = a) (hb : b ≠ "")
    (hbtrim : Text.trim b = b) :
    (∀ e, read a = .error e → read (a ++ "\n" ++ b) = .error e) ∧
    (∀ fs e, read a = .ok fs → read b = .error e →
      read (a ++ "\n" ++ b) = .error ⟨e.content, e.number + fs.length⟩) ∧
    (∀ fs gs, read a = .ok fs → read b = .ok gs → read (a ++ "\n" ++ b) = .ok (fs ++ gs)) := by
  have hlines := lines_joined ha hatrim hb hbtrim
  refine ⟨?_, ?_, ?_⟩
  · intro e he
    obtain ⟨before, after, hsplit, hnumber, hbefore, hcontent⟩ := read_eq_error_iff.mp he
    refine read_eq_error_iff.mpr ⟨before, after ++ lines b, ?_, hnumber, hbefore, hcontent⟩
    rw [hlines, hsplit, List.append_assoc, List.cons_append]
  · intro fs e hfs he
    obtain ⟨before, after, hsplit, hnumber, hbefore, hcontent⟩ := read_eq_error_iff.mp he
    refine read_eq_error_iff.mpr ⟨lines a ++ before, after, ?_, ?_, ?_, hcontent⟩
    · rw [hlines, hsplit, List.append_assoc]
    · -- the first description has as many lines as fields
      show e.number + fs.length = (lines a ++ before).length + 1
      rw [List.length_append, length_lines_of_read hfs, hnumber]
      omega
    · rw [List.forall_mem_append]
      exact ⟨fun line hline => exists_of_forall₂ (read_eq_ok_iff.mp hfs) hline, hbefore⟩
  · intro fs gs hfs hgs
    rw [read_eq_ok_iff, hlines]
    exact List.rel_append (read_eq_ok_iff.mp hfs) (read_eq_ok_iff.mp hgs)

/-- A carriage return at the end of a line, a blank line and a line that is no field, behind a
description of two lines. -/
theorem read_joined_behind_two :
    read "Name (text, required)\r\nMail (email, optional)" =
      .ok [⟨"Name", .text, true⟩, ⟨"Mail", .email, false⟩] ∧
    read "Note (text, optional)\r\n\r\nnone" = .error ⟨"", 2⟩ ∧
    read ("Name (text, required)\r\nMail (email, optional)" ++ "\n" ++
      "Note (text, optional)\r\n\r\nnone") = .error ⟨"", 2 + 2⟩ := by
  have hfirst : read "Name (text, required)\r\nMail (email, optional)" =
      .ok [⟨"Name", .text, true⟩, ⟨"Mail", .email, false⟩] := by decide
  have hsecond : read "Note (text, optional)\r\n\r\nnone" = .error ⟨"", 2⟩ := by decide
  exact ⟨hfirst, hsecond,
    (read_joined (by decide) (by decide) (by decide) (by decide)).2.1 _ _ hfirst hsecond⟩

end Formwork.Description
