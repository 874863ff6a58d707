import Formwork.CommandLine.FileSystem

/-!
# Writing a file

What writing a file does to a file system, and what it leaves alone.

Where a path leads depends on the folders and the links on the way (`locate_congr`). A file is only
written where nothing lies or another file, so writing changes neither, and every path leads
afterwards where it led before.

* `FileSystem.write?_eq_some_iff` — when writing succeeds, and what it gives.
* `FileSystem.Wrote` — one file system is another with a file written.
* `FileSystem.wrote_of_write?` — writing does this and nothing else.
-/

namespace Formwork.CommandLine

namespace FileSystem

variable {fs gs after : FileSystem} {path : String} {place : Place} {bytes : ByteArray}

/-- The file system `after` is `before` with some bytes written at a place that a path leads to. They
are the file that lies there. At every other place lies what was there before, every path leads
where it led, and what is read at a path to another place is what was read there. -/
structure Wrote (before after : FileSystem) (path : String) (place : Place) (bytes : ByteArray) :
    Prop where
  located : before.locate path = some place
  entry : ∀ p, after.entry p = if p = place then some (.file bytes) else before.entry p
  locate : ∀ q, after.locate q = before.locate q
  read : after.read path = if before.reads place then .content bytes else .unreadable
  others : ∀ q, before.locate q ≠ some place → after.read q = before.read q

/-! ## The way along a path -/

section

variable (hopens : ∀ p, gs.opens p = fs.opens p) (hlink : ∀ p, gs.link? p = fs.link? p)

include hopens hlink

theorem walk_congr (follow : Place → String → List String → Option Place) (place : Place)
    (ns : List String) : gs.walk follow place ns = fs.walk follow place ns := by
  induction ns generalizing place with
  | nil => rfl
  | cons name rest ih => simp only [walk, hopens, hlink, ih]

theorem walkLinks_congr (links : Nat) : gs.walkLinks links = fs.walkLinks links := by
  induction links with
  | zero =>
    funext place ns
    exact walk_congr hopens hlink _ place ns
  | succ links ih =>
    funext place ns
    rw [walkLinks, walkLinks, ih]
    exact walk_congr hopens hlink _ place ns

/-- Where paths lead depends on the open folders and the links only. -/
theorem locate_congr (hhome : gs.home = fs.home) (path : String) :
    gs.locate path = fs.locate path := by
  rw [locate, locate, walkLinks_congr hopens hlink, hhome]

end

/-- Ways to one place: from the root, out of the working folder, and over a link and back up. A
folder that is missing on the way is not passed by `..`, and a file is none to pass through. -/
example : ["/srv/a.html", "../srv/a.html", "out/../srv//./a.html", "none/../../srv/a.html",
    "../srv/a.html/"].map (locate ⟨[(["srv"], .folder), (["tmp"], .folder),
      (["tmp", "out"], .link "../srv")], ["tmp"], fun _ => true, fun _ => true, fun _ _ => true⟩) =
    [some ["srv", "a.html"], some ["srv", "a.html"], some ["srv", "a.html"], none, none] := by
  decide +kernel

theorem names_eq_singleton {name : String} (h : '/' ∉ name.toList) : names name = [name] := by
  rw [names, Text.segments_of_notMem h, List.map_singleton, String.ofList_toList]

theorem origin_of_notMem {name : String} (h : '/' ∉ name.toList) (place : Place) :
    origin place name = place :=
  if_neg fun hhead => h (List.mem_of_head? hhead)

/-- A name leads to the entry of the working folder that has it, if it leads anywhere and no link
lies there. -/
theorem eq_of_locate_name {name : String} (hname : '/' ∉ name.toList)
    (hstay : ¬(name = "" ∨ name = ".")) (hup : name ≠ "..")
    (hlink : fs.link? (fs.home ++ [name]) = none) (h : fs.locate name = some place) :
    place = fs.home ++ [name] := by
  unfold locate at h
  split at h
  · cases h
  · rw [names_eq_singleton hname, origin_of_notMem hname, linkLimit, walkLinks, walk, if_neg hstay,
      if_neg hup, hlink] at h
    split at h
    · cases h
    · exact (Option.some_inj.mp h).symm

/-! ## Entries with one of them set -/

theorem lookup_setEntry (place : Place) (e : Entry) (entries : List (Place × Entry)) (p : Place) :
    (setEntry place e entries).lookup p = if p = place then some e else entries.lookup p := by
  induction entries with
  | nil =>
    rw [setEntry, List.lookup_cons]
    by_cases h : p = place <;> simp [h, beq_false_of_ne]
  | cons f entries ih =>
    by_cases hf : f.1 = place
    · rw [setEntry, if_pos hf, List.lookup_cons, List.lookup_cons, hf]
      by_cases h : p = place <;> simp [h, beq_false_of_ne]
    · rw [setEntry, if_neg hf, List.lookup_cons, List.lookup_cons, ih]
      by_cases h : p = f.1
      · simp [h, hf]
      · simp [beq_false_of_ne h]

/-! ## A file where nothing was, or another file -/

theorem isFree_iff : fs.isFree place = true ↔
    fs.entry place = none ∨ ∃ bytes, fs.entry place = some (.file bytes) := by
  unfold isFree
  split
  · next h => simp [h]
  · next h => simp [h]
  · next e hfile h => simpa [h] using hfile

/-- The root is a folder, so no file is written there. -/
theorem ne_nil_of_isFree (h : fs.isFree place = true) : place ≠ [] := by
  rintro rfl
  cases h

section

variable (hfree : fs.isFree place = true)

include hfree

theorem entry_put (bytes : ByteArray) (p : Place) :
    (fs.put place bytes).entry p = if p = place then some (.file bytes) else fs.entry p := by
  unfold entry
  by_cases hp : p = []
  · have hne : p ≠ place := fun h => ne_nil_of_isFree hfree (h.symm.trans hp)
    rw [if_pos hp, if_pos hp, if_neg hne]
  · rw [if_neg hp, if_neg hp]
    exact lookup_setEntry place (.file bytes) fs.entries p

theorem opens_put (bytes : ByteArray) (p : Place) :
    (fs.put place bytes).opens p = fs.opens p := by
  by_cases hp : p = place
  · -- neither nothing nor a file is a folder
    have hbefore : fs.opens place = false := by
      rcases isFree_iff.mp hfree with h | ⟨_, h⟩ <;> simp [opens, h]
    rw [hp, hbefore, opens, entry_put hfree, if_pos rfl]
  · rw [opens, entry_put hfree, if_neg hp]
    rfl

theorem link?_put (bytes : ByteArray) (p : Place) :
    (fs.put place bytes).link? p = fs.link? p := by
  by_cases hp : p = place
  · have hbefore : fs.link? place = none := by
      rcases isFree_iff.mp hfree with h | ⟨_, h⟩ <;> simp [link?, h]
    rw [hp, hbefore, link?, entry_put hfree, if_pos rfl]
  · rw [link?, entry_put hfree, if_neg hp]
    rfl

theorem locate_put (bytes : ByteArray) (path : String) :
    (fs.put place bytes).locate path = fs.locate path :=
  locate_congr (opens_put hfree bytes) (link?_put hfree bytes) rfl path

end

/-! ## Writing -/

/-- Writing succeeds exactly where a file may lie and the system takes the bytes. -/
theorem write?_eq_some_iff : fs.write? path bytes = some after ↔ ∃ place,
    fs.locate path = some place ∧ fs.isFree place = true ∧ fs.takes place bytes = true ∧
      after = fs.put place bytes := by
  unfold write?
  cases fs.locate path with
  | none => exact iff_of_false (by rintro ⟨⟩) (by rintro ⟨_, ⟨⟩, _⟩)
  | some place =>
    dsimp only
    rw [Option.ite_none_right_eq_some, Option.some_inj]
    constructor
    · rintro ⟨⟨hfree, htakes⟩, rfl⟩
      exact ⟨place, rfl, hfree, htakes, rfl⟩
    · rintro ⟨_, ⟨rfl⟩, hfree, htakes, rfl⟩
      exact ⟨⟨hfree, htakes⟩, rfl⟩

/-- **Writing a file writes that file** and leaves all else alone. -/
theorem wrote_of_write? (h : fs.write? path bytes = some after) :
    ∃ place, Wrote fs after path place bytes := by
  obtain ⟨place, hplace, hfree, -, rfl⟩ := write?_eq_some_iff.mp h
  refine ⟨place, hplace, entry_put hfree bytes, locate_put hfree bytes, ?_, fun q hq => ?_⟩
  · rw [read, locate_put hfree, hplace]
    simp only [entry_put hfree, if_true]
    rfl
  · rw [read, read, locate_put hfree]
    cases hother : fs.locate q with
    | none => rfl
    | some other =>
      have hne : other ≠ place := by
        rintro rfl
        exact hq hother
      simp only [entry_put hfree, if_neg hne]
      rfl

end FileSystem

end Formwork.CommandLine
