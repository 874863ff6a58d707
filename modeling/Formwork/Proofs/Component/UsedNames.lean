import Formwork.Component.Code
import Formwork.Proofs.Source.Lines
import Formwork.Proofs.Text.Letters

/-!
# The names that a component file uses

The file of a component declares two interfaces, imports three names and refers to some that every
script has. The name of the component is brought into the form `UpperCamel`, and it is made sure
that it is an identifier, but not that it differs from those names.

Which names of a user lead to one of them can be read off the words: a text of ASCII letters in
which no two capitals follow each other falls apart at its capitals in one way only, so the words
are known up to case from the name that they make.

* `IsHump` — a capital, and no capital after it.
* `IsCamel` — humps that only words with the same letters make.
* `lowerWords` — the words of a name in small letters.
* `exists_line_of_mem_usedNames` — the names are on the lines of every file.

**Main statement**: `resolveName_mem_usedNames_iff`.
-/

namespace Formwork.Component

open Text
open Outline (textsAll)

/-! ## Humps -/

/-- A capital, and no capital after it. -/
def IsHump : List Char → Prop
  | [] => False
  | c :: cs => c.isUpper = true ∧ ∀ d ∈ cs, d.isUpper = false

instance : DecidablePred IsHump
  | [] => inferInstanceAs (Decidable False)
  | c :: cs => decidable_of_iff (c.isUpper = true ∧ cs.all (!·.isUpper) = true) (by simp [IsHump])

theorem IsHump.ne_nil {h : List Char} (hh : IsHump h) : h ≠ [] := by
  rintro rfl
  exact hh

/-- A text falls apart at its capitals in one way. -/
theorem splitBy_flatten {hs : List (List Char)} (h : ∀ u ∈ hs, IsHump u) :
    hs.flatten.splitBy (fun _ d => !d.isUpper) = hs := by
  refine List.splitBy_flatten (fun hnil => h [] hnil) ?_ ?_
  · intro u hu
    have hhump := h u hu
    cases u with
    | nil => exact .nil
    | cons c cs =>
      refine (List.pairwise_cons.mpr ⟨?_, ?_⟩).isChain
      · exact fun d hd => by simp [hhump.2 d hd]
      · exact List.pairwise_of_forall_mem_list fun _ _ d hd => by simp [hhump.2 d hd]
  · refine (List.pairwise_of_forall_mem_list fun u hu v hv => ?_).isChain
    have hhead := h v hv
    cases v with
    | nil => exact absurd hhead id
    | cons d ds => exact ⟨(h u hu).ne_nil, by simp, by simpa using hhead.1⟩

theorem eq_of_flatten_eq {hs gs : List (List Char)} (hh : ∀ u ∈ hs, IsHump u)
    (hg : ∀ u ∈ gs, IsHump u) (h : hs.flatten = gs.flatten) : hs = gs := by
  rw [← splitBy_flatten hh, h, splitBy_flatten hg]

/-! ## Capitalized words -/

/-- A word of ASCII letters is capitalized letter by letter. -/
theorem capitalized_of_isAlpha {c : Char} {cs : List Char} (hc : c.isAlpha = true)
    (hcs : ∀ d ∈ cs, d.isAlpha = true) :
    capitalized (c :: cs) = c.toUpper :: cs.map Char.toLower := by
  rw [capitalized, upperChar_of_isAlpha hc, lowerChars, lowerAfter_of_isAlpha hcs]
  rfl

/-- Only words of ASCII letters become plain letters without two capitals in a row. -/
theorem isAlpha_of_plain_capitalized {c : Char} {cs : List Char}
    (hplain : ∀ d ∈ capitalized (c :: cs), IsPlain d) (hspread : Spread (capitalized (c :: cs))) :
    c.isAlpha = true ∧ ∀ d ∈ cs, d.isAlpha = true := by
  rw [capitalized, List.forall_mem_append] at hplain
  have hfirst : Spread (upperChar c) := hspread.infix (List.prefix_append _ _).isInfix
  exact ⟨isAlpha_of_plain_upper hplain.1 hfirst, isAlpha_of_plain_lower hplain.2⟩

/-- Such a word becomes a hump of the same letters. -/
theorem isHump_capitalized {w : List Char} (hw : w ≠ [])
    (hplain : ∀ d ∈ capitalized w, IsPlain d) (hspread : Spread (capitalized w)) :
    IsHump (capitalized w) ∧ (capitalized w).map Char.toLower = w.map Char.toLower := by
  cases w with
  | nil => exact absurd rfl hw
  | cons c cs =>
    obtain ⟨hc, hcs⟩ := isAlpha_of_plain_capitalized hplain hspread
    rw [capitalized_of_isAlpha hc hcs]
    refine ⟨⟨by rw [Char.isUpper_toUpper_eq_isAlpha, hc], ?_⟩, ?_⟩
    · exact List.forall_mem_map.mpr fun d _ => Char.isUpper_toLower_eq_false d
    · simp [Function.comp_def]

/-- A word with the letters of a hump becomes that hump. -/
theorem capitalized_eq {w h : List Char} (hh : IsHump h) (hplain : ∀ d ∈ h, IsPlain d)
    (hw : w.map Char.toLower = h.map Char.toLower) : capitalized w = h := by
  have halpha : ∀ c ∈ w, c.isAlpha = true := by
    intro c hc
    obtain ⟨d, hd, hlower⟩ := List.mem_map.mp (hw ▸ List.mem_map_of_mem hc)
    rw [← Char.isAlpha_toLower_eq_isAlpha, ← hlower, Char.isAlpha_toLower_eq_isAlpha]
    exact (hplain d hd).1
  cases h with
  | nil => exact absurd hh id
  | cons d ds =>
    cases w with
    | nil => cases hw
    | cons c cs =>
      rw [List.map_cons, List.map_cons, List.cons.injEq] at hw
      rw [List.forall_mem_cons] at halpha
      have hfirst : c.toUpper = d := by
        rw [← Char.toUpper_toLower_eq_toUpper, hw.1, Char.toUpper_toLower_eq_toUpper]
        exact Char.toUpper_eq_of_not_isLower (Char.not_isLower_of_isUpper hh.1)
      have hothers : ds.map Char.toLower = ds :=
        (List.map_congr_left fun e he => Char.toLower_eq_of_not_isUpper (by simp [hh.2 e he])).trans
          (List.map_id ds)
      rw [capitalized_of_isAlpha halpha.1 halpha.2, hfirst, hw.2, hothers]

theorem map_capitalized_eq {ws hs : List (List Char)} (hh : ∀ h ∈ hs, IsHump h)
    (hplain : ∀ h ∈ hs, ∀ d ∈ h, IsPlain d)
    (hws : ws.map (·.map Char.toLower) = hs.map (·.map Char.toLower)) :
    ws.map capitalized = hs := by
  induction hs generalizing ws with
  | nil => rw [List.map_eq_nil_iff.mp hws, List.map_nil]
  | cons h hs ih =>
    cases ws with
    | nil => cases hws
    | cons w ws =>
      rw [List.map_cons, List.map_cons, List.cons.injEq] at hws
      rw [List.forall_mem_cons] at hh hplain
      rw [List.map_cons, capitalized_eq hh.1 hplain.1 hws.1, ih hh.2 hplain.2 hws.2]

/-! ## Words and the names that they make -/

/-- Humps that only words with the same letters make. -/
structure IsCamel (hs : List (List Char)) : Prop where
  humps : ∀ h ∈ hs, IsHump h
  plain : ∀ d ∈ hs.flatten, IsPlain d
  spread : Spread hs.flatten

instance (hs : List (List Char)) : Decidable (IsCamel hs) :=
  have hplain : hs.flatten.all (IsPlain ·) = true ↔ ∀ d ∈ hs.flatten, IsPlain d := by
    simp only [List.all_eq_true, decide_eq_true_eq]
  decidable_of_iff
    ((∀ h ∈ hs, IsHump h) ∧ hs.flatten.all (IsPlain ·) = true ∧ Spread hs.flatten)
    ⟨fun h => ⟨h.1, hplain.mp h.2.1, h.2.2⟩, fun h => ⟨h.1, hplain.mpr h.2, h.3⟩⟩

/-- Empty words make nothing. -/
theorem flatMap_capitalized (ws : List (List Char)) :
    ws.flatMap capitalized = ((ws.filter (· ≠ [])).map capitalized).flatten := by
  induction ws with
  | nil => rfl
  | cons w ws ih =>
    rw [List.flatMap_cons, ih]
    cases w <;> simp [capitalized]

theorem flatMap_capitalized_eq_iff {hs : List (List Char)} (h : IsCamel hs)
    (ws : List (List Char)) : ws.flatMap capitalized = hs.flatten ↔
      (ws.filter (· ≠ [])).map (·.map Char.toLower) = hs.map (·.map Char.toLower) := by
  rw [flatMap_capitalized]
  constructor
  · intro hjoined
    -- a word is a part of the name, so it has only such letters as the name has
    have hword : ∀ w ∈ ws.filter (· ≠ []),
        IsHump (capitalized w) ∧ (capitalized w).map Char.toLower = w.map Char.toLower := by
      intro w hw
      have hpart : capitalized w <:+: hs.flatten := by
        rw [← hjoined]
        exact List.infix_of_mem_flatten (List.mem_map_of_mem hw)
      refine isHump_capitalized (by simpa using (List.mem_filter.mp hw).2) ?_ ?_
      · exact fun d hd => h.plain d (hpart.subset hd)
      · exact h.spread.infix hpart
    have hhumps : (ws.filter (· ≠ [])).map capitalized = hs :=
      eq_of_flatten_eq (List.forall_mem_map.mpr fun w hw => (hword w hw).1) h.humps hjoined
    rw [← hhumps, List.map_map]
    exact List.map_congr_left fun w hw => (hword w hw).2.symm
  · intro hlower
    have hplain : ∀ u ∈ hs, ∀ d ∈ u, IsPlain d :=
      fun u hu d hd => h.plain d (List.mem_flatten_of_mem hu hd)
    rw [map_capitalized_eq h.humps hplain hlower]

/-- The words of a name in small letters, without the empty ones. -/
def lowerWords (name : String) : List String :=
  ((words name.toList).filter (· ≠ [])).map fun w => String.ofList (w.map Char.toLower)

/-- A name of humps comes from the names with these words. -/
theorem upperCamel_eq_iff {hs : List (List Char)} (h : IsCamel hs) (name : String) :
    upperCamel name = String.ofList hs.flatten ↔
      lowerWords name = hs.map fun u => String.ofList (u.map Char.toLower) := by
  rw [upperCamel, String.ofList_inj, flatMap_capitalized_eq_iff h, lowerWords]
  have hmap (us : List (List Char)) : (us.map fun u => String.ofList (u.map Char.toLower)) =
      (us.map (·.map Char.toLower)).map String.ofList := by
    rw [List.map_map]
    rfl
  rw [hmap, hmap, List.map_inj_right fun _ _ => String.ofList_inj.mp]

/-- What is made of words does not begin with a small ASCII letter. -/
theorem isLower_eq_false_of_head? {ws : List (List Char)} {c : Char}
    (h : (ws.flatMap capitalized).head? = some c) : c.isLower = false := by
  induction ws with
  | nil => cases h
  | cons w ws ih =>
    rw [List.flatMap_cons] at h
    cases w with
    | nil => exact ih h
    | cons d ds =>
      obtain ⟨hne, hsmall⟩ := isLower_eq_false_of_upperChar d
      obtain ⟨e, es, hd⟩ := List.exists_cons_of_ne_nil hne
      rw [capitalized, hd] at h
      obtain rfl : e = c := Option.some.inj h
      exact hsmall e (hd ▸ List.mem_cons_self)

/-! ## The names in the file -/

/-- The names that the file of a component imports, declares or refers to, but for those inside
the component. -/
def usedNames : List String :=
  ["useState", "FormEvent", "ChangeEvent", "FormData", "FormErrors", "Object", "Promise",
    "setTimeout", "console", "alert"]

/-- Lines of a file, with the names of `usedNames` that are on them. -/
def usingLines (o : Options) (f : Form) : List (List String × String) :=
  [(["useState", "FormEvent", "ChangeEvent"],
      "import \x7b useState, FormEvent, ChangeEvent \x7d from \"react\";"),
    (["FormData"], "const [formData, setFormData] = useState<FormData>(" ++ blankRecord f ++ ");"),
    (["FormErrors"], "const [errors, setErrors] = useState<FormErrors>(" ++ blankRecord f ++ ");"),
    (["Object"], "return Object.values(nextErrors).every(error => !error);"),
    (["Promise", "setTimeout"],
      "await new Promise(resolve => setTimeout(resolve, " ++ toString o.submitDelay ++ "));"),
    (["console"], "console.log(\"Form submitted:\", formData);"),
    (["alert"], "alert(\"Form submitted successfully!\");")]

theorem mem_textsAll_of_mem_usingLines (o : Options) (f : Form) :
    ∀ u ∈ usingLines o f, u.2 ∈ textsAll (code o f) := by
  simp [usingLines, code, body, stateHooks, validator, submitHandler]

theorem infix_of_mem_usingLines (o : Options) (f : Form) :
    ∀ u ∈ usingLines o f, ∀ n ∈ u.1, n.toList <:+: u.2.toList := by
  have hfront {n before rest : String} (h : n.toList <:+: before.toList) :
      n.toList <:+: (before ++ rest).toList := by
    rw [String.toList_append]
    exact h.trans (List.prefix_append _ _).isInfix
  simp only [usingLines, List.forall_mem_cons, List.not_mem_nil, false_imp_iff, implies_true,
    and_true]
  refine ⟨⟨?_, ?_, ?_⟩, hfront (hfront ?_), hfront (hfront ?_), ?_,
    ⟨hfront (hfront ?_), hfront (hfront ?_)⟩, ?_, ?_⟩
  all_goals decide +kernel

/-- **Each of the names is used**: it is on a line of every file. -/
theorem exists_line_of_mem_usedNames (o : Options) (f : Form) {n : String} (h : n ∈ usedNames) :
    ∃ t ∈ textsAll (code o f), n.toList <:+: t.toList := by
  have hnames : usedNames = (usingLines o f).flatMap (·.1) := rfl
  rw [hnames, List.mem_flatMap] at h
  obtain ⟨u, hu, hn⟩ := h
  exact ⟨u.2, mem_textsAll_of_mem_usingLines o f u hu, infix_of_mem_usingLines o f u hu n hn⟩

/-- The names with a capital in front, taken apart. -/
def usedHumps : List (List (List Char)) :=
  [["Form".toList, "Event".toList], ["Change".toList, "Event".toList],
    ["Form".toList, "Data".toList], ["Form".toList, "Errors".toList],
    ["Object".toList], ["Promise".toList]]

theorem isCamel_of_mem_usedHumps : ∀ hs ∈ usedHumps, IsCamel hs := by decide +kernel

/-- Of the names of the file, those with a capital in front can be made. -/
theorem upperCamel_mem_usedNames_iff (name : String) : upperCamel name ∈ usedNames ↔
    ∃ hs ∈ usedHumps, upperCamel name = String.ofList hs.flatten := by
  have hcapital : (usedNames.filter fun n => !n.toList.head?.any Char.isLower) =
      usedHumps.map fun hs => String.ofList hs.flatten := by decide +kernel
  have hname : (!(upperCamel name).toList.head?.any Char.isLower) = true := by
    rw [upperCamel, String.toList_ofList]
    cases h : ((words name.toList).flatMap capitalized).head? with
    | none => rfl
    | some c => simp [isLower_eq_false_of_head? h]
  have hmem : upperCamel name ∈ usedNames ↔
      upperCamel name ∈ usedHumps.map fun hs => String.ofList hs.flatten := by
    rw [← hcapital, List.mem_filter, and_iff_left hname]
  rw [hmem, List.mem_map]
  simp only [eq_comm]

/-- All names of the file are identifiers, and none of them is the name that stands in. -/
theorem isIdentifier_of_mem_usedNames :
    ∀ n ∈ usedNames, Script.isIdentifier n = true ∧ n ≠ defaultName := by decide +kernel

theorem resolveName_mem_iff (name : String) :
    resolveName name ∈ usedNames ↔ upperCamel name ∈ usedNames := by
  unfold resolveName
  split
  · exact Iff.rfl
  · next h =>
    refine iff_of_false (fun hmem => ?_) (fun hmem => ?_)
    · exact (isIdentifier_of_mem_usedNames _ hmem).2 rfl
    · exact h (isIdentifier_of_mem_usedNames _ hmem).1

/-- **Which names collide.** The name of a component is always an identifier. It is one of the names
of its file exactly if the words of the user's name are, but for case, one of these six lists. -/
theorem resolveName_mem_usedNames_iff (name : String) :
    Script.isIdentifier (resolveName name) = true ∧
    (resolveName name ∈ usedNames ↔ lowerWords name ∈ [["form", "event"], ["change", "event"],
      ["form", "data"], ["form", "errors"], ["object"], ["promise"]]) := by
  have hlower : (usedHumps.map fun hs => hs.map fun u => String.ofList (u.map Char.toLower)) =
      [["form", "event"], ["change", "event"], ["form", "data"], ["form", "errors"],
        ["object"], ["promise"]] := by decide +kernel
  refine ⟨isIdentifier_resolveName name, ?_⟩
  rw [resolveName_mem_iff, upperCamel_mem_usedNames_iff, ← hlower, List.mem_map]
  refine exists_congr fun hs => and_congr_right fun hhs => ?_
  rw [upperCamel_eq_iff (isCamel_of_mem_usedHumps hs hhs), eq_comm]

/-- A form for data: the component has the name of an interface of its file. -/
theorem resolveName_form_data : ¬ ∀ name, Script.isIdentifier (resolveName name) = true ∧
    resolveName name ∉ usedNames := by
  intro h
  have hname : resolveName "form data" = "FormData" := by decide +kernel
  exact (h "form data").2 (by rw [hname]; decide)

end Formwork.Component
