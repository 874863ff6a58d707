import Formwork.Proofs.Validation.Parts

/-!
# Web addresses

The pattern of web addresses asks for a host of two parts or more, an optional `/`, `#` or `?`, and
the rest of the line. A text may match it in many ways, for everything behind the first character of
the host's second part is also a rest of the line. So only the beginning of a text decides.

* `WebAddress` — a text that begins like an address, in its parts.
* `Pattern.Within` — the characters that a pattern leaves room for.
* `Constraint.urlBeginning` — the pattern without the parts that make no difference.

**Main statement**: `Constraint.accepts_url_iff_begins`.
-/

namespace Formwork

namespace Pattern

/-! ## The characters of a match -/

variable {P : Char → Prop} {p : Pattern} {cs : List Char}

/-- Every set of characters in the pattern is one of characters with `P`. -/
def Within (P : Char → Prop) : Pattern → Prop
  | empty => True
  | char s => ∀ c, s.contains c = true → P c
  | seq p q => p.Within P ∧ q.Within P
  | alt p q => p.Within P ∧ q.Within P
  | star p => p.Within P

theorem Within.forall_mem (hp : p.Within P) (h : p.Matches cs) : ∀ c ∈ cs, P c := by
  induction h with
  | empty => simp
  | char hc => exact List.forall_mem_singleton.mpr (hp _ hc)
  | seq _ _ ihu ihv => exact List.forall_mem_append.mpr ⟨ihu hp.1, ihv hp.2⟩
  | altLeft _ ih => exact ih hp.1
  | altRight _ ih => exact ih hp.2
  | starNil => simp
  | starCons _ _ ihu ihv => exact List.forall_mem_append.mpr ⟨ihu hp, ihv hp⟩

theorem Within.optional (hp : p.Within P) : p.optional.Within P := ⟨hp, trivial⟩

theorem Within.plus (hp : p.Within P) : p.plus.Within P := ⟨hp, hp⟩

theorem within_text {s : String} (h : ∀ c ∈ s.toList, P c) : (text s).Within P := by
  unfold text
  generalize s.toList = ds at h
  induction ds with
  | nil => exact trivial
  | cons d ds ih =>
    rw [List.forall_mem_cons] at h
    refine ⟨fun c hc => ?_, ih h.2⟩
    rw [contains_ofList_singleton.mp hc]
    exact h.1

end Pattern

/-! ## Addresses -/

/-- A letter or digit of ASCII, a dash or an underscore: a character of a part of a host. -/
def isLabelChar : Char → Bool := Constraint.isAlphanumOr ['_', '-']

/-- A character that ends a line of a script. -/
def IsLineEnd (c : Char) : Prop := c ∈ ['\n', '\r', '\u2028', '\u2029']

/-- The characters are all on one line. -/
def StaysOnLine (cs : List Char) : Prop := ∀ c ∈ cs, ¬ IsLineEnd c

/-- A text that begins like a web address, in its parts. -/
structure WebAddress where
  /-- Whether the scheme is `https`; otherwise it is `http`. -/
  secure : Bool
  /-- The first part of the host. -/
  label : List Char
  label_ne : label ≠ []
  label_chars : label.all isLabelChar = true
  /-- The first character of the host's second part. -/
  next : Char
  next_char : isLabelChar next = true
  /-- What else there is. -/
  rest : List Char
  rest_line : StaysOnLine rest

namespace WebAddress

/-- The scheme as it is written. -/
def scheme (secure : Bool) : List Char := if secure then "https".toList else "http".toList

/-- The address as it is written. -/
def chars (a : WebAddress) : List Char :=
  scheme a.secure ++ "://".toList ++ a.label ++ '.' :: a.next :: a.rest

/-- An address with some more text on its line. -/
def extend (a : WebAddress) (cs : List Char) (h : StaysOnLine cs) : WebAddress :=
  { a with rest := a.rest ++ cs, rest_line := List.forall_mem_append.mpr ⟨a.rest_line, h⟩ }

theorem chars_extend (a : WebAddress) (cs : List Char) (h : StaysOnLine cs) :
    (a.extend cs h).chars = a.chars ++ cs := by
  simp [chars, extend]

end WebAddress

namespace Constraint

open WebAddress (scheme)

/-! ## The rest of a line -/

theorem inRanges_lineEnds_iff {c : Char} :
    Pattern.InRanges lineEnds c.toNat ↔ IsLineEnd c := by
  have hmem : IsLineEnd c ↔
      c.toNat = 0x0A ∨ c.toNat = 0x0D ∨ c.toNat = 0x2028 ∨ c.toNat = 0x2029 := by
    simp only [IsLineEnd, List.mem_cons, List.not_mem_nil, or_false, ← Char.toNat_inj]
    rfl
  rw [hmem]
  simp only [Pattern.InRanges, lineEnds, List.mem_cons, List.not_mem_nil, or_false,
    exists_eq_or_imp, exists_eq_left]
  show (10 ≤ c.toNat ∧ c.toNat ≤ 10) ∨ (13 ≤ c.toNat ∧ c.toNat ≤ 13) ∨
    (0x2028 ≤ c.toNat ∧ c.toNat ≤ 0x2029) ↔ _
  omega

/-- The rest of a line. -/
def restOfLine : Pattern := .star (.char (.without lineEnds))

theorem matches_restOfLine_iff {cs : List Char} : restOfLine.Matches cs ↔ StaysOnLine cs := by
  rw [restOfLine, Pattern.matches_star_char_iff]
  refine forall₂_congr fun c _ => ?_
  rw [Pattern.contains_iff_without, inRanges_lineEnds_iff]

theorem within_restOfLine : restOfLine.Within (¬ IsLineEnd ·) := by
  intro c hc
  rwa [Pattern.contains_iff_without, inRanges_lineEnds_iff] at hc

theorem not_isLineEnd_of_isLabelChar {c : Char} (h : isLabelChar c = true) : ¬ IsLineEnd c := by
  intro hc
  have hnone : ['\n', '\r', '\u2028', '\u2029'].any isLabelChar = false := by decide
  exact List.any_eq_false.mp hnone c hc h

/-! ## Behind the first part of the host -/

/-- One more part of a host, with the dot in front of it. -/
def dottedLabel : Pattern := .seq (.text ".") (.plus hostChar)

/-- A mark that may stand behind a host. -/
def hostMark : Pattern := .optional (oneOf (only ['/', '#', '?']))

theorem within_hostChar : hostChar.Within (¬ IsLineEnd ·) :=
  fun _ hc => not_isLineEnd_of_isLabelChar (contains_alphanum_iff.mp hc)

theorem within_dottedLabel : dottedLabel.Within (¬ IsLineEnd ·) :=
  ⟨Pattern.within_text (by simp [IsLineEnd]), within_hostChar.plus⟩

theorem within_hostMark : hostMark.Within (¬ IsLineEnd ·) := by
  refine Pattern.Within.optional fun c hc => ?_
  have hnone : ∀ d ∈ ['/', '#', '?'], ¬ d ∈ ['\n', '\r', '\u2028', '\u2029'] := by simp
  exact hnone c (inRanges_only_iff.mp (Pattern.contains_iff_within.mp hc))

/-- A text that goes on like an address behind the first part of its host. -/
def GoesOn (cs : List Char) : Prop :=
  ∃ c rest, cs = '.' :: c :: rest ∧ isLabelChar c = true ∧ StaysOnLine rest

theorem matches_dottedLabel_iff {cs : List Char} :
    dottedLabel.Matches cs ↔
      ∃ c rest, cs = '.' :: c :: rest ∧ isLabelChar c = true ∧ rest.all isLabelChar = true := by
  rw [dottedLabel, Pattern.matches_seq_iff]
  constructor
  · rintro ⟨dot, label, hdot, hlabel, rfl⟩
    obtain rfl := Pattern.matches_text_iff.mp hdot
    obtain ⟨hne, hchars⟩ := matches_plus_iff.mp hlabel
    obtain ⟨c, rest, rfl⟩ := List.exists_cons_of_ne_nil hne
    rw [List.all_cons, Bool.and_eq_true] at hchars
    exact ⟨c, rest, rfl, hchars.1, hchars.2⟩
  · rintro ⟨c, rest, rfl, hc, hrest⟩
    refine ⟨['.'], c :: rest, Pattern.matches_text_iff.mpr rfl, matches_plus_iff.mpr ?_, rfl⟩
    exact ⟨List.cons_ne_nil c rest, List.all_cons.trans (Bool.and_eq_true_iff.mpr ⟨hc, hrest⟩)⟩

/-- More parts of the host, a mark and the rest of the line are a rest of the line. -/
theorem matches_labels_iff {cs : List Char} :
    (Pattern.all [.plus dottedLabel, hostMark, restOfLine]).Matches cs ↔ GoesOn cs := by
  constructor
  · intro h
    -- what follows the second part of the host may be cut in many ways, and stays on the line in all
    obtain ⟨first, more, hfirst, hmore, rfl⟩ :=
      Pattern.matches_seq_iff.mp ((Pattern.matches_seq_assoc cs).mpr h)
    obtain ⟨c, rest, rfl, hc, hrest⟩ := matches_dottedLabel_iff.mp hfirst
    have hrest : StaysOnLine rest := fun d hd =>
      not_isLineEnd_of_isLabelChar (List.all_eq_true.mp hrest d hd)
    have hwithin : (Pattern.seq (.star dottedLabel) (.all [hostMark, restOfLine])).Within
        (¬ IsLineEnd ·) := ⟨within_dottedLabel, within_hostMark, within_restOfLine, trivial⟩
    exact ⟨c, rest ++ more, rfl, hc,
      List.forall_mem_append.mpr ⟨hrest, hwithin.forall_mem hmore⟩⟩
  · -- the second part is taken to be a single character, and all else the rest of the line
    rintro ⟨c, rest, rfl, hc, hrest⟩
    have hlabel : (Pattern.plus dottedLabel).Matches (['.', c] ++ []) :=
      .seq (matches_dottedLabel_iff.mpr ⟨c, [], rfl, hc, rfl⟩) .starNil
    refine Pattern.matches_all_iff.mpr ⟨[['.', c], [], rest], ?_, by simp⟩
    exact .cons hlabel <|
      .cons (Pattern.matches_optional_iff.mpr (.inr rfl)) <|
      .cons (matches_restOfLine_iff.mpr hrest) .nil

/-- A dot, one character and the rest of the line say the same. -/
theorem matches_singleChar_iff {cs : List Char} :
    (Pattern.all [.text ".", hostChar, restOfLine]).Matches cs ↔ GoesOn cs := by
  rw [Pattern.matches_all_iff]
  constructor
  · rintro ⟨_, _ | ⟨hdot, _ | ⟨hchar, _ | ⟨hline, _ | _⟩⟩⟩, rfl⟩
    obtain rfl := Pattern.matches_text_iff.mp hdot
    obtain ⟨c, hc, rfl⟩ := Pattern.matches_char_iff.mp hchar
    exact ⟨c, _, by simp, contains_alphanum_iff.mp hc, matches_restOfLine_iff.mp hline⟩
  · rintro ⟨c, rest, rfl, hc, hrest⟩
    refine ⟨[['.'], [c], rest], ?_, by simp⟩
    exact .cons (Pattern.matches_text_iff.mpr rfl) <|
      .cons (.char (contains_alphanum_iff.mpr hc)) <|
      .cons (matches_restOfLine_iff.mpr hrest) .nil

/-! ## The whole pattern -/

/-- A scheme, the first part of a host, and some patterns behind it. -/
def behindLabel (ps : List Pattern) : Pattern :=
  .all (.text "http" :: .optional (.text "s") :: .text "://" :: .plus hostChar :: ps)

/-- The beginning of a web address: a scheme, one part of a host, a dot and a character of the next
part. Then anything on the line. -/
def urlBeginning : Pattern := behindLabel [.text ".", hostChar, restOfLine]

theorem urlPattern_eq : urlPattern = behindLabel [.plus dottedLabel, hostMark, restOfLine] := rfl

/-- Where the patterns behind the first part of the host match what goes on like an address, the
whole matches the addresses. -/
theorem matches_behindLabel_iff {ps : List Pattern}
    (hps : ∀ cs, (Pattern.all ps).Matches cs ↔ GoesOn cs) {cs : List Char} :
    (behindLabel ps).Matches cs ↔ ∃ a : WebAddress, a.chars = cs := by
  rw [behindLabel, Pattern.matches_all_iff]
  constructor
  · rintro ⟨_, _ | ⟨hhttp, _ | ⟨hs, _ | ⟨hcolon, _ | ⟨hlabel, hrest⟩⟩⟩⟩, rfl⟩
    obtain rfl := Pattern.matches_text_iff.mp hhttp
    obtain ⟨secure, rfl⟩ := Pattern.matches_optional_text_iff.mp hs
    obtain rfl := Pattern.matches_text_iff.mp hcolon
    obtain ⟨hne, hchars⟩ := matches_plus_iff.mp hlabel
    obtain ⟨c, rest, hcs, hc, hline⟩ := (hps _).mp (Pattern.matches_all_iff.mpr ⟨_, hrest, rfl⟩)
    refine ⟨⟨secure, _, hne, hchars, c, hc, rest, hline⟩, ?_⟩
    cases secure
    all_goals simp [WebAddress.chars, scheme, hcs]
  · rintro ⟨a, rfl⟩
    obtain ⟨parts, hparts, hcs⟩ := Pattern.matches_all_iff.mp
      ((hps _).mpr ⟨a.next, a.rest, rfl, a.next_char, a.rest_line⟩)
    refine ⟨"http".toList :: (if a.secure then "s".toList else []) :: "://".toList :: a.label ::
      parts, ?_, ?_⟩
    · exact .cons (Pattern.matches_text_iff.mpr rfl) <|
        .cons (Pattern.matches_optional_text_iff.mpr ⟨a.secure, rfl⟩) <|
        .cons (Pattern.matches_text_iff.mpr rfl) <|
        .cons (matches_plus_iff.mpr ⟨a.label_ne, a.label_chars⟩) hparts
    · cases hsecure : a.secure
      all_goals simp [WebAddress.chars, scheme, hsecure, hcs]

theorem accepts_url_iff {s : String} :
    url.accepts s = true ↔ ∃ a : WebAddress, a.chars = s.toList := by
  show urlPattern.accepts s = true ↔ _
  rw [Pattern.accepts_iff, urlPattern_eq]
  exact matches_behindLabel_iff fun _ => matches_labels_iff

theorem accepts_urlBeginning_iff {s : String} :
    urlBeginning.accepts s = true ↔ ∃ a : WebAddress, a.chars = s.toList := by
  rw [Pattern.accepts_iff]
  exact matches_behindLabel_iff fun _ => matches_singleChar_iff

/-- **Only the beginning of a web address decides**: a text is accepted exactly if it is a scheme, a
part of a host, a dot, a character of another part, and anything else on the same line. The pattern
might leave out the further parts of the host and the mark behind it, and what is accepted stays so
with more text on its line. -/
theorem accepts_url_iff_begins (s : String) :
    (url.accepts s = true ↔ ∃ a : WebAddress, a.chars = s.toList) ∧
    url.accepts s = urlBeginning.accepts s ∧
    (url.accepts s = true → ∀ t : String, StaysOnLine t.toList → url.accepts (s ++ t) = true) := by
  refine ⟨accepts_url_iff, ?_, ?_⟩
  · rw [Bool.eq_iff_iff, accepts_url_iff, accepts_urlBeginning_iff]
  · intro h t ht
    obtain ⟨a, ha⟩ := accepts_url_iff.mp h
    refine accepts_url_iff.mpr ⟨a.extend t.toList ht, ?_⟩
    rw [WebAddress.chars_extend, ha, String.toList_append]

/-- A single dot behind the scheme is not enough, and blanks may follow where there are two parts. -/
example : url.accepts "http://a." = false ∧ url.accepts "https://a.b c://\t" = true := by decide

end Constraint

end Formwork
