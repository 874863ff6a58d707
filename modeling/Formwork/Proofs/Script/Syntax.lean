import Formwork.Script

/-!
# Reading conditions

A reader for the conditions that generated scripts hold. It follows the grammar of the script's
language and not the way in which the conditions were put together, so that what a condition means
can be said about its text.

## A regular expression literal

1. `splitBody` finds the slash that ends the literal; behind a backslash and in a class a slash does
   not end it.
2. `tokens` cuts the body into terms, quantifiers and parentheses.
3. `assemble` puts the terms together. It keeps a stack of sequences, one for each open parenthesis.

The reader knows the part of the grammar that `Regex` has terms for and refuses everything else.
-/

namespace Formwork.Script

/-! ## Regular expressions -/

/-- A character that means something in a regular expression. -/
def isSyntaxChar (c : Char) : Bool :=
  ['^', '$', '\\', '.', '*', '+', '?', '(', ')', '[', ']', '{', '}', '|', '/'].contains c

/-- A part of a regular expression. -/
inductive Token
  /-- A term that is no group. -/
  | term (r : Regex)
  | quantifier (q : Quantifier)
  | opening
  | closing
  deriving Repr, DecidableEq

/-- The part that a character makes on its own. -/
def Token.ofChar? (c : Char) : Option Token :=
  match c with
  | '.' => some (.term .any)
  | '?' => some (.quantifier .optional)
  | '*' => some (.quantifier .star)
  | '+' => some (.quantifier .plus)
  | '(' => some .opening
  | ')' => some .closing
  | c => if isSyntaxChar c then none else some (.term (.char c))

/-- Where the reader stands in a regular expression. -/
inductive Place
  /-- Between two parts. -/
  | outside
  /-- In a class, behind the members `done`, the last of which comes first. -/
  | members (done : List ClassItem)
  /-- In the first number of a quantifier, of which `n` was read. -/
  | least (n : Option Nat)
  /-- In the second number. -/
  | most (m : Nat) (n : Option Nat)

/-- A number with one more digit. -/
def appendDigit (n : Option Nat) (c : Char) : Option Nat := some (10 * n.getD 0 + (c.toNat - 48))

/-- The parts of a regular expression. -/
def tokens : Place → List Char → Option (List Token)
  | .outside, [] => some []
  | .outside, '[' :: '^' :: _ => none
  | .outside, '[' :: cs => tokens (.members []) cs
  | .outside, '{' :: cs => tokens (.least none) cs
  | .outside, '\\' :: c :: cs =>
    if isSyntaxChar c then (tokens .outside cs).map (.term (.escaped c) :: ·) else none
  | .outside, c :: cs => (Token.ofChar? c).bind fun t => (tokens .outside cs).map (t :: ·)
  | .members done, ']' :: cs => (tokens .outside cs).map (.term (.oneOf done.reverse) :: ·)
  | .members done, '\\' :: 'w' :: cs => tokens (.members (.word :: done)) cs
  | .members done, '\\' :: 's' :: cs => tokens (.members (.space :: done)) cs
  | .members done, '\\' :: c :: cs =>
    if isSyntaxChar c || c == '-' then tokens (.members (.escaped c :: done)) cs else none
  | .members done, a :: '-' :: ']' :: cs =>
    (tokens .outside cs).map (.term (.oneOf (.char '-' :: .char a :: done).reverse) :: ·)
  | .members done, a :: '-' :: b :: cs =>
    if a ≤ b && b != '\\' then tokens (.members (.range a b :: done)) cs else none
  | .members done, c :: cs => tokens (.members (.char c :: done)) cs
  | .least n, '}' :: cs =>
    n.bind fun n => (tokens .outside cs).map (.quantifier (.exactly n) :: ·)
  | .least n, ',' :: cs => n.bind fun n => tokens (.most n none) cs
  | .least n, c :: cs => if c.isDigit then tokens (.least (appendDigit n c)) cs else none
  | .most m none, '}' :: cs => (tokens .outside cs).map (.quantifier (.atLeast m) :: ·)
  | .most m (some n), '}' :: cs =>
    if m ≤ n then (tokens .outside cs).map (.quantifier (.between m n) :: ·) else none
  | .most m n, c :: cs => if c.isDigit then tokens (.most m (appendDigit n c)) cs else none
  | _, [] => none

/-- Terms one after the other, given with the last of them first. -/
def sequence? : List Regex → Option Regex
  | [] => none
  | r :: rs => some (rs.foldl (fun later earlier => .seq earlier later) r)

/-- A term with a quantifier; there is at most one. -/
def quantified? (q : Quantifier) : Regex → Option Regex
  | .repeated _ _ => none
  | r => some (.repeated r q)

/-- The term that some parts make. The stack holds the terms read so far, the last of them first, for
the innermost open parenthesis and those around it. -/
def assemble : List (List Regex) → List Token → Option Regex
  | [rs], [] => sequence? rs
  | rs :: stack, .term r :: ts => assemble ((r :: rs) :: stack) ts
  | (r :: rs) :: stack, .quantifier q :: ts =>
    (quantified? q r).bind fun r => assemble ((r :: rs) :: stack) ts
  | stack, .opening :: ts => assemble ([] :: stack) ts
  | inner :: outer :: stack, .closing :: ts =>
    (sequence? inner).bind fun r => assemble ((.group r :: outer) :: stack) ts
  | _, _ => none

/-- The anchored term that a text spells. -/
def anchored? : List Char → Option Regex
  | '^' :: cs =>
    if cs.getLast? = some '$' then (tokens .outside cs.dropLast).bind (assemble [[]]) else none
  | _ => none

/-- The body of a literal and what follows the slash at its end. -/
def splitBody (inClass : Bool) : List Char → Option (List Char × List Char)
  | [] => none
  | '\\' :: c :: cs => (splitBody inClass cs).map fun p => ('\\' :: c :: p.1, p.2)
  | c :: cs =>
    if c = '/' ∧ inClass = false then some ([], cs)
    else (splitBody (c = '[' ∨ (inClass ∧ c ≠ ']')) cs).map fun p => (c :: p.1, p.2)

/-- The flag of a literal. -/
def flag? : List Char → Option Bool
  | [] => some false
  | ['i'] => some true
  | _ => none

/-- The regular expression literal at the front of a text, and what follows it. -/
def literal? : List Char → Option (RegexLiteral × List Char)
  | '/' :: cs => do
    let (body, rest) ← splitBody false cs
    let r ← anchored? body
    let ignoreCase ← flag? (rest.takeWhile Char.isAlpha)
    some (⟨r, ignoreCase⟩, rest.dropWhile Char.isAlpha)
  | _ => none

/-! ## Conditions -/

/-- The number that a text spells in decimal digits, without a zero in front. -/
def decimal? (cs : List Char) : Option Nat :=
  if cs = Nat.toDigits 10 (Nat.ofDigitChars 10 cs 0) then some (Nat.ofDigitChars 10 cs 0) else none

/-- What follows some characters at the front of a text. -/
def behind? : List Char → List Char → Option (List Char)
  | [], cs => some cs
  | p :: ps, c :: cs => if p = c then behind? ps cs else none
  | _ :: _, [] => none

namespace Condition

/-- A comparison of the length of `value` with a number. -/
def comparison? (value cs : List Char) : Option Condition := do
  let rest ← behind? (value ++ ".length < ".toList) cs
  let n ← decimal? rest
  some (.shorterThan n)

/-- A failed match of `value` with a regular expression. -/
def failedMatch? (value cs : List Char) : Option Condition := do
  let rest ← behind? ['!'] cs
  let (l, call) ← literal? rest
  if call = ".test(".toList ++ value ++ [')'] then some (.mismatch l) else none

/-- The condition on `value` that a text spells. -/
def read? (value text : String) : Option Condition :=
  comparison? value.toList text.toList <|> failedMatch? value.toList text.toList

end Condition

/-! ## What is read -/

theorem decimal?_toDigits (n : Nat) : decimal? (Nat.toDigits 10 n) = some n := by
  unfold decimal?
  rw [Nat.ofDigitChars_ten_toDigits, if_pos rfl]

/-- What was read as a number ends in a digit. -/
theorem getLast?_of_decimal? {cs : List Char} {n : Nat} (h : decimal? cs = some n) :
    ∃ c, cs.getLast? = some c ∧ c.isDigit = true := by
  unfold decimal? at h
  split at h
  · next hcs =>
    have hne : cs ≠ [] := by
      rw [hcs]
      exact Nat.toDigits_ne_nil
    have hmem : cs.getLast hne ∈ Nat.toDigits 10 (Nat.ofDigitChars 10 cs 0) :=
      hcs ▸ List.getLast_mem hne
    exact ⟨_, List.getLast?_eq_some_getLast hne,
      Nat.isDigit_of_mem_toDigits (by decide) (by decide) hmem⟩
  · cases h

theorem behind?_eq_some_iff {ps cs rest : List Char} :
    behind? ps cs = some rest ↔ cs = ps ++ rest := by
  induction ps generalizing cs with
  | nil => rw [behind?, Option.some_inj, List.nil_append]
  | cons p ps ih =>
    cases cs with
    | nil => simp [behind?]
    | cons c cs =>
      rw [behind?, List.cons_append, List.cons.injEq]
      split
      · next hpc => rw [ih, hpc]; simp
      · next hpc => simp [Ne.symm hpc]

namespace Condition

theorem comparison?_source (value : String) (n : Nat) :
    comparison? value.toList ((shorterThan n).source value).toList = some (.shorterThan n) := by
  have hs : ((shorterThan n).source value).toList =
      (value.toList ++ ".length < ".toList) ++ Nat.toDigits 10 n := by
    rw [source, String.toList_append, String.toList_append]
    exact congrArg _ Nat.toList_repr
  unfold comparison?
  rw [behind?_eq_some_iff.mpr hs]
  simp [decimal?_toDigits]

/-- What was read as a comparison ends in a digit. -/
theorem getLast?_of_comparison? {value cs : List Char} {cond : Condition}
    (h : comparison? value cs = some cond) : ∃ c, cs.getLast? = some c ∧ c.isDigit = true := by
  unfold comparison? at h
  obtain ⟨rest, hrest, h⟩ := Option.bind_eq_some_iff.mp h
  obtain ⟨n, hn, -⟩ := Option.bind_eq_some_iff.mp h
  obtain ⟨c, hc, hdigit⟩ := getLast?_of_decimal? hn
  rw [behind?_eq_some_iff.mp hrest, List.getLast?_append, hc]
  exact ⟨c, rfl, hdigit⟩

theorem toList_source_mismatch (value : String) (l : RegexLiteral) :
    ((mismatch l).source value).toList =
      ['!'] ++ (l.source.toList ++ '.' :: ("test(".toList ++ value.toList ++ [')'])) := by
  simp [source]

theorem comparison?_source_mismatch (value : String) (l : RegexLiteral) :
    comparison? value.toList ((mismatch l).source value).toList = none := by
  -- a comparison would end in a digit, and this text ends in a parenthesis
  rw [Option.eq_none_iff_forall_ne_some]
  intro cond hcond
  obtain ⟨c, hc, hdigit⟩ := getLast?_of_comparison? hcond
  have hlast : ((mismatch l).source value).toList.getLast? = some ')' := by
    rw [source, String.toList_append]
    exact List.getLast?_concat
  rw [hlast, Option.some_inj] at hc
  subst hc
  exact absurd hdigit (by decide)

theorem failedMatch?_source (value : String) {l : RegexLiteral}
    (hl : ∀ rest, literal? (l.source.toList ++ '.' :: rest) = some (l, '.' :: rest)) :
    failedMatch? value.toList ((mismatch l).source value).toList = some (.mismatch l) := by
  rw [toList_source_mismatch]
  unfold failedMatch?
  rw [behind?_eq_some_iff.mpr rfl]
  simp only [Option.bind_eq_bind, Option.bind_some, hl]
  exact if_pos rfl

/-- **A condition is read back** from its text on any value, if its literal is from the literal's. -/
theorem read?_source (value : String) {cond : Condition}
    (hl : ∀ l, cond = .mismatch l → ∀ rest,
      literal? (l.source.toList ++ '.' :: rest) = some (l, '.' :: rest)) :
    read? value (cond.source value) = some cond := by
  unfold read?
  cases cond with
  | shorterThan n =>
    rw [comparison?_source]
    rfl
  | mismatch l =>
    rw [comparison?_source_mismatch, failedMatch?_source value (hl l rfl)]
    rfl

end Condition

end Formwork.Script
