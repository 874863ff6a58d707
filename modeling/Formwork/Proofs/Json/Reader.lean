import Formwork.Proofs.Json.Grammar
import Formwork.Proofs.Script.Syntax

/-!
# Reading JSON

A reader for the grammar of JSON. It finds the value of every document, so no text is a document of
two values.

A token is read with any text behind it. Only a number has to end where it ends: what follows must
not be another digit.

* `Json.value?` — the value at the front of a text, and what follows it.
* `Json.reader` — a reader in the sense of the grammar.
-/

namespace Formwork.Json

open Script (behind? decimal? decimal?_toDigits)

/-! ## The reader -/

/-- What follows the white space at the front. -/
def skip (cs : List Char) : List Char := cs.dropWhile isSpace

/-- What is read by `item?`, one time or more and with commas between, up to `close`, and what
follows. It is read `n` times at most. -/
def list? {α : Type} (item? : List Char → Option (α × List Char)) (close : Char) :
    Nat → List Char → Option (List α × List Char)
  | 0, _ => none
  | n + 1, cs => do
    let (a, rest) ← item? (skip cs)
    match skip rest with
    | ',' :: rest => (list? item? close n rest).map fun p => (a :: p.1, p.2)
    | c :: rest => if c = close then some ([a], rest) else none
    | [] => none

/-- A key and what is read by `value?`, and what follows. -/
def member? (value? : List Char → Option (Json × List Char)) (cs : List Char) :
    Option ((String × Json) × List Char) := do
  let (k, rest) ← literal? cs
  let rest ← behind? [':'] (skip rest)
  (value? (skip rest)).map fun p => ((k, p.1), p.2)

/-- The number at the front, and what follows it. -/
def number? (cs : List Char) : Option (Json × List Char) :=
  (decimal? (cs.takeWhile Char.isDigit)).map fun n => (number n, cs.dropWhile Char.isDigit)

/-- The value at the front, in brackets of `n` levels at most, and what follows it. -/
def value? : Nat → List Char → Option (Json × List Char)
  | 0, _ => none
  | _, [] => none
  | n + 1, c :: cs =>
    match c with
    | 't' => (behind? "rue".toList cs).map fun rest => (bool true, rest)
    | 'f' => (behind? "alse".toList cs).map fun rest => (bool false, rest)
    | '"' => (literal? (c :: cs)).map fun p => (string p.1, p.2)
    | '[' =>
      ((list? (value? n) ']' n cs).map fun p => (array p.1, p.2)).or
        ((behind? [']'] (skip cs)).map fun rest => (array [], rest))
    | '\x7b' =>
      ((list? (member? (value? n)) '\x7d' n cs).map fun p => (object p.1, p.2)).or
        ((behind? ['\x7d'] (skip cs)).map fun rest => (object [], rest))
    | _ => number? (c :: cs)

/-- The value of a document. -/
def read? (text : String) : Option Json :=
  match value? (text.length + 1) (skip text.toList) with
  | some (j, rest) => if skip rest = [] then some j else none
  | none => none

/-! ## Tokens -/

/-- The text begins with a character, and not with white space. -/
def Starts (cs : List Char) : Prop := ∃ c ds, cs = c :: ds ∧ isSpace c = false

/-- The text does not begin with a digit. -/
def Stops (cs : List Char) : Prop := ∀ c ∈ cs.head?, c.isDigit = false

theorem isDigit_of_isSpace {c : Char} (h : isSpace c = true) : c.isDigit = false := by
  simp only [isSpace, Bool.or_eq_true, decide_eq_true_eq] at h
  rcases h with ((rfl | rfl) | rfl) | rfl <;> decide

theorem isSpace_of_isDigit {c : Char} (h : c.isDigit = true) : isSpace c = false := by
  cases hc : isSpace c with
  | false => rfl
  | true => rw [isDigit_of_isSpace hc] at h; cases h

theorem stops_of_space {cs : List Char} (h : Space cs) : Stops cs :=
  fun c hc => isDigit_of_isSpace (h c (List.mem_of_mem_head? hc))

theorem stops_append {cs : List Char} (h : Space cs) {c : Char} (hc : c.isDigit = false)
    (rest : List Char) : Stops (cs ++ c :: rest) := by
  cases cs with
  | nil =>
    rintro d ⟨⟩
    exact hc
  | cons d ds =>
    rintro e ⟨⟩
    exact stops_of_space h _ rfl

theorem skip_append {left : List Char} (h : Space left) {cs : List Char} (hcs : Starts cs)
    (rest : List Char) : skip (left ++ (cs ++ rest)) = cs ++ rest := by
  obtain ⟨c, ds, rfl, hc⟩ := hcs
  unfold skip
  rw [List.dropWhile_append_of_pos h, List.cons_append,
    List.dropWhile_cons_of_neg (Bool.eq_false_iff.mp hc)]

theorem skip_cons {left : List Char} (h : Space left) {c : Char} (hc : isSpace c = false)
    (rest : List Char) : skip (left ++ c :: rest) = c :: rest :=
  skip_append h ⟨c, [], rfl, hc⟩ rest

theorem number?_toDigits (n : Nat) {rest : List Char} (hrest : Stops rest) :
    number? (Nat.toDigits 10 n ++ rest) = some (number n, rest) := by
  have hdigit : ∀ c ∈ Nat.toDigits 10 n, c.isDigit = true :=
    fun c hc => Nat.isDigit_of_mem_toDigits (by decide) (by decide) hc
  have htake : rest.takeWhile Char.isDigit = [] ∧ rest.dropWhile Char.isDigit = rest := by
    cases rest with
    | nil => exact ⟨rfl, rfl⟩
    | cons c cs => simp [hrest c rfl]
  unfold number?
  rw [List.takeWhile_append_of_pos hdigit, List.dropWhile_append_of_pos hdigit, htake.1, htake.2,
    List.append_nil, decimal?_toDigits]
  rfl

/-! ## Values -/

theorem starts_of_spells {j : Json} {cs : List Char} (h : Spells j cs) : Starts cs := by
  cases h with
  | number n =>
    obtain ⟨c, ds, hcs⟩ := List.exists_cons_of_ne_nil (Nat.toDigits_ne_nil (b := 10) (n := n))
    have hc : c ∈ Nat.toDigits 10 n := hcs ▸ List.mem_cons_self
    exact ⟨c, ds, hcs, isSpace_of_isDigit (Nat.isDigit_of_mem_toDigits (by decide) (by decide) hc)⟩
  | string h =>
    obtain ⟨h⟩ := h
    exact ⟨_, _, rfl, rfl⟩
  | _ => exact ⟨_, _, rfl, rfl⟩

theorem starts_of_spellsMember {m : String × Json} {cs : List Char}
    (h : SpellsMember Spells m cs) : Starts cs := by
  obtain ⟨⟨hk⟩, -, -, -⟩ := h
  exact ⟨_, _, rfl, rfl⟩

/-- A list is read back, if each of its things is. -/
theorem list?_append {α : Type} {P : α → List Char → Prop}
    {item? : List Char → Option (α × List Char)} {size : Nat} {close : Char}
    (hitem : ∀ {a cs}, P a cs → cs.length ≤ size → ∀ {rest}, Stops rest →
      item? (cs ++ rest) = some (a, rest))
    (hstarts : ∀ {a cs}, P a cs → Starts cs)
    (hspace : isSpace close = false) (hdigit : close.isDigit = false) (hcomma : close ≠ ',')
    {as : List α} {cs : List Char} (h : SpellsList P as cs) (hsize : cs.length ≤ size) {n : Nat}
    (hn : cs.length < n) (rest : List Char) :
    list? item? close n (cs ++ close :: rest) = some (as, rest) := by
  induction h generalizing n with
  | @last a left cs right hleft ha hright =>
    obtain ⟨m, rfl⟩ := Nat.exists_eq_succ_of_ne_zero (Nat.ne_zero_of_lt hn)
    have hread := hitem ha (by simp at hsize; omega) (stops_append hright hdigit rest)
    have hskip := skip_append hleft (hstarts ha) (right ++ close :: rest)
    rw [List.append_assoc, List.append_assoc, list?, hskip, hread]
    simp [skip_cons hright hspace]
  | @more a as left cs right ds hleft ha hright _ ih =>
    obtain ⟨m, rfl⟩ := Nat.exists_eq_succ_of_ne_zero (Nat.ne_zero_of_lt hn)
    have hread := hitem ha (by simp at hsize; omega)
      (stops_append hright (c := ',') (by decide) (ds ++ close :: rest))
    have hskip := skip_append hleft (hstarts ha) (right ++ ',' :: (ds ++ close :: rest))
    have hmore := ih (by simp at hsize; omega) (n := m) (by simp at hn; omega)
    rw [List.append_assoc, List.append_assoc, List.append_assoc, List.cons_append, list?, hskip,
      hread]
    simp [skip_cons hright (c := ',') rfl, hmore]

/-- A member is read back, if its value is. -/
theorem member?_append {read : List Char → Option (Json × List Char)} {size : Nat}
    (hvalue : ∀ {v cs}, Spells v cs → cs.length ≤ size → ∀ {rest}, Stops rest →
      read (cs ++ rest) = some (v, rest))
    {m : String × Json} {cs : List Char} (h : SpellsMember Spells m cs) (hsize : cs.length ≤ size)
    {rest : List Char} (hrest : Stops rest) : member? read (cs ++ rest) = some (m, rest) := by
  cases h with
  | @mk k v ks left right cs hkey hleft hright hv =>
    have hread := hvalue hv (by simp at hsize; omega) hrest
    unfold member?
    rw [List.append_assoc, literal?_of_spells hkey]
    simp [skip_cons hleft (c := ':') rfl, behind?, skip_append hright (starts_of_spells hv), hread]

theorem list?_eq_none {α : Type} {item? : List Char → Option (α × List Char)} {cs : List Char}
    (h : item? (skip cs) = none) (close : Char) : ∀ n, list? item? close n cs = none
  | 0 => rfl
  | n + 1 => by rw [list?, h]; rfl

theorem value?_of_isDigit {c : Char} (hc : c.isDigit = true) (n : Nat) (cs : List Char) :
    value? (n + 1) (c :: cs) = number? (c :: cs) := by
  rw [value?] <;> (rintro rfl; exact absurd hc (by decide))

theorem value?_closing {close : Char} (h : close = ']' ∨ close = '\x7d') (rest : List Char) :
    ∀ n, value? n (close :: rest) = none
  | 0 => rfl
  | n + 1 => by
    have hempty : decimal? [] = none := by decide
    rcases h with rfl | rfl <;> simp [value?, number?, hempty]

/-- **A value is read back** from any text that spells it, with what follows. -/
theorem value?_append {n : Nat} {j : Json} {cs : List Char} (h : Spells j cs) (hn : cs.length < n)
    {rest : List Char} (hrest : Stops rest) : value? n (cs ++ rest) = some (j, rest) := by
  induction n generalizing j cs rest with
  | zero => omega
  | succ n ih =>
    cases h with
    | true => rfl
    | false => rfl
    | number m =>
      obtain ⟨c, ds, hcs⟩ := List.exists_cons_of_ne_nil (Nat.toDigits_ne_nil (b := 10) (n := m))
      have hc : c.isDigit = true :=
        Nat.isDigit_of_mem_toDigits (by decide) (by decide) (hcs ▸ List.mem_cons_self)
      have hnumber := number?_toDigits m hrest
      rw [hcs, List.cons_append] at hnumber ⊢
      rw [value?_of_isDigit hc, hnumber]
    | @string s cs hs =>
      have hliteral := literal?_of_spells hs rest
      obtain ⟨hs⟩ := hs
      rw [List.cons_append] at hliteral ⊢
      rw [value?, hliteral]
      rfl
    | @emptyArray cs hcs =>
      have hskip : skip (cs ++ ']' :: rest) = ']' :: rest := skip_cons hcs rfl rest
      have hnone : list? (value? n) ']' n (cs ++ ']' :: rest) = none :=
        list?_eq_none (by rw [hskip, value?_closing (.inl rfl)]) _ _
      rw [List.cons_append, List.append_assoc, List.singleton_append, value?, hnone, hskip]
      rfl
    | @array xs cs hxs =>
      have hlen : cs.length + 1 < n := by simpa using hn
      have hlist : list? (value? n) ']' n (cs ++ ']' :: rest) = some (xs, rest) :=
        list?_append (fun hx hsize _ hstop => ih hx (by omega) hstop) starts_of_spells rfl rfl
          (by decide) hxs (Nat.le_refl _) (by omega) rest
      rw [List.cons_append, List.append_assoc, List.singleton_append, value?, hlist]
      rfl
    | @emptyObject cs hcs =>
      have hskip : skip (cs ++ '\x7d' :: rest) = '\x7d' :: rest := skip_cons hcs rfl rest
      have hnone : list? (member? (value? n)) '\x7d' n (cs ++ '\x7d' :: rest) = none :=
        list?_eq_none (by rw [hskip]; rfl) _ _
      rw [List.cons_append, List.append_assoc, List.singleton_append, value?, hnone, hskip]
      rfl
    | @object ms cs hms =>
      have hlen : cs.length + 1 < n := by simpa using hn
      have hlist : list? (member? (value? n)) '\x7d' n (cs ++ '\x7d' :: rest) = some (ms, rest) :=
        list?_append
          (fun hm hsize _ hstop =>
            member?_append (fun hv hlen _ hstop => ih hv (by omega) hstop) hm hsize hstop)
          starts_of_spellsMember rfl rfl (by decide) hms (Nat.le_refl _) (by omega) rest
      rw [List.cons_append, List.append_assoc, List.singleton_append, value?, hlist]
      rfl

/-! ## Documents -/

/-- **The value of a document is read back**, however the document is laid out. -/
theorem read?_of_document {text : String} {j : Json} (h : Document text j) :
    read? text = some j := by
  obtain ⟨left, cs, right, hleft, hj, hright, htext⟩ := h
  have hlen : cs.length < text.length + 1 := by
    rw [← String.length_toList, htext]
    simp
    omega
  have hend : skip right = [] := by
    rw [skip, ← List.append_nil right, List.dropWhile_append_of_pos hright]
    rfl
  unfold read?
  rw [htext, skip_append hleft (starts_of_spells hj),
    value?_append hj hlen (stops_of_space hright)]
  simp [hend]

example : read? " [1 , \"\\u0041\\/\", true]\n" =
    some (array [number 1, string "A/", bool true]) := by rfl

/-- So there is a reader, and it reads objects that have a key twice, too. -/
def reader : Reader := ⟨read?, fun h _ => read?_of_document h⟩

/-- No text is a document of two values. -/
theorem Document.unique {text : String} {j k : Json} (hj : Document text j)
    (hk : Document text k) : j = k :=
  Option.some.inj ((read?_of_document hj).symm.trans (read?_of_document hk))

/-- **Different values have different texts.** -/
theorem pretty_inj {j k : Json} (h : j.pretty = k.pretty) : j = k :=
  (document_pretty j).1.unique (h ▸ (document_pretty k).1)

end Formwork.Json
