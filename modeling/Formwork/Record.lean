/-!
# Records of texts

A record keeps a text under each of some keys and remembers the order in which the keys came. It
holds the values of a form and its error messages, one slot per state key.

* `Record.set` — a key that is there keeps its place, a new key comes last.
* `Record.get?` — the text under a key.
* `Record.ofList` — the keys are those of the pairs as they first appear (`keys_ofList`), and the last
  pair with a key counts (`get?_ofList`).
-/

namespace Formwork

/-- Texts by key, in the order of the keys' first appearance. -/
structure Record where
  entries : List (String × String)
  deriving Repr, DecidableEq

namespace Record

/-- The record without a slot. -/
def empty : Record := ⟨[]⟩

/-- The keys, in order. -/
def keys (r : Record) : List String := r.entries.map (·.1)

/-- The text under a key. -/
def get? (r : Record) (key : String) : Option String := r.entries.lookup key

/-- Slots with a text put under a key. -/
def setEntry (key value : String) : List (String × String) → List (String × String)
  | [] => [(key, value)]
  | e :: es => if e.1 = key then (key, value) :: es else e :: setEntry key value es

/-- The record with a text put under a key. -/
def set (r : Record) (key value : String) : Record := ⟨setEntry key value r.entries⟩

/-- The record of some key-value pairs; of two pairs with one key the later counts. -/
def ofList (es : List (String × String)) : Record := es.foldl (fun r e => r.set e.1 e.2) empty

/-- A record with an empty text under each key. -/
def blank (keys : List String) : Record := ofList (keys.map fun k => (k, ""))

/-- The text under a key, or the empty text. -/
def text (r : Record) (key : String) : String := (r.get? key).getD ""

/-! ## What `set` does to the keys and the texts -/

theorem lookup_setEntry (key value k : String) (es : List (String × String)) :
    (setEntry key value es).lookup k = if k = key then some value else es.lookup k := by
  induction es with
  | nil =>
    rw [setEntry, List.lookup_cons]
    by_cases h : k = key <;> simp [h, beq_false_of_ne]
  | cons e es ih =>
    obtain ⟨j, text⟩ := e
    by_cases hj : j = key
    · subst hj
      simp only [setEntry, if_true, List.lookup_cons]
      by_cases h : k = j <;> simp [h, beq_false_of_ne]
    · simp only [setEntry, if_neg hj, List.lookup_cons]
      by_cases h : k = j
      · simp [h, hj]
      · simp [beq_false_of_ne h, ih]

theorem map_fst_setEntry (key value : String) (es : List (String × String)) :
    (setEntry key value es).map (·.1) =
      if key ∈ es.map (·.1) then es.map (·.1) else es.map (·.1) ++ [key] := by
  induction es with
  | nil => simp [setEntry]
  | cons e es ih =>
    by_cases he : e.1 = key
    · simp [setEntry, he]
    · have hk : key ≠ e.1 := Ne.symm he
      rw [setEntry, if_neg he, List.map_cons, ih]
      by_cases h : key ∈ es.map (·.1) <;> simp [h, hk]

/-- A text that was put under a key is found there, and no other key is touched. -/
@[simp]
theorem get?_set (r : Record) (key value k : String) :
    (r.set key value).get? k = if k = key then some value else r.get? k :=
  lookup_setEntry key value k r.entries

/-- A key that is there keeps its place, a new key comes last. -/
@[simp]
theorem keys_set (r : Record) (key value : String) :
    (r.set key value).keys = if key ∈ r.keys then r.keys else r.keys ++ [key] :=
  map_fst_setEntry key value r.entries

/-- Setting a text keeps the keys distinct. -/
theorem nodup_keys_set {r : Record} (h : r.keys.Nodup) (key value : String) :
    (r.set key value).keys.Nodup := by
  rw [keys_set]
  split
  · exact h
  · next hkey =>
    rw [List.nodup_append]
    refine ⟨h, by simp, ?_⟩
    rintro k hk _ hs rfl
    rw [List.mem_singleton] at hs
    exact hkey (hs ▸ hk)

theorem text_set (r : Record) (key value k : String) :
    (r.set key value).text k = if k = key then value else r.text k := by
  rw [text, get?_set]
  split <;> rfl

/-! ## What a list of pairs leaves -/

/-- The keys that were there come first, then the new ones as they first appear. -/
theorem keys_foldl_set (es : List (String × String)) (r : Record) :
    (es.foldl (fun r e => r.set e.1 e.2) r).keys =
      r.keys ++ ((es.map (·.1)).removeAll r.keys).eraseDups := by
  induction es generalizing r with
  | nil => simp
  | cons e es ih =>
    rw [List.foldl_cons, ih, keys_set, List.map_cons, List.cons_removeAll]
    by_cases hkey : e.1 ∈ r.keys
    · simp [hkey]
    · have hrest : (es.map (·.1)).removeAll (r.keys ++ [e.1]) =
          ((es.map (·.1)).removeAll r.keys).filter fun k => !k == e.1 := by
        rw [List.removeAll, List.removeAll, List.filter_filter]
        refine List.filter_congr fun k _ => ?_
        rw [Bool.eq_iff_iff]
        simp [and_comm]
      simp [hkey, hrest, List.eraseDups_cons]

/-- Of several pairs with one key the last counts. -/
theorem get?_foldl_set (es : List (String × String)) (r : Record) (key : String) :
    (es.foldl (fun r e => r.set e.1 e.2) r).get? key =
      (es.reverse.lookup key).or (r.get? key) := by
  induction es generalizing r with
  | nil => simp
  | cons e es ih =>
    rw [List.foldl_cons, ih, List.reverse_cons, List.lookup_append, Option.or_assoc, get?_set,
      List.lookup_singleton]
    by_cases hkey : key = e.1 <;> simp [hkey]

/-- The keys of a record are those of its pairs, as they first appear. -/
theorem keys_ofList (es : List (String × String)) :
    (ofList es).keys = (es.map (·.1)).eraseDups := by
  rw [ofList, keys_foldl_set]
  show [] ++ ((es.map (·.1)).removeAll []).eraseDups = _
  rw [List.nil_append, List.removeAll_nil]

theorem get?_ofList (es : List (String × String)) (key : String) :
    (ofList es).get? key = es.reverse.lookup key := by
  rw [ofList, get?_foldl_set]
  simp [get?, empty]

theorem nodup_keys_foldl_set (es : List (String × String)) {r : Record} (h : r.keys.Nodup) :
    (es.foldl (fun r e => r.set e.1 e.2) r).keys.Nodup := by
  induction es generalizing r with
  | nil => exact h
  | cons e es ih => exact ih (nodup_keys_set h e.1 e.2)

theorem nodup_keys_ofList (es : List (String × String)) : (ofList es).keys.Nodup :=
  nodup_keys_foldl_set es List.nodup_nil

/-- With distinct keys, the slots are the keys with the texts found under them. -/
theorem entries_eq_map_text {r : Record} (h : r.keys.Nodup) :
    r.entries = r.keys.map fun key => (key, r.text key) := by
  obtain ⟨es⟩ := r
  show es = (es.map (·.1)).map fun key => (key, (es.lookup key).getD "")
  induction es with
  | nil => rfl
  | cons e es ih =>
    obtain ⟨hne, hes⟩ := List.nodup_cons.mp h
    have hrest : (es.map (·.1)).map (fun key => (key, ((e :: es).lookup key).getD "")) =
        (es.map (·.1)).map fun key => (key, (es.lookup key).getD "") := by
      refine List.map_congr_left fun key hkey => ?_
      have hk : key ≠ e.1 := by
        rintro rfl
        exact hne hkey
      rw [List.lookup_cons, beq_false_of_ne hk]
    rw [List.map_cons, List.map_cons, hrest, ← ih hes, List.lookup_cons_self]
    rfl

end Record

end Formwork
