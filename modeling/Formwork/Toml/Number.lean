import Formwork.Toml.Text

/-!
# TOML numbers and moments

Integers of 64 bits in four bases, numbers with a fraction or an exponent, and dates and times. An
underscore may stand between two digits.

* `integer?`, `float?`, `moment?` — the readers.
-/

namespace Formwork.Toml

/-! ## Digits -/

def isDigit (c : Char) : Bool := (hexDigit? c).any (· < 10)

/-- Digits of a base up to sixteen, with single underscores between them, and what is left. -/
def digits (base : Nat) : List Char → List Nat × List Char
  | [] => ([], [])
  | '_' :: c :: cs =>
    match (hexDigit? c).filter (· < base) with
    | some d => let r := digits base cs; (d :: r.1, r.2)
    | none => ([], '_' :: c :: cs)
  | c :: cs =>
    match (hexDigit? c).filter (· < base) with
    | some d => let r := digits base cs; (d :: r.1, r.2)
    | none => ([], c :: cs)

/-- At least one digit of a base. -/
def digits? (base : Nat) (cs : List Char) : Option (List Nat × List Char) :=
  match cs with
  | c :: _ => if (hexDigit? c).any (· < base) then some (digits base cs) else none
  | [] => none

/-- The number that digits of a base spell. -/
def ofDigits (base : Nat) (ds : List Nat) : Nat := ds.foldl (fun n d => base * n + d) 0

/-- The digits of a whole number without superfluous zeros. -/
def wholeDigits? : List Char → Option (List Nat × List Char)
  | '0' :: cs => some ([0], cs)
  | cs => digits? 10 cs

/-- A sign, if there is one; `true` for minus. -/
def sign : List Char → Option Bool × List Char
  | '+' :: cs => (some false, cs)
  | '-' :: cs => (some true, cs)
  | cs => (none, cs)

/-! ## Integers -/

/-- The integer is one of 64 bits. -/
def inRange (n : Int) : Bool := -0x8000000000000000 ≤ n && n < 0x8000000000000000

/-- An integer with a base in front. -/
def prefixed? (base : Nat) (cs : List Char) : Option (Int × List Char) := do
  let (ds, rest) ← digits? base cs
  let n : Int := ofDigits base ds
  if inRange n then some (n, rest) else none

/-- An integer. -/
def integer? : List Char → Option (Int × List Char)
  | '0' :: 'x' :: cs => prefixed? 16 cs
  | '0' :: 'o' :: cs => prefixed? 8 cs
  | '0' :: 'b' :: cs => prefixed? 2 cs
  | cs => do
    let (minus, cs) := sign cs
    let (ds, rest) ← wholeDigits? cs
    let n : Int := ofDigits 10 ds
    let n := if minus = some true then -n else n
    if inRange n then some (n, rest) else none

/-! ## Floating-point numbers -/

/-- The least number that is not rounded to a double: half a unit above the largest one. -/
def doubleLimit : Nat := (Nat.pow 2 54 - 1) * Nat.pow 2 970

/-- The decimal number `mantissa * 10 ^ exponent` is beyond the largest double, and not rounded
back to it. The estimate by the number of digits keeps the powers small. -/
def overflows (mantissa : List Nat) (exponent : Int) : Bool :=
  let m := ofDigits 10 mantissa
  let size : Int := (mantissa.dropWhile (· == 0)).length + exponent
  if m = 0 then false
  else if 400 < size then true
  else if size < 300 then false
  else if 0 ≤ exponent then doubleLimit ≤ m * Nat.pow 10 exponent.toNat
  else doubleLimit * Nat.pow 10 (-exponent).toNat ≤ m

/-- An exponent, if there is one. -/
def exponent? : List Char → Option (Int × List Char)
  | c :: cs =>
    if c = 'e' ∨ c = 'E' then do
      let (minus, cs) := sign cs
      let (ds, rest) ← digits? 10 cs
      let n : Int := ofDigits 10 ds
      return (if minus = some true then -n else n, rest)
    else none
  | [] => none

/-- What follows a number with a fraction or an exponent. A number that is too large is refused
unless it is negative. -/
def decimal? (cs : List Char) : Option (List Char) := do
  let (minus, cs) := sign cs
  let (whole, cs) ← wholeDigits? cs
  let (mantissa, exponent, rest) ←
    match cs with
    | '.' :: cs => do
      let (fraction, cs) ← digits? 10 cs
      let (e, rest) := (exponent? cs).getD (0, cs)
      some (whole ++ fraction, e - fraction.length, rest)
    | cs => do
      let (e, rest) ← exponent? cs
      some (whole, e, rest)
  if minus != some true && overflows mantissa exponent then none else some rest

/-- What follows `inf` or `nan`. -/
def special? (cs : List Char) : Option (List Char) :=
  match (sign cs).2 with
  | 'i' :: 'n' :: 'f' :: rest => some rest
  | 'n' :: 'a' :: 'n' :: rest => some rest
  | _ => none

/-- What follows a number that is no integer. -/
def float? (cs : List Char) : Option (List Char) := (decimal? cs).or (special? cs)

/-! ## Dates and times -/

/-- A number of exactly `n` digits, added to the number `acc` before them. -/
def fixed? (acc : Nat) : Nat → List Char → Option (Nat × List Char)
  | 0, cs => some (acc, cs)
  | n + 1, c :: cs =>
    match (hexDigit? c).filter (· < 10) with
    | some d => fixed? (10 * acc + d) n cs
    | none => none
  | _ + 1, [] => none

/-- A number of two digits up to a limit. -/
def upTo? (limit : Nat) (cs : List Char) : Option (Nat × List Char) :=
  (fixed? 0 2 cs).filter (·.1 ≤ limit)

/-- What follows a character. -/
def after? (c : Char) : List Char → Option (List Char)
  | d :: cs => if d = c then some cs else none
  | [] => none

def isLeapYear (y : Nat) : Bool := y % 4 == 0 && (y % 100 != 0 || y % 400 == 0)

def daysIn (year month : Nat) : Nat :=
  if month = 2 then if isLeapYear year then 29 else 28
  else if [4, 6, 9, 11].contains month then 30
  else 31

/-- What follows a date. -/
def date? (cs : List Char) : Option (List Char) := do
  let (y, cs) ← fixed? 0 4 cs
  let (m, cs) ← upTo? 12 (← after? '-' cs)
  let (d, cs) ← upTo? (daysIn y m) (← after? '-' cs)
  if m = 0 ∨ d = 0 then none else some cs

/-- What follows a fraction of a second, if there is one. -/
def skipFraction : List Char → List Char
  | '.' :: c :: cs => if isDigit c then cs.dropWhile isDigit else '.' :: c :: cs
  | cs => cs

/-- What follows a time of the day; the second may be a leap second. -/
def time? (cs : List Char) : Option (List Char) := do
  let (_, cs) ← upTo? 23 cs
  let (_, cs) ← upTo? 59 (← after? ':' cs)
  let (_, cs) ← upTo? 60 (← after? ':' cs)
  return skipFraction cs

/-- What follows an offset from the world's time. -/
def offset? : List Char → Option (List Char)
  | 'Z' :: cs => some cs
  | 'z' :: cs => some cs
  | cs => do
    let (minus, cs) := sign cs
    let _ ← minus
    let (_, cs) ← upTo? 23 cs
    let (_, cs) ← upTo? 59 (← after? ':' cs)
    return cs

/-- What follows a time behind a date. -/
def timeOfDate? : List Char → Option (List Char)
  | c :: cs =>
    if c = 'T' ∨ c = 't' ∨ c = ' ' then do
      let rest ← time? cs
      return (offset? rest).getD rest
    else none
  | [] => none

/-- What follows a date, a time or both. -/
def moment? (cs : List Char) : Option (List Char) :=
  match date? cs with
  | some rest => some ((timeOfDate? rest).getD rest)
  | none => time? cs

end Formwork.Toml
