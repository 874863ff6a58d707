/-!
# Command-line arguments

The arguments of a program with subcommands, against the options that each level knows.

## How arguments are read

* `--name value`, `--name=value`, `-n value`, `-nvalue` and `-n=value` set an option; several short
  flags may share a dash. Names are not abbreviated.
* A value of its own argument may not begin with a dash, unless it is a dash. It counts when the
  next option or the end of the level comes, not before.
* No option or flag is set twice on one level, but for a flag that counts.
* After `--` there are only operands, and no level takes any.
* A request for help or for the version ends the reading as soon as it counts.

`readLevel` reads one level and stops at a subcommand.
-/

namespace Formwork.CommandLine

/-- What an option does. -/
inductive Effect
  /-- Takes a text. -/
  | text
  /-- Takes a path, which is not empty. -/
  | path
  /-- Is set or not. -/
  | flag
  /-- Counts how often it is set. -/
  | count
  /-- Asks for help. -/
  | help
  /-- Asks for the version. -/
  | version
  deriving Repr, DecidableEq

/-- An option that a level knows. -/
structure Opt where
  long : String
  short : Option Char
  effect : Effect
  deriving Repr, DecidableEq

def Opt.takesValue (o : Opt) : Bool := o.effect == .text || o.effect == .path

/-- Why the reading ended before the arguments did. -/
inductive Stop
  /-- The arguments are none of the program's. -/
  | misuse
  | help
  | version
  deriving Repr, DecidableEq

/-- What was read on a level. -/
structure Level where
  /-- The names of the options that were set, each with its value. -/
  found : List (String × String)
  /-- An option that does not count yet, with its value if that has come. -/
  pending : Option (Opt × Option String)
  deriving Repr, DecidableEq

namespace Level

def start : Level := ⟨[], none⟩

/-- Whether an option was set. -/
def has (l : Level) (name : String) : Bool := l.found.any (·.1 == name)

/-- The value of an option. -/
def value? (l : Level) (name : String) : Option String := l.found.lookup name

/-- Sets an option. -/
def record (l : Level) (o : Opt) (value : String) : Except Stop Level :=
  if l.has o.long && o.effect != .count then .error .misuse
  else if o.effect = .path ∧ value.isEmpty then .error .misuse
  else .ok { l with found := l.found ++ [(o.long, value)] }

/-- Lets the pending option count. -/
def settle (l : Level) : Except Stop Level :=
  match l.pending with
  | none => .ok l
  | some (_, none) => .error .misuse
  | some (o, some v) => { l with pending := none }.record o v

/-- Lets an option without a value take effect. -/
def applyFlag (l : Level) (o : Opt) : Except Stop Level := do
  let l ← l.settle
  match o.effect with
  | .help => .error .help
  | .version => .error .version
  | _ => l.record o ""

/-- Sets an option whose value is in the same argument, or waits for it. -/
def applyValue (l : Level) (o : Opt) (attached : Option String) : Except Stop Level := do
  let l ← l.settle
  match attached with
  | some v => l.record o v
  | none => .ok { l with pending := some (o, none) }

/-- Whether the next argument may be the value of an option. -/
def awaits (l : Level) : Bool :=
  match l.pending with
  | some (_, none) => true
  | _ => false

end Level

/-! ## One argument -/

/-- The part of an argument before an equals sign, and the part after it. -/
def splitEquals (cs : List Char) : String × Option String :=
  let name := String.ofList (cs.takeWhile (· != '='))
  match cs.dropWhile (· != '=') with
  | [] => (name, none)
  | _ :: v => (name, some (String.ofList v))

/-- Reads an argument behind its two dashes. -/
def readLong (opts : List Opt) (l : Level) (cs : List Char) : Except Stop Level :=
  let (name, value) := splitEquals cs
  match opts.find? (·.long == name) with
  | none => .error .misuse
  | some o =>
    if o.takesValue then l.applyValue o value
    else if value.isSome then .error .misuse
    else l.applyFlag o

/-- The value in the rest of an argument behind a short option. -/
def attachedValue : List Char → Option String
  | [] => none
  | '=' :: cs => some (String.ofList cs)
  | cs => some (String.ofList cs)

/-- Reads an argument behind its dash. -/
def readShort (opts : List Opt) (l : Level) : List Char → Except Stop Level
  | [] => .ok l
  | c :: cs =>
    match opts.find? (·.short == some c) with
    | none => .error .misuse
    | some o =>
      if o.takesValue then l.applyValue o (attachedValue cs)
      else do readShort opts (← l.applyFlag o) cs

/-- Reads an argument that is no subcommand and not the end of the options. -/
def readArgument (opts : List Opt) (l : Level) (arg : String) : Except Stop Level :=
  match arg.toList with
  | '-' :: '-' :: cs => readLong opts l cs
  | '-' :: c :: cs => readShort opts l (c :: cs)
  | _ =>
    match l.pending with
    | some (o, none) => .ok { l with pending := some (o, some arg) }
    | _ => .error .misuse

/-! ## A level -/

/-- Reads the arguments of a level, up to a subcommand and those that follow it. -/
def readLevel (opts : List Opt) (subcommands : List String) (l : Level) :
    List String → Except Stop (Level × Option (String × List String))
  | [] => .ok (l, none)
  | arg :: args =>
    if !l.awaits && subcommands.contains arg then .ok (l, some (arg, args))
    else if arg = "--" then
      if args.isEmpty then .ok (l, none) else .error .misuse
    else do readLevel opts subcommands (← readArgument opts l arg) args

end Formwork.CommandLine
