import Formwork.CommandLine.Arguments

/-!
# Commands

What the command line asks for, and the reading of arguments as a command.

The options `--config`, `--verbose` and `--quiet` may stand before the subcommand or after it; of
two configurations the later counts. Contradictions are looked for on each level by itself.
-/

namespace Formwork.CommandLine

/-- What code is to be generated, and where it goes. -/
structure Job where
  /-- The name of a target. -/
  target : Option String
  /-- The path of a form description. -/
  input : Option String
  /-- The path that the code is written to. -/
  output : Option String
  /-- The key of a template that takes the place of a description. -/
  template : Option String
  componentName : Option String
  strict : Bool
  deriving Repr, DecidableEq

/-- A command. -/
inductive Command
  /-- Generates code, under the settings in a file. -/
  | generate (settings : Option String) (args : Job)
  /-- Lists the templates. -/
  | templates
  /-- Reports on a form description. -/
  | check (input : Option String)
  deriving Repr, DecidableEq

/-- The texts of help, one for each level. -/
inductive HelpPage
  | main
  | generate
  | templates
  | check
  | help
  deriving Repr, DecidableEq

/-- What the arguments ask for. -/
inductive Request
  | run (c : Command)
  | help (page : HelpPage)
  | version
  /-- The arguments are none of the program's. -/
  | misuse
  deriving Repr, DecidableEq

/-! ## The options of the levels -/

/-- The options that every level knows. -/
def sharedOpts : List Opt := [
  ⟨"config", some 'c', .path⟩, ⟨"verbose", some 'v', .count⟩, ⟨"quiet", some 'q', .flag⟩,
  ⟨"help", some 'h', .help⟩]

def mainOpts : List Opt := sharedOpts ++ [⟨"version", some 'V', .version⟩]

def generateOpts : List Opt := sharedOpts ++ [
  ⟨"format", some 'f', .text⟩, ⟨"input", some 'i', .path⟩, ⟨"output", some 'o', .path⟩,
  ⟨"template", some 't', .text⟩, ⟨"component-name", some 'n', .text⟩, ⟨"strict", none, .flag⟩]

def checkOpts : List Opt := sharedOpts ++ [⟨"input", some 'i', .path⟩]

/-- The subcommands, with their help. -/
def subcommands : List (String × HelpPage) :=
  [("generate", .generate), ("templates", .templates), ("check", .check), ("help", .help)]

/-! ## Reading -/

/-- Two options that exclude each other are not both set. -/
def compatible (l : Level) (a b : String) : Bool := !(l.has a && l.has b)

/-- A level that was read to its end and is free of contradictions. -/
def finish (l : Level) (excluded : List (String × String)) : Except Stop Level := do
  let l ← l.settle
  if excluded.all fun p => compatible l p.1 p.2 then .ok l else .error .misuse

/-- Options that exclude each other on every level. -/
def sharedExclusions : List (String × String) := [("quiet", "verbose")]

/-- Reads the arguments of a subcommand. -/
def readSubcommand (opts : List Opt) (excluded : List (String × String)) (args : List String) :
    Except Stop Level := do
  let (l, _) ← readLevel opts [] .start args
  finish l (sharedExclusions ++ excluded)

/-- What ends the reading of a level, as a request. -/
def Stop.toRequest (page : HelpPage) : Stop → Request
  | .misuse => .misuse
  | .help => .help page
  | .version => .version

/-- The request of a level whose reading succeeded or stopped. -/
def requestOf (page : HelpPage) (r : Except Stop Level) (k : Level → Request) : Request :=
  match r with
  | .ok l => k l
  | .error s => s.toRequest page

/-- The page that the words after `help` ask for. -/
def helpRequest : List String → Request
  | [] => .help .main
  | [name] =>
    match subcommands.lookup name with
    | some page => .help page
    | none => .misuse
  | _ => .misuse

/-- The command of the subcommand `generate`. -/
def generateCommand (main l : Level) : Command :=
  .generate ((l.value? "config").or (main.value? "config"))
    { target := l.value? "format"
      input := l.value? "input"
      output := l.value? "output"
      template := l.value? "template"
      componentName := l.value? "component-name"
      strict := l.has "strict" }

/-- The request of a subcommand with its arguments. What was read before it, in `main`, counts once
the subcommand has been read. -/
def subcommandRequest (main : Level) (name : String) (args : List String) : Request :=
  let under (page : HelpPage) (r : Except Stop Level) (k : Level → Level → Command) : Request :=
    requestOf page r fun l =>
      requestOf .main (finish main sharedExclusions) fun main => .run (k main l)
  match name with
  | "generate" =>
    under .generate (readSubcommand generateOpts [("input", "template")] args) generateCommand
  | "templates" => under .templates (readSubcommand sharedOpts [] args) fun _ _ => .templates
  | "check" =>
    under .check (readSubcommand checkOpts [] args) fun _ l => .check (l.value? "input")
  | _ => helpRequest args

/-- The request of the program's arguments. -/
def Request.ofArgs (args : List String) : Request :=
  match readLevel mainOpts (subcommands.map (·.1)) .start args with
  | .error s => s.toRequest .main
  | .ok (main, some (name, rest)) => subcommandRequest main name rest
  | .ok (_, none) => .misuse

end Formwork.CommandLine
