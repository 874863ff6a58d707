import Formwork.CommandLine.FileSystem
import Formwork.CommandLine.Help
import Formwork.Generate
import Formwork.Report
import Formwork.Settings
import Formwork.Text.Quoted

/-!
# Running a command

A run reads, prints and writes on a host, step by step, and ends at the first step that fails.

* `Command.perform` — the steps of a command on a host.
* `Command.compute` — what a command delivers, given what can be read: a text to print, or one file.
* `World` — a file system with the standard input and output. `FileSystem.run` is a run there.
-/

namespace Formwork.CommandLine

/-- What a command can read. -/
structure Inputs where
  file : String → Reading
  /-- The bytes of the standard input. -/
  stdin : ByteArray

/-- Why a run fails. -/
inductive RunError
  | readSettings (path : String)
  | settings (e : SettingsError)
  | target (e : UnknownTarget)
  | readInput (path : String)
  /-- The standard input is no text. -/
  | readStdin
  | generate (e : GenerateError)
  | writeOutput (path : String)
  deriving Repr, DecidableEq

def RunError.message : RunError → String
  | readSettings path => "Failed to read config: " ++ Text.quoted path
  | settings e => e.message
  | target e => e.message
  | readInput path => "Failed to read input: " ++ Text.quoted path
  | readStdin => "Failed to read stdin"
  | generate e => e.message
  | writeOutput path => "Failed to write output: " ++ Text.quoted path

/-- What a command delivers. -/
inductive Delivery
  /-- Prints a text. -/
  | print (text : String)
  /-- Writes a text to a file and prints nothing. -/
  | save (path text : String)
  deriving Repr, DecidableEq

/-! ## Reading -/

/-- The text of some bytes that were read. -/
def Reading.text? : Reading → Option String
  | content bytes => String.fromUTF8? bytes
  | _ => none

/-- The path where settings are looked for if the user names none. -/
def defaultSettingsPath : String := "formify.toml"

/-- The settings in a file. -/
def settingsAt (path : String) (r : Reading) : Except RunError Settings :=
  match r.text? with
  | none => .error (.readSettings path)
  | some text => (Settings.ofToml text).mapError .settings

/-- The settings of a run. Only a file that the user names has to be there. -/
def loadSettings (i : Inputs) : Option String → Except RunError Settings
  | some path => settingsAt path (i.file path)
  | none =>
    match i.file defaultSettingsPath with
    | .absent => .ok .unset
    | r => settingsAt defaultSettingsPath r

/-- The form description in a file or on the standard input. -/
def readDescription (i : Inputs) : Option String → Except RunError String
  | some path =>
    match (i.file path).text? with
    | some text => .ok text
    | none => .error (.readInput path)
  | none =>
    match String.fromUTF8? i.stdin with
    | some text => .ok text
    | none => .error .readStdin

/-! ## Options -/

namespace Job

/-- The target of a run: what the user names, or what the settings say. -/
def target? (a : Job) (s : Settings) : Except UnknownTarget Target :=
  match a.target with
  | some name => Target.ofName name
  | none => .ok (s.target.getD .standard)

/-- The options of a run: the user's choices over the settings. Strictness can only be added. -/
def options (a : Job) (s : Settings) : Component.Options :=
  { s.options with
    name := a.componentName.getD s.options.name
    strictKeys := a.strict || s.options.strictKeys }

/-- The target and the options of a run. -/
def resolve (a : Job) (s : Settings) : Except UnknownTarget (Target × Component.Options) :=
  (a.target? s).map fun t => (t, a.options s)

/-- Where the code goes: to the path that the user names, to a file named for the template, or, if
there is neither, to the standard output. -/
def destination (a : Job) (t : Target) : Option String :=
  a.output.or (a.template.map fun key => key ++ "." ++ t.extension)

end Job

/-! ## Computing -/

/-- The code that is asked for. -/
def generateCode (i : Inputs) (a : Job) (t : Target) (o : Component.Options) :
    Except RunError String :=
  match a.template with
  | some key => (Template.generate key t o).mapError .generate
  | none => do
    let text ← readDescription i a.input
    (Description.generate text t o).mapError .generate

/-- What a command delivers. -/
def Command.compute (i : Inputs) : Command → Except RunError Delivery
  | .generate path a => do
    let s ← loadSettings i path
    let (t, o) ← (a.resolve s).mapError .target
    let code ← generateCode i a t o
    match a.destination t with
    | some path => return .save path code
    | none => return .print (code ++ "\n")
  | .templates => .ok (.print (Template.listing Template.gallery))
  | .check path => do
    let text ← readDescription i path
    let r ← (Report.ofText text).mapError fun e => .generate (.line e)
    return .print (r.render ++ "\n")

/-! ## Performing -/

/-- What a run can do where it runs. -/
structure Host (m : Type → Type) where
  /-- Looks at what there is at a path. -/
  read : String → m Reading
  /-- Reads the standard input to its end. -/
  stdin : m ByteArray
  /-- Prints on the standard output. -/
  print : String → m Unit
  /-- Writes a text to the file at a path, if it can, and says whether it could. -/
  write : String → String → m Bool

section

variable {m : Type → Type} [Monad m] (host : Host m)

/-- Goes on with a result, or fails with an error. -/
def orFail {α : Type} (x : Except RunError α) : ExceptT RunError m α := ExceptT.mk (pure x)

namespace Host

/-- Reads the settings of a run. -/
def settings : Option String → ExceptT RunError m Settings
  | some path => do orFail (settingsAt path (← host.read path))
  | none => do
    match ← host.read defaultSettingsPath with
    | .absent => return .unset
    | r => orFail (settingsAt defaultSettingsPath r)

/-- Reads a form description. -/
def description : Option String → ExceptT RunError m String
  | some path => do
    match (← host.read path).text? with
    | some text => return text
    | none => throw (.readInput path)
  | none => do
    match String.fromUTF8? (← host.stdin) with
    | some text => return text
    | none => throw .readStdin

/-- Generates the code that is asked for. -/
def code (a : Job) (t : Target) (o : Component.Options) : ExceptT RunError m String :=
  match a.template with
  | some key => orFail ((Template.generate key t o).mapError .generate)
  | none => do
    let text ← host.description a.input
    orFail ((Description.generate text t o).mapError .generate)

/-- Writes a text to a file, or fails. -/
def save (path text : String) : ExceptT RunError m Unit := do
  if ← host.write path text then return () else throw (.writeOutput path)

end Host

/-- Carries a command out. -/
def Command.perform : Command → ExceptT RunError m Unit
  | .generate path a => do
    let s ← host.settings path
    let (t, o) ← orFail ((a.resolve s).mapError .target)
    let code ← host.code a t o
    match a.destination t with
    | some path => host.save path code
    | none => host.print (code ++ "\n")
  | .templates => host.print (Template.listing Template.gallery)
  | .check path => do
    let text ← host.description path
    let r ← orFail ((Report.ofText text).mapError fun e => .generate (.line e))
    host.print (r.render ++ "\n")

end

/-! ## A run -/

/-- How a run ends. -/
inductive Ending
  | success
  | failure (e : RunError)
  /-- The arguments are none of the program's. -/
  | misuse
  deriving Repr, DecidableEq

namespace Ending

/-- The exit status. -/
def status : Ending → Nat
  | success => 0
  | failure _ => 1
  | misuse => 2

/-- The end of a run that came to a result. -/
def ofResult : Except RunError Unit → Ending
  | .ok () => success
  | .error e => failure e

/-- The complaint of a run that failed. -/
def error? : Ending → Option String
  | failure e => some e.message
  | _ => none

end Ending

/-- A run with some arguments. -/
def Host.run {m : Type → Type} [Monad m] (host : Host m) (args : List String) : m Ending :=
  match Request.ofArgs args with
  | .misuse => return .misuse
  | .help page => do
    host.print page.text
    return .success
  | .version => do
    host.print versionText
    return .success
  | .run c => return .ofResult (← (c.perform host).run)

/-! ## In a file system -/

/-- What a run sees and changes. -/
structure World where
  files : FileSystem
  /-- The bytes of the standard input. -/
  stdin : ByteArray
  /-- What has been printed. -/
  stdout : String

/-- A world as a host. -/
def World.host : Host (StateM World) where
  read path := modifyGet fun w => (w.files.read path, w)
  stdin := modifyGet fun w => (w.stdin, w)
  print text := modify fun w => { w with stdout := w.stdout ++ text }
  write path text := modifyGet fun w =>
    match w.files.write? path text.toUTF8 with
    | some files => (true, { w with files })
    | none => (false, w)

/-- The world of a run that has just begun. -/
def World.start (fs : FileSystem) (stdin : ByteArray) : World := ⟨fs, stdin, ""⟩

/-- A run in a file system: how it ends, and the world after it. -/
def FileSystem.run (fs : FileSystem) (stdin : ByteArray) (args : List String) : Ending × World :=
  (World.host.run args).run (.start fs stdin)

end Formwork.CommandLine
