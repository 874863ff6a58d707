import Formwork.CommandLine.Run
import Formwork.Proofs.CommandLine.Files

/-!
# Runs are all or nothing

A run goes on step by step, and some of its steps can fail. Those that print or write come last: what
is in front of them only reads. So a run that fails has printed and written nothing, and a run that
generates code has put it in one place.

* `World.does_bind_of_reads`, `World.does_bind_of_delivers` — steps that only read, in front of
  others.
* `World.does_perform` — a command comes to what `Command.compute` says, and delivers that.
* `Job.Generates` — the code that a job asks for. `Delivered` — where it is after the run.

**Main statement**: `run_all_or_nothing`.
-/

namespace Formwork.CommandLine

/-! ## Steps in a world -/

namespace World

/-- What can be read in a world. -/
def inputs (w : World) : Inputs := ⟨w.files.read, w.stdin⟩

/-- What a step comes to in a world, and the world after it. -/
def does {α : Type} (w : World) (x : ExceptT RunError (StateM World) α) :
    Except RunError α × World := x.run.run w

/-- A world after a delivery, and what it comes to. -/
def deliver (w : World) : Delivery → Except RunError Unit × World
  | .print text => (.ok (), { w with stdout := w.stdout ++ text })
  | .save path text =>
    match w.files.write? path text.toUTF8 with
    | some files => (.ok (), { w with files })
    | none => (.error (.writeOutput path), w)

/-- A world after what was computed has been delivered, if anything was. -/
def delivered (w : World) : Except RunError Delivery → Except RunError Unit × World
  | .ok d => w.deliver d
  | .error e => (.error e, w)

variable {α β : Type} {w : World} {x : ExceptT RunError (StateM World) α}
  {r : Except RunError α}

theorem does_bind (w : World) (x : ExceptT RunError (StateM World) α)
    (f : α → ExceptT RunError (StateM World) β) : w.does (x >>= f) =
      match w.does x with
      | (.ok a, after) => after.does (f a)
      | (.error e, after) => (.error e, after) := by
  show (match x.run w with | (a, after) => ExceptT.bindCont f a after) = match x.run w with
      | (.ok a, after) => after.does (f a)
      | (.error e, after) => (.error e, after)
  obtain ⟨r, after⟩ := x.run w
  cases r <;> rfl

/-- A step that only reads, and others that only read behind it. -/
theorem does_bind_of_reads {f : α → ExceptT RunError (StateM World) β}
    {g : α → Except RunError β} (hx : w.does x = (r, w)) (hf : ∀ a, w.does (f a) = (g a, w)) :
    w.does (x >>= f) = (r >>= g, w) := by
  rw [does_bind, hx]
  cases r with
  | error e => rfl
  | ok a => exact hf a

/-- A step that only reads, and a delivery behind it. -/
theorem does_bind_of_delivers {f : α → ExceptT RunError (StateM World) Unit}
    {g : α → Except RunError Delivery} (hx : w.does x = (r, w))
    (hf : ∀ a, w.does (f a) = w.delivered (g a)) :
    w.does (x >>= f) = w.delivered (r >>= g) := by
  rw [does_bind, hx]
  cases r with
  | error e => rfl
  | ok a => exact hf a

theorem does_orFail (w : World) (r : Except RunError α) : w.does (orFail r) = (r, w) := rfl

/-- A step of the world itself. -/
theorem does_modifyGet (w : World) (f : World → α × World) :
    w.does (liftM (modifyGet f : StateM World α)) = (.ok (f w).1, (f w).2) := rfl

theorem does_description (w : World) (path : Option String) :
    w.does (host.description path) = (readDescription w.inputs path, w) := by
  cases path with
  | none =>
    simp only [Host.description, host, does_bind, does_modifyGet, readDescription, inputs]
    cases String.fromUTF8? w.stdin <;> rfl
  | some path =>
    simp only [Host.description, host, does_bind, does_modifyGet, readDescription, inputs]
    cases (w.files.read path).text? <;> rfl

theorem does_settings (w : World) (path : Option String) :
    w.does (host.settings path) = (loadSettings w.inputs path, w) := by
  cases path with
  | none =>
    simp only [Host.settings, host, does_bind, does_modifyGet, loadSettings, inputs]
    cases w.files.read defaultSettingsPath <;> rfl
  | some path => rfl

theorem does_code (w : World) (a : Job) (t : Target) (o : Component.Options) :
    w.does (host.code a t o) = (generateCode w.inputs a t o, w) := by
  unfold Host.code generateCode
  cases a.template with
  | some key => rfl
  | none => exact does_bind_of_reads (does_description w a.input) fun text => rfl

theorem does_save (w : World) (path text : String) :
    w.does (host.save path text) = w.deliver (.save path text) := by
  simp only [Host.save, host, does_bind, does_modifyGet, deliver]
  cases w.files.write? path text.toUTF8 <;> rfl

/-- **A command reads first and delivers last**: it comes to what is computed from all that can be
read, and to the delivery of that. -/
theorem does_perform (w : World) (c : Command) :
    w.does (c.perform host) = w.delivered (c.compute w.inputs) := by
  cases c with
  | generate path a =>
    refine does_bind_of_delivers (does_settings w path) fun s => ?_
    refine does_bind_of_delivers (does_orFail w _) fun (t, o) => ?_
    refine does_bind_of_delivers (does_code w a t o) fun code => ?_
    cases a.destination t with
    | none => rfl
    | some path => exact does_save w path code
  | templates => rfl
  | check path =>
    refine does_bind_of_delivers (does_description w path) fun text => ?_
    exact does_bind_of_delivers (does_orFail w _) fun r => rfl

end World

/-! ## What a job asks for -/

/-- The code of a job under a target and options: that of its template, if it names one, and
otherwise that of the description it reads. -/
def Job.Generates (i : Inputs) (a : Job) (t : Target) (o : Component.Options)
    (code : String) : Prop :=
  match a.template with
  | some key => Template.generate key t o = .ok code
  | none => ∃ text, readDescription i a.input = .ok text ∧ Description.generate text t o = .ok code

/-- The one place where the code of a job is after a run in the file system `fs`: the place that the
user's path leads to, or that of a file named for the template, or the standard output. The file for
a template is an entry of the working folder, unless a link with that name leads elsewhere. -/
inductive Delivered (fs : FileSystem) (a : Job) (t : Target) (code : String) (after : World) : Prop
  | toOutput {path : String} {place : Place} :
      a.output = some path → fs.Wrote after.files path place code.toUTF8 → after.stdout = "" →
      Delivered fs a t code after
  | toTemplateFile {key name : String} {place : Place} :
      a.output = none → a.template = some key → name = key ++ "." ++ t.extension →
      '/' ∉ name.toList → (fs.link? (fs.home ++ [name]) = none → place = fs.home ++ [name]) →
      fs.Wrote after.files name place code.toUTF8 → after.stdout = "" →
      Delivered fs a t code after
  | printed :
      a.output = none → a.template = none → after.stdout = code ++ "\n" → after.files = fs →
      Delivered fs a t code after

variable {fs : FileSystem} {w : World} {i j : Inputs} {a : Job} {t : Target} {o : Component.Options}
  {code : String} {path : Option String}

theorem generateCode_eq_ok_iff : generateCode i a t o = .ok code ↔ a.Generates i t o code := by
  unfold generateCode Job.Generates
  cases a.template with
  | some key => exact mapError_eq_ok_iff
  | none => simp only [bind_eq_ok_iff, mapError_eq_ok_iff]

theorem Job.Generates.mem_gallery {key : String} (h : a.Generates i t o code)
    (hkey : a.template = some key) : ∃ template ∈ Template.gallery, template.key = key := by
  unfold Generates at h
  rw [hkey] at h
  obtain ⟨template, hfind, -⟩ := Template.generate_eq_ok_iff.mp h
  exact ⟨template, Template.mem_gallery_of_find? hfind⟩

/-! ## Computing -/

/-- What is delivered of some code. -/
def Job.delivery (a : Job) (t : Target) (code : String) : Delivery :=
  match a.destination t with
  | some path => .save path code
  | none => .print (code ++ "\n")

theorem Job.delivery_eq_save_iff {p text : String} :
    a.delivery t code = .save p text ↔ a.destination t = some p ∧ code = text := by
  unfold delivery
  cases a.destination t with
  | none => exact iff_of_false (by rintro ⟨⟩) (by rintro ⟨⟨⟩, -⟩)
  | some q => rw [Delivery.save.injEq, Option.some_inj]

theorem compute_generate_eq_ok_iff {x : Delivery} :
    Command.compute i (.generate path a) = .ok x ↔ ∃ s t o code, loadSettings i path = .ok s ∧
      a.resolve s = .ok (t, o) ∧ a.Generates i t o code ∧ a.delivery t code = x := by
  simp only [Command.compute, bind_eq_ok_iff, mapError_eq_ok_iff, generateCode_eq_ok_iff,
    Prod.exists, Job.delivery]
  constructor
  · rintro ⟨s, hs, t, o, ho, code, hcode, hx⟩
    refine ⟨s, t, o, code, hs, ho, hcode, ?_⟩
    cases hpath : a.destination t with
    | none => rw [hpath] at hx; exact Except.ok.inj hx
    | some p => rw [hpath] at hx; exact Except.ok.inj hx
  · rintro ⟨s, t, o, code, hs, ho, hcode, rfl⟩
    refine ⟨s, hs, t, o, ho, code, hcode, ?_⟩
    cases a.destination t <;> rfl

/-- With a template, no other file than that of the settings is read. -/
theorem compute_template_congr {key : String} (hkey : a.template = some key)
    (h : i.file (path.getD defaultSettingsPath) = j.file (path.getD defaultSettingsPath)) :
    Command.compute i (.generate path a) = Command.compute j (.generate path a) := by
  have hsettings : loadSettings i path = loadSettings j path := by
    cases path with
    | none =>
      rw [Option.getD_none] at h
      simp only [loadSettings, h]
    | some p =>
      rw [Option.getD_some] at h
      simp only [loadSettings, h]
  have hcode : ∀ t o, generateCode i a t o = generateCode j a t o := by
    intro t o
    simp only [generateCode, hkey]
  simp only [Command.compute, hsettings, hcode]

/-! ## Delivering -/

/-- The file for a template has a name of its own, which is no path. -/
theorem templateFile_name {template : Template} (h : template ∈ Template.gallery) (t : Target)
    {name : String} (hname : name = template.key ++ "." ++ t.extension) :
    '/' ∉ name.toList ∧ ¬(name = "" ∨ name = ".") ∧ name ≠ ".." := by
  have hnames : ∀ template ∈ Template.gallery, ∀ t ∈ [Target.html, .react],
      '/' ∉ (template.key ++ "." ++ t.extension).toList ∧
      ¬(template.key ++ "." ++ t.extension = "" ∨ template.key ++ "." ++ t.extension = ".") ∧
      template.key ++ "." ++ t.extension ≠ ".." := by decide
  rw [hname]
  exact hnames template h t (by cases t <;> decide)

/-- A delivery fails only if nothing can be written at its path, and then it leaves the world as it
was. -/
theorem deliver_eq_error {x : Delivery} {e : RunError} (h : (w.deliver x).1 = .error e) :
    ∃ path text, x = .save path text ∧ w.files.write? path text.toUTF8 = none ∧
      w.deliver x = (.error e, w) := by
  cases x with
  | print text => cases h
  | save path text =>
    rw [World.deliver] at h ⊢
    cases hwrite : w.files.write? path text.toUTF8 with
    | some files =>
      rw [hwrite] at h
      cases h
    | none =>
      rw [hwrite] at h
      cases h
      exact ⟨path, text, rfl, hwrite, rfl⟩

theorem deliver_save_eq_ok {path text : String} (h : (w.deliver (.save path text)).1 = .ok ()) :
    ∃ place, w.files.Wrote (w.deliver (.save path text)).2.files path place text.toUTF8 ∧
      (w.deliver (.save path text)).2.stdout = w.stdout := by
  rw [World.deliver] at h ⊢
  cases hwrite : w.files.write? path text.toUTF8 with
  | none =>
    rw [hwrite] at h
    cases h
  | some files =>
    obtain ⟨place, hwrote⟩ := FileSystem.wrote_of_write? hwrite
    exact ⟨place, hwrote, rfl⟩

/-- **A delivery that succeeds puts the code in one place.** -/
theorem delivered_of_deliver (hcode : a.Generates i t o code) (hstdout : w.stdout = "")
    (h : (w.deliver (a.delivery t code)).1 = .ok ()) :
    Delivered w.files a t code (w.deliver (a.delivery t code)).2 := by
  cases hout : a.output with
  | some path =>
    have hsave : a.delivery t code = .save path code :=
      Job.delivery_eq_save_iff.mpr ⟨by simp [Job.destination, hout], rfl⟩
    rw [hsave] at h ⊢
    obtain ⟨place, hwrote, hprinted⟩ := deliver_save_eq_ok h
    exact .toOutput hout hwrote (hprinted.trans hstdout)
  | none =>
    cases hkey : a.template with
    | none =>
      have hprint : a.delivery t code = .print (code ++ "\n") := by
        simp [Job.delivery, Job.destination, hout, hkey]
      rw [hprint]
      refine .printed hout hkey ?_ rfl
      rw [World.deliver, hstdout, String.empty_append]
    | some key =>
      have hsave : a.delivery t code = .save (key ++ "." ++ t.extension) code :=
        Job.delivery_eq_save_iff.mpr ⟨by simp [Job.destination, hout, hkey], rfl⟩
      rw [hsave] at h ⊢
      obtain ⟨place, hwrote, hprinted⟩ := deliver_save_eq_ok h
      obtain ⟨template, hmem, rfl⟩ := hcode.mem_gallery hkey
      obtain ⟨hname, hstay, hup⟩ := templateFile_name hmem t rfl
      exact .toTemplateFile hout hkey rfl hname
        (fun hlink => FileSystem.eq_of_locate_name hname hstay hup hlink hwrote.located) hwrote
        (hprinted.trans hstdout)

/-! ## A run -/

variable {stdin : ByteArray} {args : List String}

theorem run_of_request {c : Command} (h : Request.ofArgs args = .run c) :
    fs.run stdin args = Prod.map Ending.ofResult id
      ((World.start fs stdin).delivered (c.compute ⟨fs.read, stdin⟩)) := by
  have hrun : fs.run stdin args =
      Prod.map Ending.ofResult id ((World.start fs stdin).does (c.perform World.host)) := by
    rw [FileSystem.run, Host.run, h]
    rfl
  rw [hrun, World.does_perform]
  rfl

theorem Ending.status_ofResult_eq_zero_iff {r : Except RunError Unit} :
    (ofResult r).status = 0 ↔ r = .ok () := by
  cases r with
  | error e => exact iff_of_false (by rintro ⟨⟩) (by rintro ⟨⟩)
  | ok _ => exact iff_of_true rfl rfl

/-- A run that fails leaves the world as it was. -/
theorem run_of_status_ne (h : (fs.run stdin args).1.status ≠ 0) :
    (fs.run stdin args).2 = .start fs stdin := by
  cases hrequest : Request.ofArgs args with
  | misuse =>
    rw [FileSystem.run, Host.run, hrequest]
    rfl
  | help page =>
    rw [FileSystem.run, Host.run, hrequest] at h
    exact absurd rfl h
  | version =>
    rw [FileSystem.run, Host.run, hrequest] at h
    exact absurd rfl h
  | run c =>
    rw [run_of_request hrequest] at h ⊢
    cases hc : c.compute ⟨fs.read, stdin⟩ with
    | error e => rfl
    | ok x =>
      rw [hc] at h
      cases hx : ((World.start fs stdin).deliver x).1 with
      | ok _ => exact absurd (Ending.status_ofResult_eq_zero_iff.mpr hx) h
      | error e =>
        obtain ⟨-, -, -, -, hdeliver⟩ := deliver_eq_error hx
        rw [World.delivered, hdeliver]
        rfl

/-- **Runs are all or nothing**, for every file system, standard input and arguments. A run that
fails has printed nothing and leaves the file system as it was. A run that generates code and
succeeds has put the code of its job, under the settings and options that were resolved, in one
place; a template it names is one of the gallery. It fails with code at hand only if nothing can be
written at its destination, and the name of a template leads to no file that is read. -/
theorem run_all_or_nothing (fs : FileSystem) (stdin : ByteArray) (args : List String) :
    ((fs.run stdin args).1.status ≠ 0 →
      (fs.run stdin args).2.stdout = "" ∧ (fs.run stdin args).2.files = fs) ∧
    ∀ path a, Request.ofArgs args = .run (.generate path a) →
      ((fs.run stdin args).1.status = 0 → ∃ s t o code,
        loadSettings ⟨fs.read, stdin⟩ path = .ok s ∧ a.resolve s = .ok (t, o) ∧
        a.Generates ⟨fs.read, stdin⟩ t o code ∧ Delivered fs a t code (fs.run stdin args).2 ∧
        ∀ key, a.template = some key → ∃ template ∈ Template.gallery, template.key = key) ∧
      ((fs.run stdin args).1.status ≠ 0 → ∀ s t o code,
        loadSettings ⟨fs.read, stdin⟩ path = .ok s → a.resolve s = .ok (t, o) →
        a.Generates ⟨fs.read, stdin⟩ t o code →
        ∃ out, a.destination t = some out ∧ fs.write? out code.toUTF8 = none) ∧
      (∀ key i j, a.template = some key →
        i.file (path.getD defaultSettingsPath) = j.file (path.getD defaultSettingsPath) →
        Command.compute i (.generate path a) = Command.compute j (.generate path a)) := by
  refine ⟨fun h => ?_, fun path a hrequest => ⟨fun h => ?_, fun h s t o code hs ho hcode => ?_,
    fun key i j hkey hfile => compute_template_congr hkey hfile⟩⟩
  · rw [run_of_status_ne h]
    exact ⟨rfl, rfl⟩
  · rw [run_of_request hrequest] at h ⊢
    cases hx : Command.compute ⟨fs.read, stdin⟩ (.generate path a) with
    | error e =>
      rw [hx] at h
      cases h
    | ok x =>
      rw [hx] at h
      obtain ⟨s, t, o, code, hs, ho, hcode, rfl⟩ := compute_generate_eq_ok_iff.mp hx
      have hdelivered := delivered_of_deliver (w := .start fs stdin) hcode rfl
        (Ending.status_ofResult_eq_zero_iff.mp h)
      exact ⟨s, t, o, code, hs, ho, hcode, hdelivered, fun key hkey => hcode.mem_gallery hkey⟩
  · have hx := compute_generate_eq_ok_iff.mpr ⟨s, t, o, code, hs, ho, hcode, rfl⟩
    rw [run_of_request hrequest, hx] at h
    cases hdeliver : ((World.start fs stdin).deliver (a.delivery t code)).1 with
    | ok _ => exact absurd (Ending.status_ofResult_eq_zero_iff.mpr hdeliver) h
    | error e =>
      obtain ⟨out, text, hsave, hwrite, -⟩ := deliver_eq_error hdeliver
      obtain ⟨hout, rfl⟩ := Job.delivery_eq_save_iff.mp hsave
      exact ⟨out, hout, hwrite⟩

/-- Two runs that write to a path from the root; the system refuses to take the second file. -/
example : ["/srv/a.html", "/srv/b.html"].map (fun path =>
    (FileSystem.run ⟨[(["srv"], .folder)], [], fun _ => true, fun _ => true,
        fun place _ => place != ["srv", "b.html"]⟩ .empty
      ["generate", "-f", "html", "-t", "login", "-o", path]).1) =
    [.success, .failure (.writeOutput "/srv/b.html")] := by decide +kernel

end Formwork.CommandLine
