import ModuleDocs.Batch
import ModuleDocs.Output
import ModuleDocs.Session

/-!
# Build

A build finds the module files, documents them, reports on them and writes the documentation.  What
lies in the output directory is never taken for a module, so that a build does not read back what an
earlier one wrote.
-/

namespace ModuleDocs.Build

/-- What is asked of a build. -/
structure Options where
  /-- Files and directories; none for the working directory. -/
  paths : List String := []
  overrides : Settings.Overrides := {}
  /-- Nothing is written. -/
  dryRun : Bool := false
deriving DecidableEq, Repr

/-! ### Module files -/

/-- The path leads to a place below a directory, or to the directory itself. -/
def isInside (fs : Files) (directory : Option Place) (path : String) : Bool :=
  match directory, fs.entry? path with
  | some dir, some (place, _) => dir.isPrefixOf place
  | _, _ => false

/-- The place of the output directory, if it is there. -/
def outputPlace? (fs : Files) (s : Settings) : Option Place :=
  (fs.entry? s.output.dir).map Prod.fst

/-- The module files that a path stands for.  A missing path is left out unless failures end the
build. -/
def expand (h : Host) (s : Settings) (path : String) : Except Failure (List ModuleFile) :=
  if h.files.isDirectory path then
    let output := outputPlace? h.files s
    .ok ((Scan.modules h path s.analysis).filter fun m => !isInside h.files output m.path)
  else if h.files.isFile path then .ok [.standalone path]
  else
    match s.assembly.failurePolicy with
    | .abort => .error (.acquisition path "No such file or directory")
    | .isolate => .ok []

/-- The paths that a build starts from. -/
def roots (paths : List String) : List String := if paths.isEmpty then ["."] else paths

/-- The module files of a build. -/
def collect (h : Host) (s : Settings) (paths : List String) : Except Failure (List ModuleFile) :=
  ((roots paths).mapM (expand h s)).map List.flatten

/-- What is reported about missing paths. -/
def missingEvents (h : Host) (paths : List String) : List Event :=
  (roots paths).filterMap fun path =>
    if h.files.isDirectory path || h.files.isFile path then none
    else some (.warn ("Skipping missing path: " ++ path))

/-! ### The report for the user -/

/-- The line of a module. -/
def moduleLine (r : ModuleDoc) : String :=
  let note := if r.isDeprecated then "deprecated" else if r.isEmpty then "empty" else ""
  "  " ++ r.path ++ "  " ++ toString r.classes.length ++ " classes, "
    ++ toString r.mixins.length ++ " mixins, " ++ toString r.functions.length ++ " functions, "
    ++ toString r.vars.length ++ " variables " ++ note ++ "\n"

/-- The report on a batch. -/
def reportText (r : Report) : String :=
  Notice.heading "Modules" ++ String.join (r.modules.map moduleLine)
    ++ (if r.failures.isEmpty then "" else Notice.heading "Failures")

/-- The lines about modules that could not be read. -/
def failureLines (r : Report) : List String :=
  r.failures.map fun f => Notice.error (f.path ++ ": " ++ f.error)

/-! ### The build -/

/-- Documents module files as the settings say. -/
def document (run : Runner) (fs : Files) (s : AssemblySettings) (picks : List Nat)
    (files : List ModuleFile) : Except Failure Report :=
  (Assembler.ofSettings s).bind fun a =>
    Batch.run a (fun path text => (Source.ofSettings s).comments run path text) fs s.failurePolicy
      s.concurrency picks files

/-- Writes the documentation of a batch, or does not in a dry run. -/
def write (fs : Files) (s : OutputSettings) (dryRun : Bool) (report : Report) : Session :=
  if dryRun then { files := fs, output := Notice.info "Dry run: nothing written" }
  else
    let w := Output.writeAll s.format s.dir fs report.modules
    match w.result with
    | .error f => { files := w.files, failure := some f, events := w.events }
    | .ok index =>
      let wrote := Notice.success ("Wrote " ++ toString index.length ++ " modules to " ++ s.dir)
      let skipped := if report.isClean then ""
        else Notice.warning (toString report.failures.length ++ " modules skipped")
      { files := w.files, output := wrote ++ skipped, events := w.events }

/-- A build with given settings. -/
def withSettings (run : Runner) (h : Host) (o : Options) (s : Settings) (picks : List Nat) :
    Session :=
  match collect h s o.paths with
  | .error f => { files := h.files, failure := some f }
  | .ok [] =>
    { files := h.files
      output := Notice.warning "No modules found"
      events := missingEvents h o.paths }
  | .ok files =>
    let found := Notice.info ("Found " ++ toString files.length ++ " modules ("
      ++ s.assembly.resolution.name ++ " owner resolution)")
    let missing := missingEvents h o.paths
    match document run h.files s.assembly picks files with
    | .error f => { files := h.files, output := found, failure := some f, events := missing }
    | .ok report =>
      let written := write h.files s.output o.dryRun report
      { written with
        output := found ++ reportText report ++ written.output
        complaints := failureLines report
        events := missing ++ Batch.skipEvents report ++ written.events }

/-- The settings of a build: those in force in the working directory, with those made for this build
laid over them. -/
def settings (h : Host) (o : Options) : Except Failure Settings :=
  (Settings.load h ".").bind (·.override o.overrides)

/-- The picks of a build whose commands take the times of a clock. -/
def picks (clock : Clock) (h : Host) (o : Options) : List Nat :=
  match settings h o with
  | .error _ => []
  | .ok s =>
    match collect h s o.paths with
    | .error _ => []
    | .ok files =>
      Batch.picksOf s.assembly.concurrency
        (files.map (Batch.time (Source.ofSettings s.assembly) clock h.files))

/-- A build in the working directory. -/
def build (run : Runner) (h : Host) (o : Options) (picks : List Nat) : Session :=
  match settings h o with
  | .error f => { files := h.files, failure := some f, events := Settings.loadEvents h "." }
  | .ok s =>
    let session := withSettings run h o s picks
    { session with events := Settings.loadEvents h "." ++ session.events }

end ModuleDocs.Build
