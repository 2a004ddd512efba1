import ModuleDocs.CommandLine.Action
import ModuleDocs.Json.Printer
import ModuleDocs.Toml.Printer

/-!
# CommandLine

Carries out a command line: the machine's state and the words in, a session out.
-/

namespace ModuleDocs.CommandLine

/-! ### Actions -/

/-- Shows the user's settings file. -/
def showGlobal (h : Host) : Session :=
  let path := Settings.globalFile h
  if h.files.exist path then
    match h.files.readText path with
    | .error fault => { files := h.files, failure := some (Output.ofFault fault) }
    | .ok text =>
      { files := h.files, output := "# Global Config: " ++ path ++ "\n\n" ++ text ++ "\n" }
  else
    { files := h.files
      output := "No global config found.\nRun 'docfold config init --global' to create one.\n" }

/-- The settings as the user sees them. -/
def settingsText (asJson : Bool) (s : Settings) : String :=
  match asJson, s.toValue with
  | true, v => Json.print v
  | false, .object members => Toml.print members
  | false, _ => ""

/-- Shows the settings in force. -/
def showInForce (h : Host) (asJson : Bool) : Session :=
  let events := Settings.loadEvents h "."
  match Settings.load h "." with
  | .error f => { files := h.files, failure := some f, events }
  | .ok s => { files := h.files, output := settingsText asJson s ++ "\n", events }

/-- Shows where settings files are and which of them are there. -/
def showPaths (h : Host) : Session :=
  let mark (path : String) : String := (if h.files.exist path then "✓ " else "✗ ") ++ path ++ "\n"
  { files := h.files
    output := "Configuration paths:\n\n  Global:  " ++ mark (Settings.globalFile h)
      ++ "  Project: " ++ mark Settings.projectFile }

/-- The session of a settings file that has been started. -/
def ofStarted (s : Settings.Started) (output : String → String) : Session :=
  match s.result with
  | .error f => { files := s.files, failure := some f, events := s.events }
  | .ok dir => { files := s.files, output := output dir, events := s.events }

/-- Writes the first settings file of the user. -/
def startGlobal (h : Host) (force : Bool) : Session :=
  ofStarted (Settings.startGlobal h force) fun dir =>
    Notice.success "Initialized global configuration" ++ "  Directory: " ++ dir
      ++ "\n  Config:    " ++ Settings.globalFile h ++ "\n"

/-- The working directory as a path. -/
def workPath (h : Host) : String := Path.ofParts true h.files.workDir

/-- Writes the first settings file of the project. -/
def startProject (h : Host) (force : Bool) : Session :=
  ofStarted (Settings.startProject h.files (workPath h) force) fun dir =>
    Notice.success "Initialized project configuration" ++ "  Directory: " ++ dir
      ++ "\n  Config:    " ++ Settings.projectFile ++ "\n"

/-- Sets up a project; the user's settings file is written too if it is missing and can be. -/
def start (h : Host) (force : Bool) : Session :=
  if Settings.isStarted h.files (workPath h) && !force then
    { files := h.files
      failure := some (.config "Already initialized. Use --force to overwrite.") }
  else
    let project := Settings.startProject h.files (workPath h) force
    match project.result with
    | .error f => { files := project.files, failure := some f, events := project.events }
    | .ok _ =>
      let global := Settings.startGlobal { h with files := project.files } false
      let skipped := match global.result with
        | .ok _ => []
        | .error f => [.debug ("Global config init skipped: " ++ f.message)]
      { files := global.files
        events := project.events ++ global.events ++ skipped
        output := Notice.success "Initialized docfold in .docfold/"
          ++ "  Project: " ++ h.files.workDir.getLastD "project" ++ "\n\nNext steps:\n"
          ++ "  1. Point [analysis] at your parsed comment files in .docfold/config.toml\n"
          ++ "  2. Run 'docfold build' to assemble module documentation\n" }

/-- Carries out an action. -/
def perform (run : Runner) (h : Host) (picks : List Nat) : Action → Session
  | .start force => start h force
  | .build options => Build.build run h options picks
  | .showSettings true _ => showGlobal h
  | .showSettings false format => showInForce h (format = "json")
  | .showPaths => showPaths h
  | .startSettings true force => startGlobal h force
  | .startSettings false force => startProject h force

/-! ### Command lines -/

/-- How the program is used. -/
def usage : String :=
"Folds parsed doc-comment streams into structured module documentation

Usage: docfold [OPTIONS] <COMMAND>

Commands:
  init [-f|--force]            Initialize docfold in the current directory
  build [OPTIONS] [PATHS]...   Assemble module documentation
      -o, --output <DIR>       Output directory
      -f, --format <FORMAT>    Output format: json, yaml
          --source <SOURCE>    Comment source: json, command
          --two-phase          Register all classes and mixins before attaching members
          --abort-on-error     Stop at the first unreadable module
          --dry-run            Assemble and report, don't write files
  config show [-g] [-f json]   Show current configuration
  config path                  Show configuration file paths
  config init [-g] [--force]   Initialize configuration

Options:
      --verbose
  -q, --quiet
  -h, --help
  -V, --version
"

/-- The version of the program. -/
def version : String := "docfold 0.1.0\n"

/-- How a run of the program ends. -/
structure Ended where
  status : Nat
  output : String
  errors : List String
  files : Files
  /-- What is reported, if the command line asks for it. -/
  events : List Event := []

/-- The events that are reported. -/
def Invocation.reports (i : Invocation) (e : Event) : Bool :=
  if i.verbose then true else !i.quiet && e.level ≠ .debug

/-- The picks of the build that a command line asks for, if it asks for one. -/
def picks (clock : Clock) (h : Host) (words : List String) : List Nat :=
  match Invocation.read words with
  | .ok { action := .build options, .. } => Build.picks clock h options
  | _ => []

/-- Runs the program on a command line. -/
def run (commands : Runner) (h : Host) (picks : List Nat) (words : List String) : Ended :=
  match Invocation.read words with
  | .error .misuse => { status := 2, output := "", errors := [usage], files := h.files }
  | .error .help => { status := 0, output := usage, errors := [], files := h.files }
  | .error .version => { status := 0, output := version, errors := [], files := h.files }
  | .ok i =>
    let s := perform commands h picks i.action
    { status := s.status
      output := s.output
      errors := s.errorLines
      files := s.files
      events := s.events.filter i.reports }

end ModuleDocs.CommandLine
