import ModuleDocs.Event
import ModuleDocs.Files.Disk
import ModuleDocs.Settings.Decode
import ModuleDocs.Settings.Environment
import ModuleDocs.Toml.Reader

/-!
# Settings — Load

The settings in force: those of the user's file, then those of the project's file, then those of
the environment, each laid over the ones before.  Also the files that a new project and a new user
start with.
-/

namespace ModuleDocs

/-- What the program sees of the machine. -/
structure Host where
  files : Files := {}
  /-- The user's own directory. -/
  home : String
  /-- The environment variables. -/
  environment : List (String × String) := []

namespace Settings

/-! ### Places -/

/-- The project's directory for its settings. -/
def projectDir : String := ".docfold"

/-- The name of a settings file. -/
def fileName : String := "config.toml"

/-- The project's settings file, as seen from the project. -/
def projectFile : String := Path.join projectDir fileName

/-- The user's directory for settings of all programs. -/
def configDir (h : Host) : String :=
  match h.environment.reverse.lookup "XDG_CONFIG_HOME" with
  | some dir => if Path.isAbsolute dir then dir else Path.join h.home ".config"
  | none => Path.join h.home ".config"

/-- The user's directory for settings. -/
def globalDir (h : Host) : String := Path.join (configDir h) "docfold"

/-- The user's settings file. -/
def globalFile (h : Host) : String := Path.join (globalDir h) fileName

/-! ### Layers -/

/-- Why a layer cannot be read. -/
inductive LayerFault where
  /-- The file is not TOML. -/
  | malformed
  /-- The file cannot be read. -/
  | unreadable (fault : FileFault) (shown : String)
deriving DecidableEq, Repr

/-- Settings in layers: laid over each other, or the faults met, the latest first. -/
abbrev Layers := Except (List LayerFault) (Datum Origin)

/-- A layer laid over others. -/
def laidOver (layers : Layers) (layer : Except LayerFault (Datum Origin)) : Layers :=
  match layers, layer with
  | .ok lower, .ok upper => .ok (lower.merge upper)
  | .ok _, .error f => .error [f]
  | .error fs, .ok _ => .error fs
  | .error fs, .error f => .error (f :: fs)

/-- The faults in words; nothing is said behind a malformed file. -/
def faultsText : List LayerFault → String
  | [] => ""
  | .malformed :: _ => "TOML parse error"
  | .unreadable fault shown :: fs =>
    fault.message ++ "\n in " ++ (Origin.file shown).text
      ++ (if fs.isEmpty then "" else "\n" ++ faultsText fs)

/-- A directory and those above it, the nearest first. -/
def upward : Place → List Place
  | place => (List.range (place.length + 1)).map fun n => place.take (place.length - n)

/-- The file that a path names: from the working directory, or else from a directory above it. -/
def locate? (fs : Files) (path : String) : Option String :=
  if Path.isAbsolute path then if fs.isFile path then some path else none
  else ((upward fs.workDir).map fun dir => Path.join (Path.ofParts true dir) path).find? fs.isFile

/-- A file as it is shown: from the working directory if that is shorter. -/
def shownFile (fs : Files) (path : String) : String :=
  let parts := Path.parts path
  let relative := Path.relativeNames fs.workDir parts
  if relative.length ≤ parts.length then "/".intercalate relative else path

/-- The layer of a file; a missing file sets nothing. -/
def fileLayer (fs : Files) (path : String) : Except LayerFault (Datum Origin) :=
  match locate? fs path with
  | none => .ok (.table (.file path) [])
  | some path =>
    let shown := shownFile fs path
    match fs.readText path with
    | .error fault => .error (.unreadable fault shown)
    | .ok text =>
      match Toml.read? text with
      | none => .error .malformed
      | some d => .ok (d.withOrigin (.file shown))

/-- The layer of the environment. -/
def environmentLayer (h : Host) : Datum Origin :=
  (Environment.settings h.environment).withOrigin .environment

/-- The settings of layers, if they are usable. -/
def ofLayers (layers : Layers) : Except Failure Settings :=
  let refuse (text : String) : Except Failure Settings :=
    .error (.config ("Configuration error: " ++ text))
  match layers with
  | .error fs => refuse (faultsText fs)
  | .ok d =>
    match Decode.settings [] d with
    | .error m => refuse m.text
    | .ok s => s.validate

/-- No layers. -/
def noLayers : Layers := .ok (.table .environment [])

/-- The settings of a file alone. -/
def ofFile (fs : Files) (path : String) : Except Failure Settings :=
  ofLayers (laidOver noLayers (fileLayer fs path))

/-- The files with settings in force for a project, the user's first. -/
def filesInForce (h : Host) (root : String) : List String :=
  [globalFile h, Path.join root projectFile].filter h.files.exist

/-- The settings in force for a project. -/
def load (h : Host) (root : String) : Except Failure Settings :=
  let files :=
    (filesInForce h root).foldl (fun ls path => laidOver ls (fileLayer h.files path)) noLayers
  ofLayers (laidOver files (.ok (environmentLayer h)))

/-- What is reported while settings are loaded. -/
def loadEvents (h : Host) (root : String) : List Event :=
  let event (whose path : String) : List Event :=
    if h.files.exist path then [.debug ("Loading " ++ whose ++ " config from: " ++ path)] else []
  event "global" (globalFile h) ++ event "project" (Path.join root projectFile)

/-! ### Overrides -/

/-- Settings made for one run. -/
structure Overrides where
  output : Option String := none
  format : Option OutputFormat := none
  source : Option SourceKind := none
  twoPhase : Bool := false
  abortOnError : Bool := false
deriving DecidableEq, Repr

/-- The settings with those for one run laid over them, if they are usable. -/
def override (s : Settings) (o : Overrides) : Except Failure Settings :=
  validate
    { s with
      output :=
        { dir := o.output.getD s.output.dir
          format := o.format.getD s.output.format }
      assembly :=
        { s.assembly with
          source := o.source.getD s.assembly.source
          resolution := if o.twoPhase then .twoPhase else s.assembly.resolution
          failurePolicy := if o.abortOnError then .abort else s.assembly.failurePolicy } }

/-! ### First files -/

/-- The settings file of a new user. -/
def firstGlobalText : String :=
"# docfold Global Configuration
# User-wide defaults. Project settings in .docfold/config.toml override these.

version = \"1.0\"

[assembly]
source = \"json\"
concurrency = 8
"

/-- The settings file of a new project. -/
def firstProjectText : String :=
"# docfold Project Configuration
# Project-specific settings that override global defaults.

version = \"1.0\"

# Module discovery
[analysis]
include = [\"**/*\"]
exclude = [
    \"**/node_modules/**\",
    \"**/.git/**\",
    \"**/.docfold/**\",
]
extensions = [\"json\"]

# Comment acquisition and assembly
[assembly]
# \"json\": module files hold parser output; \"command\": run the parser per module
source = \"json\"
command = [\"dox\", \"--raw\"]
# \"single-pass\" or \"two-phase\"
resolution = \"single-pass\"
# \"isolate\" or \"abort\"
failure_policy = \"isolate\"
wrapper_marker = \"(function\"
extensions = []

# Documentation output
[output]
dir = \"docs/api\"
format = \"json\"
"

/-- What has become of a settings file. -/
structure Started where
  /-- The directory of the file. -/
  result : Except Failure String
  files : Files
  events : List Event := []

/-- Writes a first settings file into a directory, over an old one only by force. -/
def start (fs : Files) (dir text : String) (force : Bool) (created kept : String → List Event) :
    Started :=
  let failed (fault : FileFault) (fs : Files) : Started :=
    { result := .error (.io fault.message), files := fs }
  let path := Path.join dir fileName
  match fs.createDirectories dir with
  | (fs, .error fault) => failed fault fs
  | (fs, .ok ()) =>
    if fs.exist path && !force then { result := .ok dir, files := fs, events := kept path }
    else
      match fs.writeText path text with
      | .error fault => failed fault fs
      | .ok fs => { result := .ok dir, files := fs, events := created path }

/-- Starts the settings of a project. -/
def startProject (fs : Files) (root : String) (force : Bool) : Started :=
  start fs (Path.join root projectDir) firstProjectText force
    (fun path => [.info ("Created project config: " ++ path)]) fun _ => []

/-- Starts the settings of the user. -/
def startGlobal (h : Host) (force : Bool) : Started :=
  start h.files (globalDir h) firstGlobalText force
    (fun path => [.info ("Created global config: " ++ path)])
    fun path => [.info ("Global config exists: " ++ path)]

/-- The project has settings. -/
def isStarted (fs : Files) (root : String) : Bool := fs.exist (Path.join root projectFile)

end Settings

end ModuleDocs
