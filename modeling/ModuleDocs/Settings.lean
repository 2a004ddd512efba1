import ModuleDocs.Assembly
import ModuleDocs.Value

/-!
# Settings

What the user can set: which files are modules, how they are documented and where the result goes.
Settings that do not make sense together are refused before anything is done with them.
-/

namespace ModuleDocs

/-- Where a module's comments come from. -/
inductive SourceKind where
  /-- The module file holds the comments as JSON. -/
  | json
  /-- A command reads the module file and prints the comments as JSON. -/
  | command
deriving DecidableEq, Repr

/-- What happens when a module cannot be read. -/
inductive FailurePolicy where
  /-- The module is left out and the failure reported. -/
  | isolate
  /-- The whole run fails. -/
  | abort
deriving DecidableEq, Repr

/-- The format of the written documentation. -/
inductive OutputFormat where
  | json | yaml
deriving DecidableEq, Repr

/-- Which files are modules. -/
structure AnalysisSettings where
  includes : List String := ["**/*"]
  excludes : List String := ["**/node_modules/**", "**/.git/**", "**/.docfold/**"]
  /-- The greatest size of a module file, in bytes. -/
  maxFileSize : Nat := 5242880
  extensions : List String := ["json"]
deriving DecidableEq, Repr

/-- How modules are documented. -/
structure AssemblySettings where
  source : SourceKind := .json
  /-- The program that reads comments, and its arguments. -/
  command : List String := ["dox", "--raw"]
  commandTimeoutSecs : Nat := 30
  concurrency : Nat := 8
  resolution : Resolution := .singlePass
  failurePolicy : FailurePolicy := .isolate
  wrapperMarker : String := "(function"
  extensions : List String := []
  renderMarkdown : Bool := true
deriving DecidableEq, Repr

/-- Where the documentation goes. -/
structure OutputSettings where
  dir : String := "docs/api"
  format : OutputFormat := .json
deriving DecidableEq, Repr

/-- All settings. -/
structure Settings where
  version : String := "1.0"
  analysis : AnalysisSettings := {}
  assembly : AssemblySettings := {}
  output : OutputSettings := {}
deriving DecidableEq, Repr

/-! ### Names of choices -/

/-- The name of a source. -/
def SourceKind.name : SourceKind → String
  | .json => "json"
  | .command => "command"

/-- The name of a failure policy. -/
def FailurePolicy.name : FailurePolicy → String
  | .isolate => "isolate"
  | .abort => "abort"

/-- The name of an output format, which is also the extension of its files. -/
def OutputFormat.name : OutputFormat → String
  | .json => "json"
  | .yaml => "yaml"

/-- The name of a way to find owners. -/
def Resolution.name : Resolution → String
  | .singlePass => "single-pass"
  | .twoPhase => "two-phase"

/-- The source that the user names, in any case. -/
def SourceKind.parse (s : String) : Except String SourceKind :=
  match Text.lower s with
  | "json" => .ok .json
  | "command" => .ok .command
  | _ => .error ("Unknown source: " ++ s ++ ". Valid values: json, command")

/-- The output format that the user names, in any case. -/
def OutputFormat.parse (s : String) : Except String OutputFormat :=
  match Text.lower s with
  | "json" => .ok .json
  | "yaml" | "yml" => .ok .yaml
  | _ => .error ("Unknown output format: " ++ s ++ ". Valid values: json, yaml")

/-! ### Usable settings -/

namespace Settings

/-- The first thing that makes the settings unusable. -/
def problem? (s : Settings) : Option String :=
  if s.assembly.concurrency = 0 then some "assembly.concurrency must be greater than 0"
  else if s.assembly.source = .command ∧ s.assembly.command = [] then
    some "assembly.command must name a parser when source = \"command\""
  else if s.assembly.source = .command ∧ s.assembly.commandTimeoutSecs = 0 then
    some "assembly.command_timeout_secs must be greater than 0"
  else
    match s.assembly.extensions.find? (!Extension.builtinNames.contains ·) with
    | some unknown => some (Extension.unknownMessage unknown)
    | none =>
      if s.analysis.extensions = [] then
        some "analysis.extensions must list at least one file extension"
      else none

/-- The settings, if they are usable. -/
def validate (s : Settings) : Except Failure Settings :=
  match s.problem? with
  | some problem => .error (.config problem)
  | none => .ok s

/-! ### Settings as data -/

/-- The settings as data. -/
def toValue (s : Settings) : Value :=
  .object
    [("version", .text s.version),
     ("analysis", .object
      [("include", .texts s.analysis.includes), ("exclude", .texts s.analysis.excludes),
       ("max_file_size", .number s.analysis.maxFileSize),
       ("extensions", .texts s.analysis.extensions)]),
     ("assembly", .object
      [("source", .text s.assembly.source.name), ("command", .texts s.assembly.command),
       ("command_timeout_secs", .number s.assembly.commandTimeoutSecs),
       ("concurrency", .number s.assembly.concurrency),
       ("resolution", .text s.assembly.resolution.name),
       ("failure_policy", .text s.assembly.failurePolicy.name),
       ("wrapper_marker", .text s.assembly.wrapperMarker),
       ("extensions", .texts s.assembly.extensions),
       ("render_markdown", .bool s.assembly.renderMarkdown)]),
     ("output", .object [("dir", .text s.output.dir), ("format", .text s.output.format.name)])]

end Settings

end ModuleDocs
