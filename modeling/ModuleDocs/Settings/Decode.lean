import ModuleDocs.Datum
import ModuleDocs.Decimal.Layout
import ModuleDocs.Settings
import ModuleDocs.Text.Quoted

/-!
# Settings — Decode

Settings out of data.  A table sets what it names and leaves the rest at its default; a list gives
the settings of a section in their order.  The first datum that does not fit is reported with the
key that leads to it and with its origin.
-/

namespace ModuleDocs

/-- Where a setting was made. -/
inductive Origin where
  | file (shown : String)
  | environment
deriving DecidableEq, Repr

namespace Origin

/-- The origin in words. -/
def text : Origin → String
  | .file shown => shown ++ " TOML file"
  | .environment => "`DOCFOLD_` environment variable(s)"

/-- The key of a setting as it is written at its origin. -/
def key (o : Origin) (path : List String) : String :=
  match o with
  | .file _ => ".".intercalate ("default" :: path)
  | .environment =>
    ".".intercalate (path.map fun k => String.ofList (k.toList.map Char.toUpper))

end Origin

/-- What is wrong with a datum. -/
inductive Misfit where
  /-- It is of another type. -/
  | otherType (found expected : String)
  /-- It is out of range. -/
  | outOfRange (found expected : String)
  /-- It is none of the two names there are. -/
  | unknownName (found first second : String)
deriving DecidableEq, Repr

/-- The misfit in words. -/
def Misfit.text : Misfit → String
  | .otherType found expected => "invalid type: found " ++ found ++ ", expected " ++ expected
  | .outOfRange found expected => "invalid value " ++ found ++ ", expected " ++ expected
  | .unknownName found first second =>
    "unknown variant: found `" ++ found ++ "`, expected ``" ++ first ++ "` or `" ++ second ++ "``"

/-- A misfit at its place. -/
structure Misplaced where
  misfit : Misfit
  /-- The keys that lead to the datum. -/
  path : List String
  origin : Origin
deriving DecidableEq, Repr

/-- The misfit and its place in words. -/
def Misplaced.text (m : Misplaced) : String :=
  m.misfit.text ++ " for key " ++ Text.quoted (m.origin.key m.path) ++ " in " ++ m.origin.text

namespace Decode

/-- Reads a part of the settings out of a datum; the keys that lead to the datum are given from the
innermost on. -/
abbrev Decoder (α : Type) := List String → Datum Origin → Except Misplaced α

/-- A scalar in words. -/
def scalarText : Scalar → String
  | .text s => "string " ++ Text.quoted s
  | .char c => "string " ++ Text.quoted (String.singleton c)
  | .bool b => "bool " ++ (if b then "true" else "false")
  | .signed n => "signed int `" ++ toString n ++ "`"
  | .unsigned n => "unsigned int `" ++ toString n ++ "`"
  | .float x => "float `" ++ Decimal.Layout.plain.text x ++ "`"

/-- A datum in words. -/
def shown : Datum Origin → String
  | .scalar _ s => scalarText s
  | .list .. => "sequence"
  | .table .. => "map"

/-- A misfit of a datum. -/
def misfit {α : Type} (m : Misfit) (path : List String) (d : Datum Origin) : Except Misplaced α :=
  .error ⟨m, path.reverse, d.origin⟩

/-- The datum is not of the expected type. -/
def otherType {α : Type} (expected : String) (path : List String) (d : Datum Origin) :
    Except Misplaced α :=
  misfit (.otherType (shown d) expected) path d

/-- A text. -/
def text (expected : String) : Decoder String := fun path d =>
  match d with
  | .scalar _ (.text s) => .ok s
  | .scalar _ (.char c) => .ok (String.singleton c)
  | d => otherType expected path d

/-- A truth value. -/
def bool : Decoder Bool := fun path d =>
  match d with
  | .scalar _ (.bool b) => .ok b
  | d => otherType "a boolean" path d

/-- A natural number. -/
def natural (expected : String) : Decoder Nat := fun path d =>
  match d with
  | .scalar _ (.unsigned n) => .ok n
  | .scalar _ (.signed n) =>
    if n < 0 then misfit (.outOfRange (shown d) expected) path d else .ok n.toNat
  | d => otherType expected path d

/-- Decodes the elements of a list, which are counted from a number on. -/
def elements {α : Type} (element : Decoder α) (path : List String) :
    Nat → List (Datum Origin) → Except Misplaced (List α)
  | _, [] => .ok []
  | i, d :: ds => do
    let a ← element (toString i :: path) d
    let rest ← elements element path (i + 1) ds
    return a :: rest

/-- A list. -/
def list {α : Type} (element : Decoder α) : Decoder (List α) := fun path d =>
  match d with
  | .list _ ds => elements element path 0 ds
  | d => otherType "a sequence" path d

/-- One of two choices.  A table names the choice with its first key, which may hold nothing; since
every datum holds something, no table is a choice. -/
def choice {α : Type} (name : α → String) (first second : α) (expected : String) : Decoder α :=
  fun path d =>
    let find (path : List String) (at_ : Datum Origin) (s : String) : Except Misplaced α :=
      if s = name first then .ok first
      else if s = name second then .ok second
      else misfit (.unknownName s (name first) (name second)) path at_
    match d with
    | .scalar _ (.text s) => find path d s
    | .table _ ((k, inner) :: _) => do
      let _ ← find (k :: path) inner k
      otherType "unit" (k :: path) inner
    | .table _ [] => otherType "enum" path d
    | d => otherType expected path d

/-- A setting of a section: its key, and how a datum sets it. -/
abbrev Setting (α : Type) := String × (α → Decoder α)

/-- A setting that a function puts in its place. -/
def setting {α β : Type} (key : String) (decode : Decoder β) (put : α → β → α) : Setting α :=
  (key, fun section_ path d => (decode path d).map (put section_))

/-- Sets what the members of a table name. -/
def members {α : Type} (settings : List (Setting α)) (path : List String) (start : α) :
    List (String × Datum Origin) → Except Misplaced α
  | [] => .ok start
  | (k, d) :: ms =>
    match settings.lookup k with
    | some set => do members settings path (← set start (k :: path) d) ms
    | none => members settings path start ms

/-- Sets one setting after the other; the data are counted from a number on. -/
def inOrder {α : Type} (path : List String) (start : α) :
    Nat → List (Setting α) → List (Datum Origin) → Except Misplaced α
  | i, (_, set) :: settings, d :: ds => do
    inOrder path (← set start (toString i :: path) d) (i + 1) settings ds
  | _, _, _ => .ok start

/-- A section with its settings. -/
def group {α : Type} (expected : String) (settings : List (Setting α)) (start : α) : Decoder α :=
  fun path d =>
    match d with
    | .table _ ms => members settings path start ms
    | .list _ ds => inOrder path start 0 settings ds
    | d => otherType expected path d

/-- Which files are modules. -/
def analysis : Decoder AnalysisSettings :=
  group "struct AnalysisConfig"
    [setting "include" (list (text "a string")) fun s v => { s with includes := v },
     setting "exclude" (list (text "a string")) fun s v => { s with excludes := v },
     setting "max_file_size" (natural "usize") fun s v => { s with maxFileSize := v },
     setting "extensions" (list (text "a string")) fun s v => { s with extensions := v }] {}

/-- How modules are documented. -/
def assembly : Decoder AssemblySettings :=
  group "struct AssemblyConfig"
    [setting "source" (choice SourceKind.name .json .command "enum SourceKind") fun s v =>
       { s with source := v },
     setting "command" (list (text "a string")) fun s v => { s with command := v },
     setting "command_timeout_secs" (natural "u64") fun s v => { s with commandTimeoutSecs := v },
     setting "concurrency" (natural "usize") fun s v => { s with concurrency := v },
     setting "resolution"
       (choice Resolution.name .singlePass .twoPhase "enum OwnerResolution") fun s v =>
       { s with resolution := v },
     setting "failure_policy"
       (choice FailurePolicy.name .isolate .abort "enum FailurePolicy") fun s v =>
       { s with failurePolicy := v },
     setting "wrapper_marker" (text "a string") fun s v => { s with wrapperMarker := v },
     setting "extensions" (list (text "a string")) fun s v => { s with extensions := v },
     setting "render_markdown" bool fun s v => { s with renderMarkdown := v }] {}

/-- Where the documentation goes. -/
def output : Decoder OutputSettings :=
  group "struct OutputConfig"
    [setting "dir" (text "path string") fun s v => { s with dir := v },
     setting "format" (choice OutputFormat.name .json .yaml "enum OutputFormat") fun s v =>
       { s with format := v }] {}

/-- All settings. -/
def settings : Decoder Settings :=
  group "struct Config"
    [setting "version" (text "a string") fun s v => { s with version := v },
     setting "analysis" analysis fun s v => { s with analysis := v },
     setting "assembly" assembly fun s v => { s with assembly := v },
     setting "output" output fun s v => { s with output := v }] {}

end Decode

end ModuleDocs
