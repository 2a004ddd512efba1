import ModuleDocs.Glob
import ModuleDocs.Ignore
import ModuleDocs.Settings.Load

/-!
# Scan

The module files below a directory: all files that no ignore rule leaves out and that the settings
ask for, in the order of their paths.
-/

namespace ModuleDocs

/-- A module file. -/
structure ModuleFile where
  /-- The path under which the file is opened. -/
  path : String
  /-- The path that names the module, with slashes between its names. -/
  relative : String
deriving DecidableEq, Repr

/-- A module file that is named directly. -/
def ModuleFile.standalone (path : String) : ModuleFile :=
  { path, relative := Path.slashed path }

namespace Scan

/-- The user's ignore file for all repositories. -/
def everywhereFile (h : Host) : String :=
  let dir := match h.environment.reverse.lookup "XDG_CONFIG_HOME" with
    | some dir => if dir = "" then Path.join h.home ".config" else dir
    | none => Path.join h.home ".config"
  Path.join dir "git/ignore"

/-- The names of a path as rules for all repositories see it: from the working directory if it leads
through it. -/
def seenNames (fs : Files) (root : String) (names : List String) : List String :=
  let front := if Path.isAbsolute root then
      let parts := Path.parts root
      if fs.workDir.isPrefixOf parts then parts.drop fs.workDir.length else parts
    else (Path.names root).dropWhile (· = ".")
  front ++ names

/-- The size of a file, links followed; nothing for what is no file. -/
def fileSize? (fs : Files) (place : Place) : Option Nat :=
  match fs.entry? (Path.ofParts true place) with
  | some (_, .file content) => some content.size
  | _ => none

/-- The files below a directory that no rule leaves out, each with the names that lead to it.
Directories that are left out are not entered, nor are links to directories. -/
def walk (fs : Files) (seen : List String → List String) (place : Place) :
    Nat → Ignore.Scope → List String → List (List String)
  | 0, _, _ => []
  | n + 1, scope, names =>
    let here := place ++ names
    let scope := scope.enter fs here
    (fs.disk.namesIn here).flatMap fun name =>
      let names := names ++ [name]
      let isDirectory := match fs.disk.entry? (place ++ names) with
        | some .directory => true
        | _ => false
      if scope.verdict? (place ++ names) (seen names) isDirectory = some .ignored then []
      else if isDirectory then walk fs seen place n scope names
      else if (fileSize? fs (place ++ names)).isSome then [names]
      else []

/-- The files below a root, each with the names that lead to it; a root that is a file is the only
one. -/
def files (h : Host) (root : String) : List (List String) :=
  let fs := h.files
  match fs.entry? root with
  | some (place, .directory) =>
    let everywhere := Ignore.rules fs (everywhereFile h)
    walk fs (seenNames fs root) place (fs.disk.entries.length + 1)
      (.around fs everywhere place) []
  | some (_, .file _) => [[]]
  | _ => []

/-- The settings ask for a file. -/
def wants (s : AnalysisSettings) (fs : Files) (file : ModuleFile) : Bool :=
  (Path.extension? file.path).any s.extensions.contains
    && (s.includes.isEmpty || Glob.anyFits s.includes file.relative)
    && !Glob.anyFits s.excludes file.relative
    && match fs.entry? file.path with
      | some (_, .file content) => content.size ≤ s.maxFileSize
      | _ => false

/-- The file that names lead to from a root. -/
def fileAt (root : String) (names : List String) : ModuleFile :=
  { path := names.foldl Path.join root, relative := "/".intercalate names }

/-- The module files below a root, in the order of their relative paths. -/
def modules (h : Host) (root : String) (s : AnalysisSettings) : List ModuleFile :=
  (((files h root).map (fileAt root)).filter (wants s h.files)).mergeSort
    fun a b => a.relative ≤ b.relative

end Scan

end ModuleDocs
