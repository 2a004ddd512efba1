import ModuleDocs.Event
import ModuleDocs.Files.Disk
import ModuleDocs.Json.Printer
import ModuleDocs.Record.Json
import ModuleDocs.Settings
import ModuleDocs.Yaml.Printer

/-!
# Output

Writing documentation: one file for each module and an index of all of them.  The file of a module
has the normal names of the module's path, so that it lies inside the output directory whatever the
path is.  All targets are known before anything is written: if two of them are the same, nothing is.
-/

namespace ModuleDocs

/-- A line of the index. -/
structure IndexEntry where
  name : String
  path : String
  file : String
  isDeprecated : Bool
  classes : Nat
  mixins : Nat
  functions : Nat
  vars : Nat
deriving DecidableEq, Repr

/-- The entry as data. -/
def IndexEntry.toValue (e : IndexEntry) : Value :=
  .object
    [("name", .text e.name), ("path", .text e.path), ("file", .text e.file),
     ("isDeprecated", .bool e.isDeprecated), ("classes", .number e.classes),
     ("mixins", .number e.mixins), ("functions", .number e.functions),
     ("variables", .number e.vars)]

namespace OutputFormat

/-- Data in the format. -/
def print (f : OutputFormat) (v : Value) : String :=
  match f with
  | .json => Json.print v
  | .yaml => Yaml.print v

/-- A name with the extension of the format. -/
def fileName (f : OutputFormat) (stem : String) : String := stem ++ "." ++ f.name

end OutputFormat

namespace Output

/-! ### Targets -/

/-- The last name of a list changed. -/
def onLast (change : String → String) : List String → List String
  | [] => []
  | [name] => [change name]
  | name :: rest => name :: onLast change rest

/-- The names of a module's file below the output directory. -/
def targetNames (f : OutputFormat) (path : String) : List String :=
  match Path.normalNames path with
  | [] => [f.fileName "module"]
  | names => onLast f.fileName names

/-- A module's file, relative to the output directory. -/
def target (f : OutputFormat) (path : String) : String := "/".intercalate (targetNames f path)

/-- The file of the index, relative to the output directory. -/
def indexTarget (f : OutputFormat) : String := f.fileName "_index"

/-- What is said of two claims to one file. -/
def collisionMessage (first second file : String) : String :=
  first ++ " and " ++ second ++ " both map to " ++ file

/-- Gives each record its file, or names the first record whose file is taken already.  `claimed`
holds the files taken, each with its claimant. -/
def plan (f : OutputFormat) (claimed : List (String × String)) :
    List ModuleDoc → Except Failure (List (ModuleDoc × String))
  | [] => .ok []
  | r :: rs =>
    let file := target f r.path
    match claimed.lookup file with
    | some claimant => .error (.outputCollision (collisionMessage claimant r.path file))
    | none => (plan f ((file, r.path) :: claimed) rs).map ((r, file) :: ·)

/-- Each record with its file; the index claims its own before all records. -/
def planAll (f : OutputFormat) (records : List ModuleDoc) :
    Except Failure (List (ModuleDoc × String)) :=
  plan f [(indexTarget f, "the module index")] records

/-- The entry of a record in the index. -/
def entry (r : ModuleDoc) (file : String) : IndexEntry where
  name := r.name
  path := r.path
  file := Path.slashed file
  isDeprecated := r.isDeprecated
  classes := r.classes.length
  mixins := r.mixins.length
  functions := r.functions.length
  vars := r.vars.length

/-- The index of planned records, by path. -/
def index (planned : List (ModuleDoc × String)) : List IndexEntry :=
  (planned.map fun (r, file) => entry r file).mergeSort fun a b => decide (a.path ≤ b.path)

/-! ### Writing -/

/-- What writing leaves behind: the files, what was reported, and the outcome. -/
structure Written (α : Type) where
  files : Files
  events : List Event := []
  result : Except Failure α

/-- A fault of the files as a failure. -/
def ofFault (f : FileFault) : Failure := .io f.message

/-- Writes a text, creating the directories that lead to it. -/
def writeFile (fs : Files) (path text : String) : Files × Except FileFault Unit :=
  match fs.createDirectories ((Path.parent? path).getD "") with
  | (fs, .error e) => (fs, .error e)
  | (fs, .ok ()) =>
    match fs.writeText path text with
    | .ok fs => (fs, .ok ())
    | .error e => (fs, .error e)

/-- Goes on after a write that succeeded, and reports it. -/
def afterWrite (path : String) (next : Files → Written Unit) :
    Files × Except FileFault Unit → Written Unit
  | (fs, .error e) => { files := fs, result := .error (ofFault e) }
  | (fs, .ok ()) =>
    let later := next fs
    { later with events := .debug ("Wrote " ++ path) :: later.events }

/-- Writes planned records until one of them fails. -/
def writeRecords (f : OutputFormat) (dir : String) (fs : Files) :
    List (ModuleDoc × String) → Written Unit
  | [] => { files := fs, result := .ok () }
  | (r, file) :: rest =>
    let path := Path.join dir file
    afterWrite path (fun fs => writeRecords f dir fs rest) (writeFile fs path (f.print r.toValue))

/-- Writes records and then the index into a directory, and gives the index. -/
def writeAll (f : OutputFormat) (dir : String) (fs : Files) (records : List ModuleDoc) :
    Written (List IndexEntry) :=
  match planAll f records with
  | .error e => { files := fs, result := .error e }
  | .ok planned =>
    match fs.createDirectories dir with
    | (fs, .error e) => { files := fs, result := .error (ofFault e) }
    | (fs, .ok ()) =>
      let written := writeRecords f dir fs planned
      match written.result with
      | .error e => { files := written.files, events := written.events, result := .error e }
      | .ok () =>
        let entries := index planned
        let text := f.print (.list (entries.map IndexEntry.toValue))
        match written.files.writeText (Path.join dir (indexTarget f)) text with
        | .ok fs => { files := fs, events := written.events, result := .ok entries }
        | .error e =>
          { files := written.files, events := written.events, result := .error (ofFault e) }

end Output

end ModuleDocs
