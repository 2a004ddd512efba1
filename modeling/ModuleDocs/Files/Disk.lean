import ModuleDocs.Files.Path

/-!
# Files — Disk

A tree of files, directories and links.  A place is the list of names that leads to it from the
root.  `Disk` says what stands at each place; a path is looked up from a directory, through links,
by `Disk.walk`.
-/

namespace ModuleDocs

/-- A place in a tree of files: the names that lead to it from the root. -/
abbrev Place := List String

/-- What stands at a place. -/
inductive Entry where
  | file (content : ByteArray)
  | directory
  | link (target : String)
deriving Inhabited

/-- A tree of files.  The root is a directory. -/
structure Disk where
  entries : List (Place × Entry) := []
deriving Inhabited

/-- Why an operation on files fails. -/
inductive FileFault where
  | notFound
  | denied
  | alreadyThere
  | notDirectory
  | isDirectory
  | nameTooLong
  | tooManyLinks
  | nulByte
  | notText
deriving DecidableEq, Repr, Inhabited

/-- The text of a fault, with the number under which systems know it. -/
def FileFault.message : FileFault → String
  | .notFound => "No such file or directory (os error 2)"
  | .denied => "Permission denied (os error 13)"
  | .alreadyThere => "File exists (os error 17)"
  | .notDirectory => "Not a directory (os error 20)"
  | .isDirectory => "Is a directory (os error 21)"
  | .nameTooLong => "File name too long (os error 36)"
  | .tooManyLinks => "Too many levels of symbolic links (os error 40)"
  | .nulByte => "file name contained an unexpected NUL byte"
  | .notText => "stream did not contain valid UTF-8"

namespace Disk

/-- What stands at a place, if anything. -/
def entry? (d : Disk) (p : Place) : Option Entry :=
  if p = [] then some .directory else d.entries.lookup p

/-- Puts an entry at a place. -/
def put (d : Disk) (p : Place) (e : Entry) : Disk :=
  if d.entries.any (·.1 == p) then
    { entries := d.entries.map fun (q, old) => if q = p then (q, e) else (q, old) }
  else { entries := d.entries ++ [(p, e)] }

/-- The names in the directory at a place. -/
def namesIn (d : Disk) (p : Place) : List String :=
  d.entries.filterMap fun (q, _) => if q.dropLast = p then q.getLast? else none

/-- What a path leads to. -/
inductive Found where
  | entry (place : Place) (entry : Entry)
  | missing (directory : Place) (name : String)

/-- The longest name, in bytes. -/
def longestName : Nat := 255

/-- Follows names from a directory, through at most a number of links; a link at the end is followed
only on request. -/
def walk (d : Disk) (follow : Bool) (links : Nat) (place : Place) :
    List String → Except FileFault Found
  | [] => .ok (.entry place .directory)
  | "." :: rest => walk d follow links place rest
  | ".." :: rest => walk d follow links place.dropLast rest
  | name :: rest =>
    if name.utf8ByteSize > longestName then .error .nameTooLong
    else
      match d.entry? (place ++ [name]) with
      | none => if rest.isEmpty then .ok (.missing place name) else .error .notFound
      | some .directory => walk d follow links (place ++ [name]) rest
      | some (.file content) =>
        if rest.isEmpty then .ok (.entry (place ++ [name]) (.file content))
        else .error .notDirectory
      | some (.link target) =>
        if rest.isEmpty && !follow then .ok (.entry (place ++ [name]) (.link target))
        else
          match links with
          | 0 => .error .tooManyLinks
          | links + 1 =>
            walk d follow links (if Path.isAbsolute target then [] else place)
              (Path.names target ++ rest)
termination_by names => (links, names.length)

/-- The names of a path to walk; a slash at the end asks for a directory. -/
def steps (path : String) : List String :=
  Path.names path ++ (if path.toList.getLast? = some '/' then ["."] else [])

end Disk

/-- A tree of files seen from a working directory. -/
structure Files where
  disk : Disk := {}
  workDir : Place := []
deriving Inhabited

namespace Files

/-- The longest chain of links that a path may lead through. -/
def longestChain : Nat := 40

/-- The longest path, in bytes. -/
def longestPath : Nat := 4095

/-- What a path leads to. -/
def find (fs : Files) (follow : Bool) (path : String) : Except FileFault Disk.Found :=
  if path.toList.contains '\x00' then .error .nulByte
  else if path = "" then .error .notFound
  else if path.utf8ByteSize > longestPath then .error .nameTooLong
  else
    fs.disk.walk follow longestChain (if Path.isAbsolute path then [] else fs.workDir)
      (Disk.steps path)

/-- What a path leads to through links, with its place. -/
def entry? (fs : Files) (path : String) : Option (Place × Entry) :=
  match fs.find true path with
  | .ok (.entry place e) => some (place, e)
  | _ => none

/-- Something stands where the path leads. -/
def exist (fs : Files) (path : String) : Bool := (fs.entry? path).isSome

/-- The path leads to a directory. -/
def isDirectory (fs : Files) (path : String) : Bool :=
  match fs.entry? path with
  | some (_, .directory) => true
  | _ => false

/-- The path leads to a file. -/
def isFile (fs : Files) (path : String) : Bool :=
  match fs.entry? path with
  | some (_, .file _) => true
  | _ => false

/-- The content of a file. -/
def read (fs : Files) (path : String) : Except FileFault ByteArray :=
  match fs.find true path with
  | .ok (.entry _ (.file content)) => .ok content
  | .ok (.entry ..) => .error .isDirectory
  | .ok (.missing ..) => .error .notFound
  | .error e => .error e

/-- The text of a file. -/
def readText (fs : Files) (path : String) : Except FileFault String :=
  (fs.read path).bind fun bytes =>
    match String.fromUTF8? bytes with
    | some s => .ok s
    | none => .error .notText

/-- The files with a file of the given content where the path leads. -/
def write (fs : Files) (path : String) (content : ByteArray) : Except FileFault Files :=
  match fs.find true path with
  | .ok (.entry place (.file _)) => .ok { fs with disk := fs.disk.put place (.file content) }
  | .ok (.entry ..) => .error .isDirectory
  | .ok (.missing directory name) =>
    .ok { fs with disk := fs.disk.put (directory ++ [name]) (.file content) }
  | .error e => .error e

/-- The files with a file of the given text where the path leads. -/
def writeText (fs : Files) (path text : String) : Except FileFault Files :=
  fs.write path text.toUTF8

/-- The path without the slashes at its end. -/
def dropEndSlashes (path : String) : String :=
  match path.toList.reverse.dropWhile (· = '/') with
  | [] => path
  | cs => String.ofList cs.reverse

/-- The files with a new directory where the path leads. -/
def createDirectory (fs : Files) (path : String) : Except FileFault Files :=
  match fs.find false (dropEndSlashes path) with
  | .ok (.entry ..) => .error .alreadyThere
  | .ok (.missing directory name) =>
    .ok { fs with disk := fs.disk.put (directory ++ [name]) .directory }
  | .error e => .error e

/-- A path and the paths above it, up to one that needs no directory. -/
def lineage : Nat → String → List String
  | 0, _ => []
  | n + 1, path =>
    if path = "" then []
    else
      match Path.parent? path with
      | none => []
      | some above => path :: lineage n above

/-- Creates the last of the paths that can be created or is a directory already, and says which of
them are left to create, the nearest first. -/
def createBase (fs : Files) (left : List String) :
    List String → Except FileFault (Files × List String)
  | [] => .ok (fs, left)
  | path :: above =>
    match fs.createDirectory path with
    | .ok fs => .ok (fs, left)
    | .error .notFound => createBase fs (path :: left) above
    | .error .alreadyThere =>
      if fs.isDirectory path then .ok (fs, left) else .error .alreadyThere
    | .error e => .error e

/-- Creates directories one after the other; those made before a fault stay. -/
def createAll (fs : Files) : List String → Files × Except FileFault Unit
  | [] => (fs, .ok ())
  | path :: rest =>
    match fs.createDirectory path with
    | .ok fs => fs.createAll rest
    | .error e =>
      if e = .alreadyThere && fs.isDirectory path then fs.createAll rest else (fs, .error e)

/-- Makes sure that the path leads to a directory, creating those that are missing on the way. -/
def createDirectories (fs : Files) (path : String) : Files × Except FileFault Unit :=
  match fs.createBase [] (lineage (path.length + 1) path) with
  | .error e => (fs, .error e)
  | .ok (fs, left) => fs.createAll left

/-- The files with an entry where the path leads, and with the directories on the way to it. -/
def add (fs : Files) (path : String) (e : Entry) : Files :=
  let fs := (fs.createDirectories ((Path.parent? path).getD "")).1
  match fs.find false path with
  | .ok (.entry place _) => { fs with disk := fs.disk.put place e }
  | .ok (.missing directory name) => { fs with disk := fs.disk.put (directory ++ [name]) e }
  | .error _ => fs

end Files

end ModuleDocs
