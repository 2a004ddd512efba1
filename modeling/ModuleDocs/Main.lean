import ModuleDocs.CommandLine
import ModuleDocs.Shell

/-!
# Main

The program: takes the part of the machine that a command line can concern into a `Host`, runs the
command line on it, prints what it has to say and puts changed files back.
-/

namespace ModuleDocs.Main

/-- The path with its directory's links followed; nothing if there is no such directory. -/
def resolve? (path : String) : IO (Option String) := do
  try
    match Path.parent? path, Path.fileName? path with
    | some parent, some name => return some ((← IO.FS.realPath parent) / name).toString
    | _, _ => return some (← IO.FS.realPath path).toString
  catch _ => return none

/-- Adds what stands at an absolute path and below it; links are kept, directories behind them are
not entered. -/
partial def load (fs : Files) (path : String) : IO Files := do
  let some place ← resolve? path | return fs
  let target := (← IO.currentDir) / place
  if !(← target.pathExists) then return fs
  match (← target.symlinkMetadata).type with
  | .dir =>
    let mut fs := fs.add place .directory
    for entry in ← target.readDir do
      fs ← load fs entry.path.toString
    return fs
  | .file => return fs.add place (.file (← IO.FS.readBinFile target))
  | .symlink =>
    let behind ← IO.FS.realPath target
    let fs := fs.add place (.link behind.toString)
    if ← behind.isDir then return fs.add behind.toString .directory
    else return fs.add behind.toString (.file (← IO.FS.readBinFile behind))
  | .other => return fs

/-- The environment variables. -/
def environment : IO (List (String × String)) := do
  let path := "/proc/self/environ"
  let content ← try IO.FS.readBinFile path catch _ => pure ByteArray.empty
  let text := Text.decodeLossy content.toList
  return (Text.split '\x00' text).filterMap fun line =>
    match Text.splitChars '=' line.toList with
    | name :: value@(_ :: _) =>
      some (String.ofList name, "=".intercalate (value.map String.ofList))
    | _ => none

/-- The ignore files of the directories above a place, and what tells that one is a repository. -/
def aboveFiles (place : Place) : List String :=
  (List.range place.length).flatMap fun n =>
    [".ignore", ".gitignore", ".git"].map (Path.join (Path.ofParts true (place.take n)))

/-- What a command line can concern. -/
def host (words : List String) : IO Host := do
  let work := (← IO.currentDir).toString
  let vars ← environment
  let home := (vars.lookup "HOME").getD "/"
  let empty : Host := { home, environment := vars, files := { workDir := Path.names work } }
  let mentioned := words.map (Path.join work)
  let own := [Settings.globalFile empty, Path.join work (Scan.everywhereFile empty), work]
  let mut files := (empty.files.createDirectories work).1
  for path in aboveFiles empty.files.workDir ++ own ++ mentioned do
    files ← load files path
  return { empty with files }

/-- Puts the files that differ back. -/
def save (before after : Files) : IO Unit := do
  for (place, entry) in after.disk.entries do
    let path := Path.ofParts true place
    match entry, before.disk.entry? place with
    | .directory, none => IO.FS.createDirAll path
    | .file content, some (.file old) => if content != old then IO.FS.writeBinFile path content
    | .file content, _ => IO.FS.writeBinFile path content
    | _, _ => pure ()

end ModuleDocs.Main

/-- Runs the program. -/
def main (words : List String) : IO UInt32 := do
  let host ← ModuleDocs.Main.host words
  let picks := ModuleDocs.CommandLine.picks ModuleDocs.Shell.clock host words
  let ended := ModuleDocs.CommandLine.run ModuleDocs.Shell.run host picks words
  ModuleDocs.Main.save host.files ended.files
  for event in ended.events do
    IO.eprintln event.line
  IO.print ended.output
  for line in ended.errors do
    IO.eprintln line
  return ended.status.toUInt32
