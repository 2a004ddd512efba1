import ModuleDocs.Text.Split

/-!
# Files — Path

Paths as texts: names between slashes.  An empty name and `.` lead nowhere, `..` leads up, every
other name is normal.
-/

namespace ModuleDocs.Path

/-- The names in a path, without the empty ones. -/
def names (path : String) : List String := (Text.split '/' path).filter (· ≠ "")

/-- The path with slashes in place of backslashes. -/
def slashed (path : String) : String :=
  String.ofList (path.toList.map fun c => if c = '\\' then '/' else c)

/-- The path starts at the root. -/
def isAbsolute (path : String) : Bool := path.toList.head? = some '/'

/-- The name leads down. -/
def isNormal (name : String) : Bool := name ≠ "" && name ≠ "." && name ≠ ".."

/-- The normal names in a path. -/
def normalNames (path : String) : List String := (Text.split '/' path).filter isNormal

/-- The names that matter: `.` counts only at the start of a path that is not absolute. -/
def parts (path : String) : List String :=
  match names path with
  | "." :: rest =>
    if isAbsolute path then rest.filter (· ≠ ".") else "." :: rest.filter (· ≠ ".")
  | all => all.filter (· ≠ ".")

/-- The path of names below the root or below the place it is looked up from. -/
def ofParts (absolute : Bool) (parts : List String) : String :=
  (if absolute then "/" else "") ++ "/".intercalate parts

/-- The second path looked up from where the first one leads. -/
def join (base path : String) : String :=
  if isAbsolute path || base = "" then path
  else if base.toList.getLast? = some '/' then base ++ path
  else base ++ "/" ++ path

/-- The path without its last name; nothing for the root and the empty path. -/
def parent? (path : String) : Option String :=
  match (parts path).reverse with
  | [] => none
  | _ :: before => some (ofParts (isAbsolute path) before.reverse)

/-- The last name, if it is a normal one. -/
def fileName? (path : String) : Option String :=
  (parts path).getLast?.bind fun name => if isNormal name then some name else none

/-- A file name cut at its last point, which may not start it. -/
def splitExtension? (name : String) : Option (String × String) :=
  let extension := name.toList.reverse.takeWhile (· ≠ '.')
  let stem := (name.toList.reverse.drop (extension.length + 1)).reverse
  if stem.isEmpty then none
  else some (String.ofList stem, String.ofList extension.reverse)

/-- What follows the last point of the file name. -/
def extension? (path : String) : Option String :=
  (fileName? path).bind fun name => (splitExtension? name).map Prod.snd

/-- The names from one absolute path to another, by way of the names they share. -/
def relativeNames (src dst : List String) : List String :=
  match src, dst with
  | a :: src', b :: dst' =>
    if a = b then relativeNames src' dst' else src.map (fun _ => "..") ++ dst
  | src, dst => src.map (fun _ => "..") ++ dst

end ModuleDocs.Path
