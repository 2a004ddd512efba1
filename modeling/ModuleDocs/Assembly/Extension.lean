import ModuleDocs.Comment
import ModuleDocs.Failure
import ModuleDocs.Record
import ModuleDocs.Text.Quoted

/-!
# Assembly — Extension

Extensions change what is documented: one hook may change the module before its comments are
read, another each comment.  Extensions run in the order in which they are given, each on what the
one before has made.
-/

namespace ModuleDocs

/-- A named extension. -/
structure Extension where
  name : String
  onModule : Option (ModuleDoc → ModuleDoc) := none
  onComment : Option (Comment → Comment) := none

namespace Extension

/-- The module after every extension. -/
def applyModule (es : List Extension) (r : ModuleDoc) : ModuleDoc :=
  (es.filterMap (·.onModule)).foldl (fun r hook => hook r) r

/-- The comment after every extension. -/
def applyComment (es : List Extension) (c : Comment) : Comment :=
  (es.filterMap (·.onComment)).foldl (fun c hook => hook c) c

/-! ### The built-in extensions -/

/-- A comment with the tag `ignore` is private. -/
def ignoreTag (c : Comment) : Comment :=
  if c.hasTag "ignore" then { c with isPrivate := some true } else c

/-- A name without what follows its last dot, unless nothing stands before the dot or a slash
behind it. -/
def stem (name : String) : String :=
  let back := name.toList.reverse
  match back.dropWhile (· ≠ '.') with
  | [] => name
  | _ :: front =>
    if front.isEmpty || (back.takeWhile (· ≠ '.')).contains '/' then name
    else String.ofList front.reverse

/-- A module is named without its file extension. -/
def stripExtension (r : ModuleDoc) : ModuleDoc := { r with name := stem r.name }

/-- A description has no blanks around it. -/
def trimDescription (c : Comment) : Comment := { c with description := Text.trim c.description }

/-- The names of the built-in extensions. -/
def builtinNames : List String := ["ignore-tag", "strip-extension", "trim-descriptions"]

/-- Says that no built-in extension has the given name. -/
def unknownMessage (name : String) : String :=
  "Unknown extension '" ++ name ++ "'. Valid values: " ++ ", ".intercalate builtinNames

/-- The built-in extension of the given name. -/
def builtin (name : String) : Except Failure Extension :=
  if name = "ignore-tag" then .ok { name, onComment := some ignoreTag }
  else if name = "strip-extension" then .ok { name, onModule := some stripExtension }
  else if name = "trim-descriptions" then .ok { name, onComment := some trimDescription }
  else .error (.extension (unknownMessage name))

/-- The built-in extensions of the given names. -/
def ofNames (names : List String) : Except Failure (List Extension) := names.mapM builtin

/-- The extensions and their hooks in words. -/
def describe (es : List Extension) : String :=
  let flag (b : Bool) : String := if b then "true" else "false"
  let one (e : Extension) : String :=
    "Extension \x7b name: " ++ Text.quoted e.name ++ ", module_hook: " ++ flag e.onModule.isSome ++
      ", comment_hook: " ++ flag e.onComment.isSome ++ " \x7d"
  "ExtensionSet \x7b extensions: [" ++ ", ".intercalate (es.map one) ++ "] \x7d"

end Extension

end ModuleDocs
