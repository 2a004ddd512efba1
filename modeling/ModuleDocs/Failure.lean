import ModuleDocs.Duration
import ModuleDocs.Json.Fault

/-!
# Failure

What can go wrong while documentation is built, with the wording of each failure.
-/

namespace ModuleDocs

/-- A failure of the program. -/
inductive Failure where
  /-- A file could not be read or written. -/
  | io (message : String)
  /-- A JSON text does not hold the record it should. -/
  | json (fault : Json.Fault)
  /-- A module file could not be read. -/
  | acquisition (path message : String)
  /-- The comments of a module could not be read. -/
  | commentParse (path message : String)
  /-- Two outputs would go to one file. -/
  | outputCollision (message : String)
  /-- An operation took too long. -/
  | timeout (operation : String) (after : Duration)
  /-- The settings are not usable. -/
  | config (message : String)
  /-- An extension could not be set up. -/
  | extension (message : String)
deriving DecidableEq, Repr

namespace Failure

/-- The wording of a failure. -/
def message : Failure → String
  | .io m => "IO error: " ++ m
  | .json f => "JSON error: " ++ f.message
  | .acquisition path m => "Failed to read module " ++ path ++ ": " ++ m
  | .commentParse path m => "Comment parse error in " ++ path ++ ": " ++ m
  | .outputCollision m => "Output collision: " ++ m
  | .timeout operation after => "Timeout after " ++ after.text ++ ": " ++ operation
  | .config m => "Config error: " ++ m
  | .extension m => "Extension error: " ++ m

/-- A failure to get a module's comments: the module is documented as if it had none. -/
def isRecoverable : Failure → Bool
  | .commentParse .. | .timeout .. => true
  | _ => false

/-- The failure as one of the settings, with what was being done in front. -/
def withContext (context : String) (f : Failure) : Failure := .config (context ++ ": " ++ f.message)

end Failure

end ModuleDocs
