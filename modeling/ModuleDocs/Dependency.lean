import ModuleDocs.Text.Blank

/-!
# Dependency

A module that another one requires, as a `requires` tag names it: the first word is the name and
the rest describes it.
-/

namespace ModuleDocs

/-- A required module. -/
structure Dependency where
  name : String
  description : String := ""
deriving DecidableEq, Repr

/-- The dependency that the text of a tag names; a blank text names none. -/
def Dependency.ofTagValue (value : String) : Option Dependency :=
  match Text.trimChars value.toList with
  | [] => none
  | c :: cs =>
    some {
      name := String.ofList ((c :: cs).takeWhile (!Text.isBlank ·))
      description := String.ofList (Text.trimChars ((c :: cs).dropWhile (!Text.isBlank ·))) }

end ModuleDocs
