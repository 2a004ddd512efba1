import ModuleDocs.Event
import ModuleDocs.Failure
import ModuleDocs.Files.Disk

/-!
# Session

What one run of the program leaves behind: the files, what it has printed and how it has ended.
-/

namespace ModuleDocs

/-- A run of the program. -/
structure Session where
  files : Files
  output : String := ""
  /-- Lines for the user about what went wrong on the way. -/
  complaints : List String := []
  failure : Option Failure := none
  events : List Event := []

namespace Session

/-- The status that the program ends with. -/
def status (s : Session) : Nat := if s.failure.isSome then 1 else 0

/-- All lines about what went wrong; the failure that ended the run is marked in red. -/
def errorLines (s : Session) : List String :=
  s.complaints ++ (s.failure.map fun f => "\x1b[31mError:\x1b[0m " ++ f.message).toList

end Session

/-! ### Notices -/

namespace Notice

/-- A line about something done. -/
def success (message : String) : String := "✓ " ++ message ++ "\n"

/-- A line about something that deserves attention. -/
def warning (message : String) : String := "⚠ " ++ message ++ "\n"

/-- A line of general interest. -/
def info (message : String) : String := "ℹ " ++ message ++ "\n"

/-- A line about something that failed. -/
def error (message : String) : String := "✗ " ++ message

/-- The heading of a section. -/
def heading (title : String) : String :=
  "\n" ++ title ++ "\n" ++ String.ofList (List.replicate 40 '─') ++ "\n"

end Notice

end ModuleDocs
