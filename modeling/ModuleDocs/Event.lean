/-!
# Event

What the program reports while it works.
-/

namespace ModuleDocs

/-- How much an event matters. -/
inductive Level where
  | debug | info | warn
deriving DecidableEq, Repr

/-- The level as it is written. -/
def Level.text : Level → String
  | .debug => "DEBUG"
  | .info => "INFO"
  | .warn => "WARN"

/-- A reported event. -/
structure Event where
  level : Level
  message : String
deriving DecidableEq, Repr

namespace Event

/-- An event of interest while looking for a mistake. -/
def debug (message : String) : Event := ⟨.debug, message⟩

/-- An event of general interest. -/
def info (message : String) : Event := ⟨.info, message⟩

/-- An event that deserves attention. -/
def warn (message : String) : Event := ⟨.warn, message⟩

/-- The line of an event. -/
def line (e : Event) : String := e.level.text ++ " " ++ e.message

end Event

end ModuleDocs
