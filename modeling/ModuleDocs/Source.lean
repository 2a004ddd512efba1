import ModuleDocs.Comment.Json
import ModuleDocs.Description
import ModuleDocs.Settings
import ModuleDocs.Text.Utf8

/-!
# Source

Where the comments of a module come from: from the module's text itself, which then holds them as
JSON, or from a command that is given the module's text and prints them as JSON.  Every failure of
a source is one that the module's documentation survives.
-/

namespace ModuleDocs

/-- A program with its arguments and the time it may take. -/
structure Command where
  program : String
  args : List String := []
  timeout : Duration
deriving DecidableEq, Repr

/-- The command of a list of words, the first of which is the program. -/
def Command.ofWords (words : List String) (timeout : Duration) : Command where
  program := words.headD ""
  args := words.tail
  timeout := timeout

/-- What came of running a command. -/
inductive Outcome where
  /-- The program could not be started. -/
  | notStarted (reason : String)
  /-- The time ran out. -/
  | timedOut
  /-- The program could not be waited for. -/
  | lost (reason : String)
  /-- The program ended. -/
  | exited (success : Bool) (stdout stderr : List UInt8)
deriving DecidableEq, Repr

/-- How commands behave: what comes of each when it is given a text to read. -/
abbrev Runner := Command → String → Outcome

/-- How long commands take: the time of each when it is given a text to read. -/
abbrev Clock := Command → String → Duration

/-- The comments that a JSON text of the given module holds. -/
def readComments (path text : String) : Except Failure (List Comment) :=
  match Comment.parseAll text with
  | .ok cs => .ok cs
  | .error fault => .error (.commentParse path fault.message)

/-- The comments that a command printed for the given module. -/
def Outcome.comments (c : Command) (path : String) : Outcome → Except Failure (List Comment)
  | .notStarted reason =>
    .error (.commentParse path
      ("Failed to spawn '" ++ c.program ++ "': " ++ reason ++ ". Is it installed?"))
  | .timedOut => .error (.timeout (c.program ++ " on " ++ path) c.timeout)
  | .lost reason =>
    .error (.commentParse path ("'" ++ c.program ++ "' execution failed: " ++ reason))
  | .exited false _ stderr =>
    let message := Text.trim (Text.decodeLossy stderr)
    .error (.commentParse path
      (if message.isEmpty then "Process exited with non-zero status" else message))
  | .exited true stdout _ =>
    match Text.decode stdout with
    | .ok text => readComments path text
    | .error fault => .error (.commentParse path ("Output is not UTF-8: " ++ fault.message))

/-- A source of comments. -/
inductive Source where
  | json
  | command (c : Command)
deriving DecidableEq, Repr

namespace Source

/-- The source that the settings name. -/
def ofSettings (s : AssemblySettings) : Source :=
  match s.source with
  | .json => .json
  | .command => .command (.ofWords s.command (.ofSeconds s.commandTimeoutSecs))

/-- The name of a source. -/
def name : Source → String
  | .json => "json"
  | .command _ => "command"

/-- The comments of the module of the given path and text. -/
def comments (run : Runner) (path text : String) : Source → Except Failure (List Comment)
  | .json => readComments path text
  | .command c =>
    if c.program.isEmpty then .error (.commentParse path "No parser command configured")
    else (run c text).comments c path

/-- The time in which the comments of a text are found; a text that holds them takes none. -/
def time (clock : Clock) (text : String) : Source → Duration
  | .json => ⟨0⟩
  | .command c => clock c text

end Source

namespace Assembler

/-- The documentation of a module whose comments have been sought.  A failure that is recoverable
leaves the module without comments. -/
def document (a : Assembler) (module : Identity) :
    Except Failure (List Comment) → Except Failure ModuleDoc
  | .ok comments => .ok (a.assemble module comments)
  | .error f => if f.isRecoverable then .ok (a.assemble module []) else .error f

/-- What is reported while a module whose comments have been sought is documented. -/
def documentEvents (a : Assembler) (module : Identity)
    (acquired : Except Failure (List Comment)) : List Event :=
  let assembled (comments : List Comment) : List Event :=
    let r := a.assemble module comments
    a.events module comments ++ [.info ("Assembled " ++ r.path ++ ": " ++ r.tally)]
  match acquired with
  | .ok comments => assembled comments
  | .error f =>
    if f.isRecoverable then
      .warn (module.path ++ ": " ++ f.message ++ " (continuing with no comments)") :: assembled []
    else []

/-- The assembler that the settings describe, with the given extensions. -/
def withExtensions (s : AssemblySettings) (extensions : List Extension) : Assembler where
  render := describe s.renderMarkdown
  marker := s.wrapperMarker
  resolution := s.resolution
  extensions := extensions

/-- The assembler that the settings describe. -/
def ofSettings (s : AssemblySettings) : Except Failure Assembler :=
  (Extension.ofNames s.extensions).map (withExtensions s)

/-- What is reported while an assembler is set up. -/
def setupEvents (es : List Extension) : List Event :=
  if es.isEmpty then []
  else [.debug ("Extensions: " ++ ", ".intercalate (es.map (·.name)))]

end Assembler

end ModuleDocs
