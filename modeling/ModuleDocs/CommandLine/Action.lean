import ModuleDocs.Build
import ModuleDocs.CommandLine.Options

/-!
# CommandLine — Action

What a command line asks for.
-/

namespace ModuleDocs.CommandLine

/-- What the program is asked to do. -/
inductive Action where
  /-- Set up a project in the working directory. -/
  | start (force : Bool)
  /-- Build the documentation. -/
  | build (options : Build.Options)
  /-- Show the user's settings file or the settings in force. -/
  | showSettings (global : Bool) (format : String)
  /-- Show where settings files are. -/
  | showPaths
  /-- Write a first settings file. -/
  | startSettings (global force : Bool)
deriving DecidableEq, Repr

/-- An action, and how much is reported on the way. -/
structure Invocation where
  action : Action
  verbose : Bool := false
  quiet : Bool := false
deriving DecidableEq, Repr

/-! ### Grammars -/

/-- Options that every command takes. -/
def common : List Spec :=
  [{ long := "verbose" }, { long := "quiet", short := some 'q' },
    { long := "help", short := some 'h' }]

/-- A path is not empty. -/
def isPath (word : String) : Bool := word ≠ ""

/-- The program's own options. -/
def programGrammar : Grammar :=
  { specs := common ++ [{ long := "version", short := some 'V' }], hasCommands := true }

/-- The options of `init`. -/
def startGrammar : Grammar := { specs := common ++ [{ long := "force", short := some 'f' }] }

/-- The options of `build`. -/
def buildGrammar : Grammar :=
  { specs := common ++
      [{ long := "output", short := some 'o', takesValue := true, accepts := isPath },
       { long := "format", short := some 'f', takesValue := true
         accepts := fun v => (OutputFormat.parse v).toOption.isSome },
       { long := "source", takesValue := true
         accepts := fun v => (SourceKind.parse v).toOption.isSome },
       { long := "two-phase" }, { long := "abort-on-error" }, { long := "dry-run" }]
    acceptsWord := isPath }

/-- The options of `config`. -/
def configGrammar : Grammar := { specs := common, hasCommands := true }

/-- The options of `config show`. -/
def showGrammar : Grammar :=
  { specs := common ++
      [{ long := "global", short := some 'g' },
        { long := "format", short := some 'f', takesValue := true }] }

/-- The options of `config path`. -/
def pathsGrammar : Grammar := { specs := common }

/-- The options of `config init`. -/
def startSettingsGrammar : Grammar :=
  { specs := common ++ [{ long := "global", short := some 'g' }, { long := "force" }] }

/-! ### Reading -/

/-- The build that options ask for. -/
def buildOptions (g : Given) : Build.Options where
  paths := g.words
  overrides :=
    { output := g.value? "output"
      format := (g.value? "format").bind fun v => (OutputFormat.parse v).toOption
      source := (g.value? "source").bind fun v => (SourceKind.parse v).toOption
      twoPhase := g.has "two-phase"
      abortOnError := g.has "abort-on-error" }
  dryRun := g.has "dry-run"

/-- An action with what has been said about reporting at each of the commands that led to it. -/
def invocation (action : Action) (said : List Given) : Invocation where
  action := action
  verbose := said.any (·.has "verbose")
  quiet := said.any (·.has "quiet")

/-- The words behind `help` name a command. -/
def namesCommand (commands : List String) (nested : List (String × List String)) :
    List String → Bool
  | [] => true
  | [name] => commands.contains name
  | [name, inner] => (nested.lookup name).any (·.contains inner)
  | _ => false

/-- The commands of `config`. -/
def configCommands : List String := ["show", "path", "init", "help"]

/-- Reads the words behind `config`. -/
def readConfig (before : List Given) (words : List String) : Except Stop Invocation := do
  let (given, rest) ← read configGrammar {} words
  let before := given :: before
  match rest with
  | "show" :: rest =>
    let (g, _) ← read showGrammar {} rest
    return invocation (.showSettings (g.has "global") ((g.value? "format").getD "text"))
      (g :: before)
  | "path" :: rest =>
    let (g, _) ← read pathsGrammar {} rest
    return invocation .showPaths (g :: before)
  | "init" :: rest =>
    let (g, _) ← read startSettingsGrammar {} rest
    return invocation (.startSettings (g.has "global") (g.has "force")) (g :: before)
  | "help" :: rest => throw (if namesCommand configCommands [] rest then .help else .misuse)
  | _ => throw .misuse

/-- Reads a command line. -/
def Invocation.read (words : List String) : Except Stop Invocation := do
  let (given, rest) ← CommandLine.read programGrammar {} words
  match rest with
  | "init" :: rest =>
    let (g, _) ← CommandLine.read startGrammar {} rest
    return invocation (.start (g.has "force")) [g, given]
  | "build" :: rest =>
    let (g, _) ← CommandLine.read buildGrammar {} rest
    return invocation (.build (buildOptions g)) [g, given]
  | "config" :: rest => readConfig [given] rest
  | "help" :: rest =>
    throw (if namesCommand ["init", "build", "config", "help"] [("config", configCommands)] rest
      then .help else .misuse)
  | _ => throw .misuse

end ModuleDocs.CommandLine
