/-!
# CommandLine — Options

Words of a command line as options and plain words.  An option has a long name and perhaps a short
one; it is a switch, or it takes a value, which follows it or is joined to it.  Short switches can
share a dash.  No option is given twice, and behind two dashes all words are plain.
-/

namespace ModuleDocs.CommandLine

/-- An option that a command takes. -/
structure Spec where
  long : String
  short : Option Char := none
  takesValue : Bool := false
  /-- The values it takes. -/
  accepts : String → Bool := fun _ => true

/-- Why a command line is not carried out. -/
inductive Stop where
  | misuse
  | help
  | version
deriving DecidableEq, Repr

/-- What words say. -/
structure Given where
  /-- The long names of the switches and options, with the value of each. -/
  options : List (String × String) := []
  /-- The plain words. -/
  words : List String := []
deriving DecidableEq, Repr

namespace Given

/-- The switch is given. -/
def has (g : Given) (long : String) : Bool := (g.options.lookup long).isSome

/-- The value of an option. -/
def value? (g : Given) (long : String) : Option String := g.options.lookup long

/-- Adds an option, which must be new and have a value that it takes. -/
def add (g : Given) (spec : Spec) (value : String) : Except Stop Given :=
  if g.has spec.long || !spec.accepts value then .error .misuse
  else if spec.long = "help" then .error .help
  else if spec.long = "version" then .error .version
  else .ok { g with options := g.options ++ [(spec.long, value)] }

end Given

/-- A command as far as its words are concerned. -/
structure Grammar where
  specs : List Spec
  /-- The first plain word ends the command's own words. -/
  hasCommands : Bool := false
  /-- The plain words it takes. -/
  acceptsWord : String → Bool := fun _ => false

/-- The word is an option or starts several. -/
def isOption (word : String) : Bool := word.length > 1 && word.toList.head? = some '-'

/-- The option of a long name, and the value that is joined to it with an equals sign. -/
def long? (specs : List Spec) (word : List Char) : Option (Spec × Option String) :=
  let name := word.takeWhile (· ≠ '=')
  let value := match word.drop name.length with
    | '=' :: value => some (String.ofList value)
    | _ => none
  (specs.find? (·.long = String.ofList name)).map (·, value)

/-- The options that share a dash: the switches, and a last option with the value that is joined to
it, if one takes a value. -/
def shorts? (specs : List Spec) :
    List Char → Option (List Spec × Option (Spec × Option String))
  | [] => some ([], none)
  | c :: cs => do
    let spec ← specs.find? (·.short = some c)
    if spec.takesValue then
      let value := match cs with
        | [] => none
        | '=' :: value => some (String.ofList value)
        | value => some (String.ofList value)
      some ([], some (spec, value))
    else
      let (switches, last) ← shorts? specs cs
      some (spec :: switches, last)

/-- Reads the words of a command, and gives the words behind them, which start with the name of a
further command. -/
def read (g : Grammar) : Given → List String → Except Stop (Given × List String)
  | given, [] => .ok (given, [])
  | given, word :: rest =>
    if word = "--" then
      if rest.all g.acceptsWord then .ok ({ given with words := given.words ++ rest }, [])
      else .error .misuse
    else if isOption word then do
      let (switches, last) ← match word.toList with
        | '-' :: '-' :: name =>
          match long? g.specs name with
          | none => .error .misuse
          | some (spec, value) =>
            if spec.takesValue then .ok ([], some (spec, value))
            else if value.isSome then .error .misuse
            else .ok ([spec], none)
        | _ =>
          match shorts? g.specs (word.toList.drop 1) with
          | none => .error .misuse
          | some found => .ok found
      let given ← switches.foldlM (fun given spec => given.add spec "") given
      match last, rest with
      | none, rest => read g given rest
      | some (spec, some value), rest => do read g (← given.add spec value) rest
      | some (spec, none), value :: rest =>
        if isOption value then .error .misuse else do read g (← given.add spec value) rest
      | some (_, none), [] => .error .misuse
    else if g.hasCommands then .ok (given, word :: rest)
    else if g.acceptsWord word then read g { given with words := given.words ++ [word] } rest
    else .error .misuse

end ModuleDocs.CommandLine
