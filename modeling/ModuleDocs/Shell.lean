import ModuleDocs.Shell.Script
import ModuleDocs.Source

/-!
# Shell

Runs the commands that a source of comments may name: the built-in programs, and `sh -c` with a
script over them.  A program of any other name is not found.
-/

namespace ModuleDocs.Shell

/-! ### Scripts -/

/-- A script under way: what has been printed, the status of the last command, the time taken, and
whether the script has ended. -/
structure Progress where
  stdout : List UInt8 := []
  stderr : List UInt8 := []
  status : Nat := 0
  took : Duration := ⟨0⟩
  isOver : Bool := false

/-- One command of a script.  A script's own `echo` undoes escapes, and it can end the script. -/
def runSimple (words : List String) (input : List UInt8) (last : Nat) : Ended × Bool :=
  match words with
  | [] | ":" :: _ => ({}, false)
  | ["exit"] => ({ status := last }, true)
  | "exit" :: code :: _ => ({ status := code.toNat?.getD 2 % 256 }, true)
  | "kill" :: _ => ({ status := 137 }, true)
  | "echo" :: "-n" :: more =>
    let text := " ".intercalate more
    (prints (unescapeBytes text.length text.toList), false)
  | "echo" :: more =>
    let text := " ".intercalate more
    (prints (unescapeBytes text.length text.toList ++ [10]), false)
  | name :: args =>
    ((program? name args input).getD (complains ("sh: 1: " ++ name ++ ": not found") 127), false)

/-- The two outputs of a command, sent where they go. -/
def Simple.deliver (c : Simple) (e : Ended) : List UInt8 × List UInt8 :=
  let sentTo (place : Sink) : List UInt8 :=
    (if c.out = place then e.stdout else []) ++ (if c.err = place then e.stderr else [])
  (sentTo .stdout, sentTo .stderr)

/-- Runs the commands of a pipeline; each reads what the one before it printed. -/
def runLine (p : Progress) (input : List UInt8) : List Simple → Progress
  | [] => p
  | c :: rest =>
    let (e, isOver) := runSimple c.words input p.status
    let (out, err) := c.deliver e
    let took : Duration := ⟨p.took.nanos + e.took.nanos⟩
    match rest with
    | [] =>
      { stdout := p.stdout ++ out, stderr := p.stderr ++ err, status := e.status, took, isOver }
    | next => runLine { p with stderr := p.stderr ++ err, took } out next

/-- Runs a script. -/
def runScript (input : List UInt8) (p : Progress) : Script → Progress
  | [] => p
  | (join, line) :: rest =>
    let wanted :=
      match join with
      | .always => true
      | .onSuccess => p.status = 0
      | .onFailure => p.status ≠ 0
    if p.isOver then p
    else runScript input (if wanted then runLine p input line else p) rest

/-- Runs the script that a text writes; its commands are given the input. -/
def runText (text : String) (input : List UInt8) : Ended :=
  match Script.parse? text with
  | some script =>
    let p := runScript input {} script
    { stdout := p.stdout, stderr := p.stderr, status := p.status, took := p.took }
  | none => complains "sh: 1: Syntax error" 2

/-- What `sh` does with its arguments.  Without any it takes the input for its script, of which it
leaves nothing to the commands. -/
def runShell (args : List String) (input : List UInt8) : Ended :=
  match args with
  | [] => runText (Text.decodeLossy input) []
  | "-c" :: text :: _ => runText text input
  | _ => {}

/-! ### Commands -/

/-- The name of a program in one of the usual places. -/
def plainName (program : String) : String :=
  match program.splitOn "/" with
  | ["", "bin", name] | ["", "usr", "bin", name] => name
  | _ => program

/-- A path that leads to a directory. -/
def namesDirectory (program : String) : Bool :=
  program = "." || program = ".." || program.endsWith "/." || program.endsWith "/.." ||
    (program.startsWith "/" &&
      ["", "bin", "dev", "etc", "home", "lib", "opt", "proc", "root", "sbin", "sys", "tmp",
        "usr", "var"].contains
        ((program.dropWhile (· == '/')).dropEndWhile (· == '/')).toString) ||
    program = "./" || program = "../"

/-- The reason why a program cannot be started. -/
def unstartable (program : String) : String :=
  if namesDirectory program then "Permission denied (os error 13)"
  else "No such file or directory (os error 2)"

/-- How the program of a command ends; nothing if there is no such program. -/
def ended? (c : Command) (text : String) : Option Ended :=
  let input := Text.encode text
  let name := plainName c.program
  if name = "sh" then some (runShell c.args input) else program? name c.args input

/-- What comes of a command that is given a text to read. -/
def run : Runner := fun c text =>
  if (c.program :: c.args).any (·.contains '\x00') then
    .notStarted "nul byte found in provided data"
  else
    match ended? c text with
    | none => .notStarted (unstartable c.program)
    | some e =>
      if c.timeout.nanos ≤ e.took.nanos then .timedOut else .exited (e.status = 0) e.stdout e.stderr

/-- The time after which a command has ended or is not waited for any longer. -/
def clock : Clock := fun c text =>
  match run c text, ended? c text with
  | .exited .., some e => e.took
  | .timedOut, _ => c.timeout
  | _, _ => ⟨0⟩

end ModuleDocs.Shell
