import ModuleDocs.Shell.Program

/-!
# Shell — Script

Scripts: commands joined by `;`, `&&`, `||` and pipes, with quoted words and with output sent
elsewhere.
-/

namespace ModuleDocs.Shell

/-- Where output goes. -/
inductive Sink where
  | stdout
  | stderr
  | nowhere
deriving DecidableEq, Repr, Inhabited

/-- A command with the places of its two outputs. -/
structure Simple where
  words : List String := []
  out : Sink := .stdout
  err : Sink := .stderr
deriving DecidableEq, Repr, Inhabited

/-- When a command of a script is run, by how the one before it ended. -/
inductive Join where
  | always
  | onSuccess
  | onFailure
deriving DecidableEq, Repr, Inhabited

/-- A script: pipelines, and when each is run. -/
abbrev Script := List (Join × List Simple)

/-! ### Words and signs -/

/-- A part of a script's text. -/
inductive Lexeme where
  | word (chars : List Char)
  | join (j : Join)
  | pipe
  | merge (fd target : Char)
  | send (fd : Char)
deriving DecidableEq, Repr, Inhabited

/-- A character that ends a word. -/
def endsWord (c : Char) : Bool := " \t\n;|&<>".toList.contains c

/-- The value of what follows a dollar sign, and the text behind it. -/
def expansion (cs : List Char) : List Char × List Char :=
  match cs with
  | '$' :: rest => (['1'], rest)
  | '?' :: rest | '#' :: rest => (['0'], rest)
  | _ =>
    let name := cs.takeWhile fun c => c.isAlphanum || c == '_'
    if name.isEmpty then (['$'], cs) else ([], cs.drop name.length)

/-- The inside of double quotes, and the text behind them. -/
def doubleQuoted : Nat → List Char → List Char → Option (List Char × List Char)
  | 0, _, _ => none
  | _, _, [] => none
  | _, taken, '"' :: rest => some (taken, rest)
  | n + 1, taken, '\\' :: c :: cs =>
    if "$\x60\"\\".toList.contains c then doubleQuoted n (c :: taken) cs
    else doubleQuoted n (c :: '\\' :: taken) cs
  | n + 1, taken, '$' :: cs =>
    let (value, rest) := expansion cs
    doubleQuoted n (value.reverse ++ taken) rest
  | n + 1, taken, c :: cs => doubleQuoted n (c :: taken) cs

/-- A word, in reverse, and the text behind it; nothing if a quote is left open. -/
def wordFrom : Nat → List Char → List Char → Option (List Char × List Char)
  | 0, taken, cs => some (taken, cs)
  | _, taken, [] => some (taken, [])
  | n + 1, taken, '\'' :: cs =>
    let inside := cs.takeWhile (· != '\'')
    match cs.drop inside.length with
    | _ :: rest => wordFrom n (inside.reverse ++ taken) rest
    | [] => none
  | n + 1, taken, '"' :: cs => do
    let (inside, rest) ← doubleQuoted cs.length [] cs
    wordFrom n (inside ++ taken) rest
  | n + 1, taken, '\\' :: c :: cs => wordFrom n (c :: taken) cs
  | n + 1, taken, '$' :: cs =>
    let (value, rest) := expansion cs
    wordFrom n (value.reverse ++ taken) rest
  | n + 1, taken, c :: cs =>
    if endsWord c then some (taken, c :: cs) else wordFrom n (c :: taken) cs

/-- The parts of a script's text. -/
def lexemes : Nat → List Char → Option (List Lexeme)
  | 0, _ => some []
  | _, [] => some []
  | n + 1, '&' :: '&' :: cs => (lexemes n cs).map (.join .onSuccess :: ·)
  | n + 1, '|' :: '|' :: cs => (lexemes n cs).map (.join .onFailure :: ·)
  | n + 1, '|' :: cs => (lexemes n cs).map (.pipe :: ·)
  | n + 1, ';' :: cs | n + 1, '\n' :: cs => (lexemes n cs).map (.join .always :: ·)
  | n + 1, '>' :: '&' :: fd :: cs => (lexemes n cs).map (.merge '1' fd :: ·)
  | n + 1, '1' :: '>' :: '&' :: fd :: cs => (lexemes n cs).map (.merge '1' fd :: ·)
  | n + 1, '2' :: '>' :: '&' :: fd :: cs => (lexemes n cs).map (.merge '2' fd :: ·)
  | n + 1, '2' :: '>' :: cs => (lexemes n cs).map (.send '2' :: ·)
  | n + 1, '1' :: '>' :: cs | n + 1, '>' :: cs => (lexemes n cs).map (.send '1' :: ·)
  | n + 1, c :: cs =>
    if c = ' ' || c = '\t' then lexemes n cs
    else if endsWord c then none
    else do
      let (word, rest) ← wordFrom (cs.length + 1) [] (c :: cs)
      (lexemes n rest).map (.word word.reverse :: ·)

/-! ### Commands -/

/-- Sends the output of a descriptor to a place. -/
def Simple.redirect (c : Simple) (fd : Char) (place : Sink) : Simple :=
  if fd = '2' then { c with err := place } else { c with out := place }

/-- Reads commands, the current one and the pipeline before it given.  Output may be sent to the
other descriptor or nowhere. -/
def commandsFrom (join : Join) (line : List Simple) (current : Simple) :
    List Lexeme → Option Script
  | [] => some (if current.words.isEmpty && line.isEmpty then [] else [(join, line ++ [current])])
  | .word w :: rest =>
    commandsFrom join line { current with words := current.words ++ [String.ofList w] } rest
  | .pipe :: rest => commandsFrom join (line ++ [current]) {} rest
  | .merge fd target :: rest =>
    commandsFrom join line
      (current.redirect fd (if target = '2' then current.err else current.out)) rest
  | .send fd :: .word path :: rest =>
    if path = "/dev/null".toList then commandsFrom join line (current.redirect fd .nowhere) rest
    else none
  | .send _ :: _ => none
  | .join next :: rest =>
    if current.words.isEmpty && line.isEmpty then commandsFrom join [] {} rest
    else (commandsFrom next [] {} rest).map ((join, line ++ [current]) :: ·)

/-- The script that a text writes. -/
def Script.parse? (s : String) : Option Script :=
  (lexemes (s.length + 1) s.toList).bind (commandsFrom .always [] {})

end ModuleDocs.Shell
