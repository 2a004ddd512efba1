import ModuleDocs.Value

/-!
# Toml — Printer

Sections of settings as a TOML document.  A text is written in the plainest of the four notations
that shows it without escapes, and only with escapes where none does.
-/

namespace ModuleDocs.Toml

/-! ### Texts -/

/-- The longest run of a character. -/
def longestRun (mark : Char) (cs : List Char) : Nat :=
  (cs.foldl (fun (longest, current) c =>
    let current := if c = mark then current + 1 else 0
    (max longest current, current)) (0, 0)).1

/-- A character that only an escape can write. -/
def needsEscape (c : Char) : Bool := (c < ' ' && c != '\t' && c != '\n') || c == '\x7f'

/-- A number in four hexadecimal digits. -/
def fourDigits (n : Nat) : List Char :=
  let digits := (Nat.toDigits 16 n).map Char.toUpper
  List.replicate (4 - digits.length) '0' ++ digits

/-- One character of a text in double quotes, other than a quote. -/
def escaped (lines : Bool) (c : Char) : List Char :=
  if c = '\x08' then ['\\', 'b']
  else if c = '\t' then ['\\', 't']
  else if c = '\n' then if lines then ['\n'] else ['\\', 'n']
  else if c = '\x0c' then ['\\', 'f']
  else if c = '\r' then ['\\', 'r']
  else if c = '\\' then ['\\', '\\']
  else if needsEscape c then '\\' :: 'u' :: fourDigits c.toNat
  else [c]

/-- The characters of a text in double quotes.  At most `most` quotes in a row stand without an
escape, and `quotes` of them have just been written. -/
def escapedText (lines : Bool) (most quotes : Nat) : List Char → List Char
  | [] => []
  | c :: cs =>
    if c = '"' then
      if quotes < most then '"' :: escapedText lines most (quotes + 1) cs
      else '\\' :: '"' :: escapedText lines most 0 cs
    else escaped lines c ++ escapedText lines most 0 cs

/-- A text between single quotes. -/
def literalText (cs : List Char) : List Char := '\'' :: cs ++ ['\'']

/-- A text between double quotes. -/
def basicText (cs : List Char) : List Char := '"' :: escapedText false 0 0 cs ++ ['"']

/-- A text between three quotes of a kind; a text of several lines starts on a line of its own. -/
def betweenThree (quote : Char) (cs body : List Char) : List Char :=
  List.replicate 3 quote ++ (if cs.contains '\n' then ['\n'] else []) ++ body
    ++ List.replicate 3 quote

/-- A text. -/
def printText (s : String) : List Char :=
  let cs := s.toList
  let lines := cs.contains '\n'
  let backslash := cs.contains '\\'
  let escapes := cs.any needsEscape
  let doubles := longestRun '"' cs
  let singles := longestRun '\'' cs
  if !escapes && !backslash && doubles = 0 && !lines then basicText cs
  else if !escapes && singles = 0 && !lines then literalText cs
  else if !escapes && !backslash && doubles ≤ 2 then betweenThree '"' cs (escapedText true 2 0 cs)
  else if !escapes && singles ≤ 2 then betweenThree '\'' cs cs
  else if lines then betweenThree '"' cs (escapedText true 2 0 cs)
  else basicText cs

/-! ### Values and sections -/

/-- A value that is neither a section nor a list. -/
def printScalar : Value → List Char
  | .bool b => (if b then "true" else "false").toList
  | .number n => (toString n).toList
  | .text s => printText s
  | .list _ | .object _ => []

/-- A value of a setting.  Lists of two and more take a line for each element. -/
def printValue : Value → List Char
  | .list [] => ['[', ']']
  | .list [v] => '[' :: printScalar v ++ [']']
  | .list vs =>
    '[' :: '\n' :: vs.flatMap (fun v => "    ".toList ++ printScalar v ++ [',', '\n']) ++ [']']
  | v => printScalar v

/-- The line of a setting. -/
def printSetting (key : String) (v : Value) : List Char :=
  key.toList ++ " = ".toList ++ printValue v ++ ['\n']

/-- A setting, or a section of settings with its header. -/
def printMember : String × Value → List Char
  | (key, .object settings) =>
    '\n' :: '[' :: key.toList ++ [']', '\n'] ++ settings.flatMap fun (k, v) => printSetting k v
  | (key, v) => printSetting key v

/-- Settings and sections as a document; settings come before sections. -/
def print (members : List (String × Value)) : String := String.ofList (members.flatMap printMember)

end ModuleDocs.Toml
