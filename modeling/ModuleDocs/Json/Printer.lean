import ModuleDocs.Value

/-!
# Json — Printer

Data as a JSON text, one member or element a line and two more blanks for each level.
-/

namespace ModuleDocs.Json

/-- A lower-case hexadecimal digit. -/
def hexDigit (n : Nat) : Char := Char.ofNat (if n < 10 then 48 + n else 87 + n)

/-- One character of a string.  The quote, the backslash and the control characters are escaped. -/
def escapeChar (c : Char) : List Char :=
  if c = '"' then ['\\', '"']
  else if c = '\\' then ['\\', '\\']
  else if c = '\x08' then ['\\', 'b']
  else if c = '\x0c' then ['\\', 'f']
  else if c = '\n' then ['\\', 'n']
  else if c = '\r' then ['\\', 'r']
  else if c = '\t' then ['\\', 't']
  else if c.toNat < 0x20 then
    ['\\', 'u', '0', '0', hexDigit (c.toNat / 16), hexDigit (c.toNat % 16)]
  else [c]

/-- A string with its quotes. -/
def printText (s : String) : List Char := '"' :: s.toList.flatMap escapeChar ++ ['"']

/-- A line feed and the blanks of a level. -/
def newline (depth : Nat) : List Char := '\n' :: List.replicate (2 * depth) ' '

mutual

/-- A value at the given level. -/
def printAt (depth : Nat) : Value → List Char
  | .bool true => ['t', 'r', 'u', 'e']
  | .bool false => ['f', 'a', 'l', 's', 'e']
  | .number n => Nat.toDigits 10 n
  | .text s => printText s
  | .list [] => ['[', ']']
  | .list (v :: vs) => '[' :: printItems (depth + 1) (v :: vs) ++ newline depth ++ [']']
  | .object [] => ['\x7b', '\x7d']
  | .object (m :: ms) => '\x7b' :: printMembers (depth + 1) (m :: ms) ++ newline depth ++ ['\x7d']

/-- The elements of a list, each on its line. -/
def printItems (depth : Nat) : List Value → List Char
  | [] => []
  | [v] => newline depth ++ printAt depth v
  | v :: vs => newline depth ++ printAt depth v ++ ',' :: printItems depth vs

/-- The members of an object, each on its line. -/
def printMembers (depth : Nat) : List (String × Value) → List Char
  | [] => []
  | [(k, v)] => newline depth ++ printText k ++ ':' :: ' ' :: printAt depth v
  | (k, v) :: ms =>
    newline depth ++ printText k ++ ':' :: ' ' :: printAt depth v ++ ',' :: printMembers depth ms

end

/-- Data as a JSON text, without a final line feed. -/
def print (v : Value) : String := String.ofList (printAt 0 v)

end ModuleDocs.Json
