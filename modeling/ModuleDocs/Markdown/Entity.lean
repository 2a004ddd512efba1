import ModuleDocs.Markdown.EntityTable
import ModuleDocs.Text.Digits

/-!
# Markdown — Entity

Character references: `&name;`, `&#decimal;` and `&#xhexadecimal;`.  A number that names no
character stands for the replacement character.
-/

namespace ModuleDocs.Markdown

/-- The character with a code, or the replacement character. -/
def charOfCode (n : Nat) : Char :=
  if n = 0 || (0xD800 ≤ n && n ≤ 0xE000) || n ≥ 0x110000 then '�' else Char.ofNat n

/-- The characters that the words of a table line give to a name. -/
def entityIn (name : String) : List String → Option (List Char)
  | key :: codes :: rest =>
    if key = name then
      some ((codes.splitOn "+").map fun code => Char.ofNat (Text.digitsValue 16 code.toList))
    else entityIn name rest
  | _ => none

/-- The characters of a named reference. -/
def entity? (name : List Char) : Option (List Char) :=
  entityLines.findSome? fun line => entityIn (String.ofList name) (line.splitOn " ")

/-- A numeric reference, the text behind its `#` given: at most seven decimal or six hexadecimal
digits. -/
def numericReference? (cs : List Char) : Option (List Char × List Char) :=
  let (base, limit, digits, rest) : Nat × Nat × List Char × List Char :=
    match cs with
    | 'x' :: hex | 'X' :: hex =>
      (16, 6, hex.takeWhile (Text.hexValue? · |>.isSome),
        hex.dropWhile (Text.hexValue? · |>.isSome))
    | _ => (10, 7, cs.takeWhile Char.isDigit, cs.dropWhile Char.isDigit)
  match rest with
  | ';' :: rest =>
    if 1 ≤ digits.length && digits.length ≤ limit then
      some ([charOfCode (Text.digitsValue base digits)], rest)
    else none
  | _ => none

/-- A named reference, the text behind its `&` given.  A name has two to thirty-one letters. -/
def namedReference? (cs : List Char) : Option (List Char × List Char) :=
  let name := (cs.take 32).takeWhile fun c => c != ' ' && c != ';'
  match cs.drop name.length with
  | ';' :: rest =>
    if 2 ≤ name.length && name.length ≤ 31 then (entity? name).map (·, rest) else none
  | _ => none

/-- A reference, the text behind its `&` given: what it stands for and the text behind it. -/
def reference? (cs : List Char) : Option (List Char × List Char) :=
  match cs with
  | '#' :: number => numericReference? number
  | _ => namedReference? cs

/-- Replaces references, with a bound on the number of steps. -/
def decodeReferencesFrom : Nat → List Char → List Char
  | 0, cs => cs
  | _, [] => []
  | n + 1, c :: cs =>
    if c = '&' then
      match reference? cs with
      | some (chars, rest) => chars ++ decodeReferencesFrom n rest
      | none => c :: decodeReferencesFrom n cs
    else c :: decodeReferencesFrom n cs

/-- The characters with their references replaced. -/
def decodeReferences (cs : List Char) : List Char := decodeReferencesFrom cs.length cs

end ModuleDocs.Markdown
