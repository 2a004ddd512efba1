import ModuleDocs.Text.Blank
import ModuleDocs.Toml.Scalar

/-!
# Settings — Environment

Settings in environment variables.  The name of a variable leads to a setting: `DOCFOLD_`, then the
keys with two underscores between them, in any case.  Its value is a small notation for data in
which a word without quotes is a text; whatever is not written in it is a text as a whole.
-/

namespace ModuleDocs.Environment

/-! ### Values -/

/-- White space around values. -/
def isSpace (c : Char) : Bool := " \t\n\x0c\r".toList.contains c

/-- A character that ends a word. -/
def isSeparator (c : Char) : Bool := ",\x7b\x7d[]".toList.contains c

/-- A number with a point: digits before it, behind it or both, and perhaps an exponent. -/
def pointNumber? (cs : List Char) : Option Float := do
  let (negative, unsigned) := Toml.splitSign cs
  let whole := unsigned.takeWhile Char.isDigit
  let '.' :: rest := unsigned.drop whole.length | failure
  let fraction := rest.takeWhile Char.isDigit
  if whole.isEmpty && fraction.isEmpty then failure
  let exponent ← match rest.drop fraction.length with
    | [] => some 0
    | e :: power =>
      let (down, digits) := Toml.splitSign power
      if (e = 'e' || e = 'E') && !digits.isEmpty && digits.all Char.isDigit then
        let n : Int := Text.digitsValue 10 digits
        some (if down then -n else n)
      else none
  let x := Decimal.nearest (Text.digitsValue 10 (whole ++ fraction)) (exponent - fraction.length)
  some (if negative then -x else x)

/-- A whole number of 64 bits, with or without a sign. -/
def wholeNumber? (cs : List Char) : Option Scalar :=
  let (negative, digits) := Toml.splitSign cs
  let n := Text.digitsValue 10 digits
  if digits.isEmpty || !digits.all Char.isDigit then none
  else if negative then
    if n ≤ Nat.pow 2 63 then some (.signed (-(n : Int))) else none
  else if n < Nat.pow 2 64 then some (.unsigned n) else none

/-- What a word without quotes is: a number, or else a text. -/
def word (cs : List Char) : Scalar :=
  match if cs.contains '.' then pointNumber? cs else none with
  | some x => .float x
  | none => (wholeNumber? cs).getD (.text (String.ofList cs))

/-- A truth value, a text in quotes, a character in quotes or a word. -/
def scalar? (cs : List Char) : Option (Scalar × List Char) :=
  match cs with
  | 't' :: 'r' :: 'u' :: 'e' :: rest => some (.bool true, rest)
  | 'f' :: 'a' :: 'l' :: 's' :: 'e' :: rest => some (.bool false, rest)
  | '"' :: rest =>
    (Toml.basicText? (rest.length + 1) [] rest).map fun (s, rest) => (.text (String.ofList s), rest)
  | '\'' :: c :: '\'' :: rest => some (.char c, rest)
  | '\'' :: _ => none
  | cs =>
    let run := cs.takeWhile (!isSeparator ·)
    some (word (Text.trimChars run), cs.drop run.length)

/-- The elements between brackets, behind the opening one or a comma. -/
def items? {α : Type} (item : List Char → Option (α × List Char)) (close : Char) :
    Nat → List α → List Char → Option (List α × List Char)
  | 0, _, _ => none
  | n + 1, taken, cs =>
    if cs.head? = some close then some (taken.reverse, cs.drop 1)
    else do
      let (a, rest) ← item cs
      match rest with
      | ',' :: rest => items? item close n (a :: taken) rest
      | c :: rest => if c = close then some ((a :: taken).reverse, rest) else none
      | [] => none

/-- A key, an equals sign and a value. -/
def member? (value : List Char → Option (Datum Unit × List Char)) (cs : List Char) :
    Option ((String × Datum Unit) × List Char) := do
  let (key, rest) ← match cs.dropWhile isSpace with
    | '"' :: rest => Toml.basicText? (rest.length + 1) [] rest
    | cs =>
      let key := cs.takeWhile fun c => c.isAlphanum || c == '_' || c == '-'
      if key.isEmpty then none else some (key, cs.drop key.length)
  let '=' :: rest := rest.dropWhile isSpace | failure
  let (d, rest) ← value rest
  some ((String.ofList key, d), rest)

/-- A value of a bounded depth, with the white space around it. -/
def value? : Nat → List Char → Option (Datum Unit × List Char)
  | 0, _ => none
  | depth + 1, cs => do
    let (d, rest) ← match cs.dropWhile isSpace with
      | '\x7b' :: rest =>
        (items? (member? (value? depth)) '\x7d' (rest.length + 1) [] rest).map fun (ms, rest) =>
          (Datum.table () (ms.foldl (fun all (k, d) => Datum.insertMember k d all) []), rest)
      | '[' :: rest =>
        (items? (value? depth) ']' (rest.length + 1) [] rest).map fun (ds, rest) =>
          (Datum.list () ds, rest)
      | cs => (scalar? cs).map fun (s, rest) => (Datum.scalar () s, rest)
    some (d, rest.dropWhile isSpace)

/-- The datum that a variable's value writes. -/
def read (s : String) : Datum Unit :=
  let cs := Text.trimChars s.toList
  match value? (cs.length + 1) cs with
  | some (d, []) => d
  | _ => .scalar () (.text (String.ofList cs))

/-! ### Variables -/

/-- What the names of variables start with. -/
def mark : String := "DOCFOLD_"

/-- Two underscores become a point. -/
def joinKeys : List Char → List Char
  | '_' :: '_' :: cs => '.' :: joinKeys cs
  | c :: cs => c :: joinKeys cs
  | [] => []

/-- The keys that a variable's name leads through; an empty key ends them. -/
def keys? (name : String) : Option (List String) :=
  let cs := Text.trimChars name.toList
  if (cs.take mark.length).map Char.toUpper = mark.toList then
    let rest := joinKeys ((cs.drop mark.length).map Char.toLower)
    if rest.all Text.isBlank then none
    else some (((Text.splitChars '.' rest).takeWhile (!·.isEmpty)).map String.ofList)
  else none

/-- A datum below keys. -/
def nest (d : Datum Unit) (keys : List String) : Datum Unit :=
  keys.foldr (fun k inner => .table () [(k, inner)]) d

/-- The settings in environment variables, a later variable laid over an earlier one. -/
def settings (vars : List (String × String)) : Datum Unit :=
  (vars.filterMap fun (name, value) => (keys? name).map (nest (read value))).foldl
    Datum.merge (.table () [])

end ModuleDocs.Environment
