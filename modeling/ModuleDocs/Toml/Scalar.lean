import ModuleDocs.Datum
import ModuleDocs.Decimal.Nearest
import ModuleDocs.Text.Digits
import ModuleDocs.Text.Split

/-!
# Toml — Scalar

Texts, numbers, truth values and dates as TOML writes them.  A reader gives what it has read and the
text behind it.
-/

namespace ModuleDocs.Toml

/-! ### Texts -/

/-- A control character that no text and no comment may hold. -/
def isControl (c : Char) : Bool := (c < ' ' && c != '\t') || c == '\x7f'

/-- The character of a code written in a fixed number of hexadecimal digits. -/
def codeChar? (width : Nat) (cs : List Char) : Option (Char × List Char) :=
  let digits := cs.take width
  let n := Text.digitsValue 16 digits
  if digits.length = width && digits.all (fun c => (Text.hexValue? c).isSome) && n.isValidChar then
    some (Char.ofNat n, cs.drop width)
  else none

/-- The character of an escape, behind its backslash. -/
def escape? : List Char → Option (Char × List Char)
  | 'b' :: cs => some ('\x08', cs)
  | 't' :: cs => some ('\t', cs)
  | 'n' :: cs => some ('\n', cs)
  | 'f' :: cs => some ('\x0c', cs)
  | 'r' :: cs => some ('\r', cs)
  | '"' :: cs => some ('"', cs)
  | '\\' :: cs => some ('\\', cs)
  | 'u' :: cs => codeChar? 4 cs
  | 'U' :: cs => codeChar? 8 cs
  | _ => none

/-- A text in double quotes on one line, behind the first quote. -/
def basicText? : Nat → List Char → List Char → Option (List Char × List Char)
  | 0, _, _ | _, _, [] => none
  | n + 1, taken, c :: cs =>
    if c = '"' then some (taken.reverse, cs)
    else if c = '\\' then (escape? cs).bind fun (e, rest) => basicText? n (e :: taken) rest
    else if isControl c then none
    else basicText? n (c :: taken) cs

/-- A text in single quotes on one line, behind the first quote. -/
def literalText? (taken : List Char) : List Char → Option (List Char × List Char)
  | [] => none
  | c :: cs =>
    if c = '\'' then some (taken.reverse, cs)
    else if isControl c then none
    else literalText? (c :: taken) cs

/-- The text behind spaces and tabs. -/
def skipSpace (cs : List Char) : List Char := cs.dropWhile fun c => c == ' ' || c == '\t'

/-- The text behind the end of a line that stands here. -/
def behindNewline? : List Char → Option (List Char)
  | '\n' :: cs => some cs
  | '\r' :: '\n' :: cs => some cs
  | _ => none

/-- The text behind all white space and line ends. -/
def skipBlank : Nat → List Char → List Char
  | 0, cs => cs
  | n + 1, cs =>
    match behindNewline? (skipSpace cs) with
    | some rest => skipBlank n rest
    | none => skipSpace cs

/-- A text of several lines, behind its three quotes and the line end that may follow them.  Up to
two quotes may stand before the closing ones.  Escapes are undone only if asked for; a backslash at
the end of a line then joins the lines. -/
def linesText? (quote : Char) (escapes : Bool) :
    Nat → List Char → List Char → Option (List Char × List Char)
  | 0, _, _ | _, _, [] => none
  | n + 1, taken, c :: cs =>
    if c = quote then
      let run := (c :: cs).takeWhile (· == quote)
      let rest := (c :: cs).drop run.length
      if run.length < 3 then linesText? quote escapes n (run ++ taken) rest
      else if run.length ≤ 5 then some ((run.drop 3 ++ taken).reverse, rest)
      else none
    else if c = '\\' && escapes then
      match behindNewline? (skipSpace cs) with
      | some rest => linesText? quote escapes n taken (skipBlank rest.length rest)
      | none => (escape? cs).bind fun (e, rest) => linesText? quote escapes n (e :: taken) rest
    else
      match behindNewline? (c :: cs) with
      | some rest => linesText? quote escapes n ('\n' :: taken) rest
      | none => if isControl c then none else linesText? quote escapes n (c :: taken) cs

/-- A text on one line. -/
def lineText? : List Char → Option (List Char × List Char)
  | '"' :: cs => basicText? (cs.length + 1) [] cs
  | '\'' :: cs => literalText? [] cs
  | _ => none

/-- A text. -/
def text? (cs : List Char) : Option (List Char × List Char) :=
  let lines (quote : Char) (rest : List Char) : Option (List Char × List Char) :=
    let body := (behindNewline? rest).getD rest
    linesText? quote (quote == '"') (body.length + 1) [] body
  match cs with
  | '"' :: '"' :: '"' :: rest => lines '"' rest
  | '\'' :: '\'' :: '\'' :: rest => lines '\'' rest
  | cs => lineText? cs

/-! ### Numbers -/

/-- Digits with single underscores between them, without the underscores. -/
def joinedDigits? (isDigit : Char → Bool) (cs : List Char) : Option (List Char) :=
  let parts := Text.splitChars '_' cs
  if parts.all (fun p => !p.isEmpty && p.all isDigit) then some parts.flatten else none

/-- The sign and what follows it. -/
def splitSign : List Char → Bool × List Char
  | '-' :: cs => (true, cs)
  | '+' :: cs => (false, cs)
  | cs => (false, cs)

/-- The decimal digits of a whole number, which has no zero before other digits. -/
def wholeDigits? (cs : List Char) : Option (List Char) :=
  if cs.head? = some '0' && cs.length > 1 then none else joinedDigits? Char.isDigit cs

/-- A number of a base, behind the mark of the base. -/
def inBase? (base : Nat) (cs : List Char) : Option Int :=
  (joinedDigits? (fun c => (Text.hexValue? c).any (· < base)) cs).map fun ds =>
    (Text.digitsValue base ds : Int)

/-- A whole number of 64 bits. -/
def integer? (cs : List Char) : Option Int :=
  let n : Option Int :=
    match cs with
    | '0' :: 'x' :: digits => inBase? 16 digits
    | '0' :: 'o' :: digits => inBase? 8 digits
    | '0' :: 'b' :: digits => inBase? 2 digits
    | cs =>
      let (negative, digits) := splitSign cs
      (wholeDigits? digits).map fun ds =>
        let n : Int := Text.digitsValue 10 ds
        if negative then -n else n
  n.filter fun n => -(Nat.pow 2 63 : Int) ≤ n && n < Nat.pow 2 63

/-- The exponent of a number, with its mark. -/
def exponent? : List Char → Option Int
  | [] => some 0
  | e :: cs =>
    if e = 'e' || e = 'E' then
      let (negative, digits) := splitSign cs
      (joinedDigits? Char.isDigit digits).map fun ds =>
        let n : Int := Text.digitsValue 10 ds
        if negative then -n else n
    else none

/-- A floating-point number: a fraction, an exponent or both follow a whole number.  It may not be
too large. -/
def float? (cs : List Char) : Option Float := do
  let (negative, unsigned) := splitSign cs
  let sign (x : Float) : Float := if negative then -x else x
  if unsigned = "inf".toList then return sign (1.0 / 0.0)
  if unsigned = "nan".toList then return sign (0.0 / 0.0)
  let isDigitOrBar := fun c : Char => c.isDigit || c == '_'
  let whole := unsigned.takeWhile isDigitOrBar
  let rest := unsigned.drop whole.length
  let wholeDigits ← wholeDigits? whole
  let (fraction, rest) ← match rest with
    | '.' :: rest =>
      (joinedDigits? Char.isDigit (rest.takeWhile isDigitOrBar)).map
        (·, rest.dropWhile isDigitOrBar)
    | [] => none
    | rest => some ([], rest)
  let exponent ← exponent? rest
  let digits := Text.digitsValue 10 (wholeDigits ++ fraction)
  let x := Decimal.nearest digits (exponent - fraction.length)
  if x.isInf && !negative then none else some (sign x)

/-! ### Dates -/

/-- A number of a fixed count of digits. -/
def fixedNumber? (width : Nat) (cs : List Char) : Option (Nat × List Char) :=
  let digits := cs.take width
  if digits.length = width && digits.all Char.isDigit then
    some (Text.digitsValue 10 digits, cs.drop width)
  else none

/-- The text behind a character. -/
def behindChar? (mark : Char) : List Char → Option (List Char)
  | c :: cs => if c = mark then some cs else none
  | [] => none

/-- The days of a month. -/
def daysIn (year month : Nat) : Nat :=
  if month = 2 then
    if year % 4 = 0 && (year % 100 ≠ 0 || year % 400 = 0) then 29 else 28
  else if [4, 6, 9, 11].contains month then 30
  else 31

/-- The text behind a day of the calendar. -/
def behindDate? (cs : List Char) : Option (List Char) := do
  let (year, cs) ← fixedNumber? 4 cs
  let (month, cs) ← (behindChar? '-' cs).bind (fixedNumber? 2)
  let (day, cs) ← (behindChar? '-' cs).bind (fixedNumber? 2)
  if 1 ≤ month && month ≤ 12 && 1 ≤ day && day ≤ daysIn year month then some cs else none

/-- The text behind a time of day. -/
def behindTime? (cs : List Char) : Option (List Char) := do
  let (hour, cs) ← fixedNumber? 2 cs
  let (minute, cs) ← (behindChar? ':' cs).bind (fixedNumber? 2)
  let (second, cs) ← (behindChar? ':' cs).bind (fixedNumber? 2)
  if hour > 23 || minute > 59 || second > 60 then failure
  match cs with
  | '.' :: fraction =>
    if fraction.head?.any Char.isDigit then some (fraction.dropWhile Char.isDigit) else none
  | cs => some cs

/-- The text behind the offset of a time from the standard one. -/
def behindOffset? (cs : List Char) : Option (List Char) :=
  match cs with
  | 'Z' :: rest | 'z' :: rest => some rest
  | '+' :: rest | '-' :: rest => do
    let (hour, rest) ← fixedNumber? 2 rest
    let (minute, rest) ← (behindChar? ':' rest).bind (fixedNumber? 2)
    if hour ≤ 23 && minute ≤ 59 then some rest else none
  | _ => none

/-- The text behind a date, a time or both. -/
def behindMoment? (cs : List Char) : Option (List Char) :=
  match behindDate? cs with
  | some rest =>
    match rest with
    | mark :: time =>
      if mark = 'T' || mark = 't' || mark = ' ' then
        match behindTime? time with
        | some rest => some ((behindOffset? rest).getD rest)
        | none => some rest
      else some rest
    | [] => some []
  | none => behindTime? cs

/-- The key under which a date is a member of a table of its own. -/
def momentKey : String := "$__toml_private_datetime"

/-! ### Scalars -/

/-- A character of a number or a word. -/
def isWordChar (c : Char) : Bool := c.isAlphanum || "+-._:".toList.contains c

/-- A word that is a number or a truth value. -/
def word? (cs : List Char) : Option Scalar :=
  if cs = "true".toList then some (.bool true)
  else if cs = "false".toList then some (.bool false)
  else
    match integer? cs with
    | some n => some (.signed n)
    | none => (float? cs).map .float

/-- A scalar; a date is a table with its text. -/
def scalar? (cs : List Char) : Option (Datum Unit × List Char) :=
  match text? cs with
  | some (s, rest) => some (.scalar () (.text (String.ofList s)), rest)
  | none =>
    match behindMoment? cs with
    | some rest =>
      let shown := String.ofList (cs.take (cs.length - rest.length))
      some (.table () [(momentKey, .scalar () (.text shown))], rest)
    | none =>
      let word := cs.takeWhile isWordChar
      (word? word).map fun s => (.scalar () s, cs.drop word.length)

end ModuleDocs.Toml
