import ModuleDocs.Text.Quoted
import ModuleDocs.Yaml.Number

/-!
# Yaml — Scalar

How a text is written: plain, in single quotes, in double quotes, or as a block of lines.  What the
text looks like decides which of these are allowed; the first allowed one is taken.
-/

namespace ModuleDocs.Yaml

/-! ### Characters -/

/-- A character that ends a line. -/
def isBreak (c : Char) : Bool :=
  c == '\n' || c == '\r' || c == '\x85' || c == '\u2028' || c == '\u2029'

/-- A character that can be written without an escape. -/
def isPrintable (c : Char) : Bool :=
  let n := c.toNat
  n = 0x0A || (0x20 ≤ n && n ≤ 0x7E) || (0xA0 ≤ n && n ≠ 0xFEFF && n ≠ 0xFFFE && n ≠ 0xFFFF)

/-- White space, a line's end, or the end of the text. -/
def isBlankOrEnd : Option Char → Bool
  | none => true
  | some c => c == ' ' || c == '\t' || c == '\x00' || isBreak c

/-! ### What a text looks like -/

/-- A character that may not start a plain text. -/
def startsSyntax (c : Char) : Bool := "#,[]\x7b\x7d&*!|>'\"%@\x60".toList.contains c

/-- Syntax that a plain text may not hold, from a place in it; the character before is given. -/
def holdsSyntax (before : Char) : List Char → Bool
  | [] => false
  | c :: cs =>
    (c == ':' && isBlankOrEnd cs.head?) || (c == '#' && isBlankOrEnd (some before)) ||
      holdsSyntax c cs

/-- A text with syntax in it. -/
def hasIndicators (cs : List Char) : Bool :=
  "---".toList.isPrefixOf cs || "...".toList.isPrefixOf cs ||
    match cs with
    | [] => false
    | c :: rest =>
      startsSyntax c ||
        ((c == '?' || c == ':' || c == '-') && isBlankOrEnd rest.head?) || holdsSyntax c rest

/-- Two neighbours of the given kinds stand in the text. -/
def hasPair (first second : Char → Bool) : List Char → Bool
  | a :: b :: cs => (first a && second b) || hasPair first second (b :: cs)
  | _ => false

/-- What decides how a text may be written. -/
structure Shape where
  indicators : Bool
  special : Bool
  breaks : Bool
  spaceAtEnd : Bool
  blankAtEnds : Bool
  spaceBeforeBreak : Bool
  spaceAfterBreak : Bool

/-- The shape of a text. -/
def Shape.of (cs : List Char) : Shape where
  indicators := hasIndicators cs
  special := cs.any (!isPrintable ·)
  breaks := cs.any isBreak
  spaceAtEnd := cs.getLast? == some ' '
  blankAtEnds := (cs.head?.any fun c => c == ' ' || isBreak c) ||
    (cs.getLast?.any fun c => c == ' ' || isBreak c)
  spaceBeforeBreak := hasPair (· == ' ') isBreak cs
  spaceAfterBreak := hasPair isBreak (· == ' ') cs

namespace Shape

/-- A plain text is allowed. -/
def plainAllowed (s : Shape) : Bool :=
  !(s.indicators || s.special || s.breaks || s.blankAtEnds || s.spaceBeforeBreak)

/-- Single quotes are allowed. -/
def singleAllowed (s : Shape) : Bool := !(s.special || s.spaceBeforeBreak || s.spaceAfterBreak)

/-- A block of lines is allowed. -/
def blockAllowed (s : Shape) : Bool := !(s.special || s.spaceBeforeBreak || s.spaceAtEnd)

end Shape

/-! ### Writing -/

/-- The indentation of a line. -/
def indentation (n : Nat) : List Char := List.replicate n ' '

/-- Characters with an indentation before the first one of each line; `atStart` says that a line has
just started. -/
def indentLines (indent : Nat) (write : Char → List Char) (atStart : Bool) : List Char → List Char
  | [] => []
  | c :: cs =>
    if isBreak c then c :: indentLines indent write true cs
    else
      (if atStart then indentation indent else []) ++ write c ++ indentLines indent write false cs

/-- A text in single quotes, in which a quote is written twice. -/
def single (indent : Nat) (cs : List Char) : List Char :=
  let body := indentLines indent (fun c => if c = '\'' then ['\'', '\''] else [c]) false cs
  '\'' :: body ++ (if cs.getLast?.any isBreak then indentation indent else []) ++ ['\'']

/-- Upper-case hexadecimal digits of a given number. -/
def paddedHex (width n : Nat) : List Char :=
  let digits := (Text.hexDigits n).map Char.toUpper
  List.replicate (width - digits.length) '0' ++ digits

/-- The escape of a character that has a short one. -/
def shortEscape? (c : Char) : Option Char :=
  [(0x00, '0'), (0x07, 'a'), (0x08, 'b'), (0x09, 't'), (0x0A, 'n'), (0x0B, 'v'), (0x0C, 'f'),
    (0x0D, 'r'), (0x1B, 'e'), (0x22, '"'), (0x5C, '\\'), (0x85, 'N'), (0xA0, '_'), (0x2028, 'L'),
    (0x2029, 'P')].lookup c.toNat

/-- A character inside double quotes. -/
def doubleChar (c : Char) : List Char :=
  if isPrintable c && !isBreak c && c ≠ '"' && c ≠ '\\' then [c]
  else
    match shortEscape? c with
    | some e => ['\\', e]
    | none =>
      if c.toNat ≤ 0xFF then '\\' :: 'x' :: paddedHex 2 c.toNat
      else if c.toNat ≤ 0xFFFF then '\\' :: 'u' :: paddedHex 4 c.toNat
      else '\\' :: 'U' :: paddedHex 8 c.toNat

/-- A text in double quotes. -/
def double (cs : List Char) : List Char := '"' :: cs.flatMap doubleChar ++ ['"']

/-- What follows the sign of a block: the indentation, if the text starts with white space, and how
many of the line ends at its end belong to it. -/
def blockHints (cs : List Char) : List Char :=
  let indent := if cs.head?.any fun c => c == ' ' || isBreak c then ['2'] else []
  let chomp :=
    match cs.reverse with
    | [] => ['-']
    | [c] => if isBreak c then ['+'] else ['-']
    | c :: b :: _ => if !isBreak c then ['-'] else if isBreak b then ['+'] else []
  indent ++ chomp

/-- A text as a block of lines, up to the end of its last line. -/
def block (indent : Nat) (cs : List Char) : List Char :=
  '|' :: blockHints cs ++ '\n' :: indentLines indent (fun c => [c]) true cs ++
    (if cs.getLast?.any isBreak then [] else ['\n'])

/-- A text with the end of its line.  Its own lines, if it has several, are indented. -/
def textLine (indent : Nat) (s : String) : List Char :=
  let cs := s.toList
  let shape := Shape.of cs
  if cs.contains '\n' && shape.blockAllowed then block indent cs
  else
    (if cs.contains '\n' then double cs
      else if !looksTyped s && shape.plainAllowed then cs
      else if shape.singleAllowed then single indent cs
      else double cs) ++ ['\n']

end ModuleDocs.Yaml
