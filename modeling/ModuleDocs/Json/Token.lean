import ModuleDocs.Decimal.Layout
import ModuleDocs.Decimal.Nearest
import ModuleDocs.Json.Fault

/-!
# Json — Token

The words of a JSON text: blanks, names, strings and numbers.  A reader takes the characters still
to be read and gives what it read with the characters after it, or the first fault.
-/

namespace ModuleDocs.Json

/-- Characters still to be read. -/
abbrev Input := List Char

/-- A reader of values. -/
abbrev Reader (α : Type) := Input → Except Fault (α × Input)

/-- The blanks of JSON. -/
def isSpace (c : Char) : Bool := c = ' ' || c = '\t' || c = '\n' || c = '\r'

/-- Passes over blanks. -/
def skipSpace (s : Input) : Input := s.dropWhile isSpace

/-- Reads the characters of a word. -/
def readWord : List Char → Input → Except Fault Input
  | [], s => .ok s
  | _ :: _, [] => .error (.eof .value)
  | w :: ws, c :: s => if c = w then readWord ws s else .error .expectedIdent

/-! ### Strings -/

/-- The value of a hexadecimal digit. -/
def hexValue? (c : Char) : Option Nat :=
  if '0' ≤ c ∧ c ≤ '9' then some (c.toNat - 48)
  else if 'a' ≤ c ∧ c ≤ 'f' then some (c.toNat - 87)
  else if 'A' ≤ c ∧ c ≤ 'F' then some (c.toNat - 55)
  else none

/-- The number written by four hexadecimal digits. -/
def hex4? (a b c d : Char) : Option Nat := do
  let a ← hexValue? a
  let b ← hexValue? b
  let c ← hexValue? c
  let d ← hexValue? d
  return ((a * 16 + b) * 16 + c) * 16 + d

/-- The fault of an escape for which four characters are not left: the text ends inside it unless
the characters that are left fill four bytes. -/
def shortHex (s : Input) : Fault :=
  if (String.ofList s).utf8ByteSize < 4 then .eof .string else .invalidEscape

/-- The character that a one-letter escape stands for. -/
def letterEscape? : Char → Option Char
  | '"' => some '"'
  | '\\' => some '\\'
  | '/' => some '/'
  | 'b' => some '\x08'
  | 'f' => some '\x0c'
  | 'n' => some '\n'
  | 'r' => some '\r'
  | 't' => some '\t'
  | _ => none

/-- A code unit that starts a surrogate pair. -/
def isLeading (n : Nat) : Bool := 0xD800 ≤ n && n ≤ 0xDBFF

/-- A code unit that ends a surrogate pair. -/
def isTrailing (n : Nat) : Bool := 0xDC00 ≤ n && n ≤ 0xDFFF

/-- The character of a surrogate pair. -/
def joinSurrogates (hi lo : Nat) : Char :=
  Char.ofNat ((hi - 0xD800) * 0x400 + (lo - 0xDC00) + 0x10000)

/-- Reads the rest of a string, whose opening quote and the characters `out`, last first, have
been read. -/
def readStringAfter (out : List Char) : Input → Except Fault (String × Input)
  | [] => .error (.eof .string)
  | c :: s =>
    if c = '"' then .ok (String.ofList out.reverse, s)
    else if c = '\\' then
      match s with
      | [] => .error (.eof .string)
      | e :: s =>
        match letterEscape? e with
        | some x => readStringAfter (x :: out) s
        | none =>
          if e ≠ 'u' then .error .invalidEscape
          else
            match s with
            | h₁ :: h₂ :: h₃ :: h₄ :: s =>
              match hex4? h₁ h₂ h₃ h₄ with
              | none => .error .invalidEscape
              | some n =>
                if isTrailing n then .error .loneSurrogate
                else if !isLeading n then readStringAfter (Char.ofNat n :: out) s
                else
                  match s with
                  | [] => .error (.eof .string)
                  | b :: s =>
                    if b ≠ '\\' then .error .unexpectedEndOfHexEscape
                    else
                      match s with
                      | [] => .error (.eof .string)
                      | u :: s =>
                        if u ≠ 'u' then .error .unexpectedEndOfHexEscape
                        else
                          match s with
                          | l₁ :: l₂ :: l₃ :: l₄ :: s =>
                            match hex4? l₁ l₂ l₃ l₄ with
                            | none => .error .invalidEscape
                            | some m =>
                              if isTrailing m then
                                readStringAfter (joinSurrogates n m :: out) s
                              else .error .loneSurrogate
                          | s => .error (shortHex s)
            | s => .error (shortHex s)
    else if c.toNat < 0x20 then .error .controlCharacter
    else readStringAfter (c :: out) s

/-- Reads a string whose opening quote has been read. -/
def readString (s : Input) : Except Fault (String × Input) := readStringAfter [] s

/-- Passes over a string whose opening quote has been read.  Only its syntax is looked at: an
escape may name half of a surrogate pair. -/
def skipString : Input → Except Fault Input
  | [] => .error (.eof .string)
  | c :: s =>
    if c = '"' then .ok s
    else if c = '\\' then
      match s with
      | [] => .error (.eof .string)
      | e :: s =>
        match letterEscape? e with
        | some _ => skipString s
        | none =>
          if e ≠ 'u' then .error .invalidEscape
          else
            match s with
            | h₁ :: h₂ :: h₃ :: h₄ :: s =>
              if (hex4? h₁ h₂ h₃ h₄).isSome then skipString s else .error .invalidEscape
            | s => .error (shortHex s)
    else if c.toNat < 0x20 then .error .controlCharacter
    else skipString s

/-! ### Numbers -/

/-- A number that was read: a whole number of at most 64 bits, or a double. -/
inductive Number where
  | integer (n : Int)
  | float (x : Float)

/-- The number as a fault names it. -/
def Number.found : Number → Found
  | .integer n => .integer n
  | .float x => .float (Decimal.Layout.fault.text x)

/-- The greatest significand that is kept digit by digit. -/
def maxSignificand : Nat := Nat.pow 2 64 - 1

/-- Appends digits to a significand until the next one would not fit; gives the significand, the
number of digits that went in and the number that did not. -/
def absorb (sig : Nat) : List Char → Nat × Nat × Nat
  | [] => (sig, 0, 0)
  | d :: ds =>
    let next := sig * 10 + (d.toNat - 48)
    if next ≤ maxSignificand then
      let (sig, taken, left) := absorb next ds
      (sig, taken + 1, left)
    else (sig, 0, ds.length + 1)

/-- The double `sig · 10 ^ e`: the significand, then one multiplication or division by a power of
ten, each rounded. -/
def scaled (negative : Bool) (sig : Nat) (e : Int) : Except Fault Float :=
  let sign (x : Float) : Float := if negative then -x else x
  let f := (UInt64.ofNat sig).toFloat
  if e ≥ 0 then
    if e ≤ 308 then
      let x := f * Decimal.nearest 1 e
      if x.isInf then .error .numberOutOfRange else .ok (sign x)
    else if sig = 0 then .ok (sign f) else .error .numberOutOfRange
  else
    let places := (-e).toNat
    if places ≤ 308 then .ok (sign (f / Decimal.nearest 1 places))
    else
      let g := f / Decimal.nearest 1 308
      -- Two divisions by the greatest power leave nothing but zero.
      if places ≤ 616 then .ok (sign (g / Decimal.nearest 1 (places - 308 : Nat)))
      else .ok (sign (g / Decimal.nearest 1 308 / Decimal.nearest 1 308))

/-- The greatest exponent that is kept digit by digit. -/
def maxExponent : Nat := Nat.pow 2 31 - 1

/-- Reads the exponent of a number, whose mark has been read. -/
def readExponent (negative : Bool) (sig : Nat) (e : Int) (s : Input) :
    Except Fault (Number × Input) :=
  let (down, s) := match s with
    | '+' :: s => (false, s)
    | '-' :: s => (true, s)
    | s => (false, s)
  match s with
  | [] => .error (.eof .value)
  | c :: _ =>
    if !c.isDigit then .error .invalidNumber
    else
      let ds := s.takeWhile Char.isDigit
      let rest := s.dropWhile Char.isDigit
      let n := Nat.ofDigitChars 10 ds 0
      if n > maxExponent then
        if sig ≠ 0 && !down then .error .numberOutOfRange
        else .ok (.float (if negative then -0.0 else 0.0), rest)
      else do
        let x ← scaled negative sig (if down then e - n else e + n)
        .ok (.float x, rest)

/-- Reads the fraction of a number, whose point has been read. -/
def readFraction (negative : Bool) (sig : Nat) (e : Int) (s : Input) :
    Except Fault (Number × Input) :=
  let ds := s.takeWhile Char.isDigit
  let rest := s.dropWhile Char.isDigit
  if ds.isEmpty then .error (if rest.isEmpty then .eof .value else .invalidNumber)
  else
    let (sig, taken, _) := absorb sig ds
    let e := e - taken
    match rest with
    | c :: s =>
      if c = 'e' || c = 'E' then readExponent negative sig e s
      else do .ok (.float (← scaled negative sig e), rest)
    | [] => do .ok (.float (← scaled negative sig e), [])

/-- The whole number of a significand.  Zero below zero, and what does not fit 64 bits, is a
double. -/
def wholeNumber (negative : Bool) (sig : Nat) : Number :=
  if !negative then .integer sig
  else if sig = 0 || sig > Nat.pow 2 63 then .float (-(UInt64.ofNat sig).toFloat)
  else .integer (-(sig : Int))

/-- Reads a number, whose sign has been read. -/
def readNumber (negative : Bool) : Input → Except Fault (Number × Input)
  | [] => .error (.eof .value)
  | c :: s =>
    if !c.isDigit then .error .invalidNumber
    else if c = '0' && (s.head?.any Char.isDigit) then .error .invalidNumber
    else
      let ds := (c :: s).takeWhile Char.isDigit
      let rest := (c :: s).dropWhile Char.isDigit
      let (sig, _, left) := absorb 0 ds
      match rest with
      | '.' :: s => readFraction negative sig left s
      | 'e' :: s | 'E' :: s => readExponent negative sig left s
      | rest =>
        if left = 0 then .ok (wholeNumber negative sig, rest)
        else do .ok (.float (← scaled negative sig left), rest)

/-- Passes over digits, of which there must be one. -/
def skipDigits (s : Input) : Except Fault Input :=
  if s.head?.any Char.isDigit then .ok (s.dropWhile Char.isDigit) else .error .invalidNumber

/-- Passes over the exponent of a number, if it has one. -/
def skipExponent (s : Input) : Except Fault Input :=
  match s with
  | 'e' :: s | 'E' :: s =>
    match s with
    | '+' :: s | '-' :: s => skipDigits s
    | s => skipDigits s
  | s => .ok s

/-- Passes over a number, whose sign has been read.  Only its syntax is looked at. -/
def skipNumber : Input → Except Fault Input
  | [] => .error .invalidNumber
  | c :: s =>
    if !c.isDigit then .error .invalidNumber
    else if c = '0' && (s.head?.any Char.isDigit) then .error .invalidNumber
    else
      match (c :: s).dropWhile Char.isDigit with
      | '.' :: s => do skipExponent (← skipDigits s)
      | s => skipExponent s

end ModuleDocs.Json
