import ModuleDocs.Decimal.Nearest
import ModuleDocs.Text.Digits

/-!
# Yaml — Number

Texts that a reader of YAML would take for nothing, a truth value or a number.
-/

namespace ModuleDocs.Yaml

/-- A text for nothing. -/
def isNull (s : String) : Bool := ["", "~", "null", "Null", "NULL"].contains s

/-- A text for a truth value. -/
def isBool (s : String) : Bool := ["true", "True", "TRUE", "false", "False", "FALSE"].contains s

/-- Zeros before more digits, which make a text that is no number. -/
def hasLeadingZero (cs : List Char) : Bool :=
  let digits := match cs with
    | '-' :: rest | '+' :: rest => rest
    | rest => rest
  match digits with
  | '0' :: c :: rest => (c :: rest).all Char.isDigit
  | _ => false

/-- The number that digits of a base spell, if they are digits of it. -/
def inBase? (base : Nat) (cs : List Char) : Option Nat :=
  if !cs.isEmpty && cs.all (fun c => (Text.hexValue? c).any (· < base)) then
    some (Text.digitsValue base cs)
  else none

/-- The magnitude of an integer without its sign. -/
def magnitude? : List Char → Option Nat
  | '0' :: 'x' :: digits => inBase? 16 digits
  | '0' :: 'o' :: digits => inBase? 8 digits
  | '0' :: 'b' :: digits => inBase? 2 digits
  | digits => inBase? 10 digits

/-- A text for an integer of up to 128 bits. -/
def isInteger (cs : List Char) : Bool :=
  !hasLeadingZero cs &&
    match cs with
    | '-' :: rest => (magnitude? rest).any (· ≤ Nat.pow 2 127)
    | '+' :: rest => (magnitude? rest).any (· < Nat.pow 2 128)
    | rest => (magnitude? rest).any (· < Nat.pow 2 128)

/-- The digits and the exponent of an unsigned decimal number. -/
def decimal? (cs : List Char) : Option (Nat × Int) :=
  let whole := cs.takeWhile Char.isDigit
  let rest := cs.drop whole.length
  let (fraction, rest) : List Char × List Char :=
    match rest with
    | '.' :: rest => (rest.takeWhile Char.isDigit, rest.dropWhile Char.isDigit)
    | rest => ([], rest)
  let exponent : Option Int :=
    match rest with
    | [] => some 0
    | e :: rest =>
      if e = 'e' || e = 'E' then
        match rest with
        | '-' :: digits => (inBase? 10 digits).map fun n => -(n : Int)
        | '+' :: digits => (inBase? 10 digits).map fun n => (n : Int)
        | digits => (inBase? 10 digits).map fun n => (n : Int)
      else none
  if whole.isEmpty && fraction.isEmpty then none
  else exponent.map fun e => (Text.digitsValue 10 (whole ++ fraction), e - fraction.length)

/-- A decimal number that does not exceed every floating-point number. -/
def isFinite (digits : Nat) (exponent : Int) : Bool :=
  let size := (Nat.toDigits 10 digits).length + exponent
  digits = 0 || size < -400 || (size < 400 && !(Decimal.nearest digits exponent).isInf)

/-- A text for a floating-point number. -/
def isFloat (cs : List Char) : Bool :=
  let s := String.ofList cs
  let unsigned := match cs with
    | '-' :: rest | '+' :: rest => rest
    | rest => rest
  [".inf", ".Inf", ".INF", "+.inf", "+.Inf", "+.INF", "-.inf", "-.Inf", "-.INF", ".nan", ".NaN",
    ".NAN"].contains s ||
    (!hasLeadingZero cs &&
      (decimal? unsigned).any fun (digits, exponent) => isFinite digits exponent)

/-- A text that would not be read back as a text. -/
def looksTyped (s : String) : Bool :=
  let cs := s.toList
  isNull s || isBool s || isInteger cs || isFloat cs || hasLeadingZero cs

end ModuleDocs.Yaml
