import ModuleDocs.Duration
import ModuleDocs.Text.Digits
import ModuleDocs.Text.Utf8

/-!
# Shell — Program

The programs that can be run without leaving the library.  Each takes its arguments and what it is
given to read, and says what it prints, how it ends and how long it takes.
-/

namespace ModuleDocs.Shell

/-- How a program ended. -/
structure Ended where
  stdout : List UInt8 := []
  stderr : List UInt8 := []
  status : Nat := 0
  took : Duration := ⟨0⟩
deriving DecidableEq, Repr, Inhabited

/-- A program that prints a text. -/
def prints (bytes : List UInt8) : Ended := { stdout := bytes }

/-- A program that complains and fails. -/
def complains (message : String) (status : Nat := 1) : Ended :=
  { stderr := Text.encode (message ++ "\n"), status }

/-- The bytes of characters. -/
def bytesOf (cs : List Char) : List UInt8 := Text.encode (String.ofList cs)

/-! ### Escapes -/

/-- An octal digit. -/
def isOctal (c : Char) : Bool := '0' ≤ c && c ≤ '7'

/-- The byte of an escape that is written with one letter. -/
def letterEscape? (c : Char) : Option UInt8 :=
  match c with
  | 'a' => some 7
  | 'b' => some 8
  | 'f' => some 12
  | 'n' => some 10
  | 'r' => some 13
  | 't' => some 9
  | 'v' => some 11
  | '\\' => some 92
  | _ => none

/-- An octal escape of up to three digits, behind its backslash. -/
def octalEscape? (cs : List Char) : Option (UInt8 × List Char) :=
  let digits := (cs.take 3).takeWhile isOctal
  if digits.isEmpty then none
  else some (UInt8.ofNat (Text.digitsValue 8 digits), cs.drop digits.length)

/-- Text with its backslash escapes undone. -/
def unescapeBytes : Nat → List Char → List UInt8
  | 0, _ => []
  | _, [] => []
  | n + 1, '\\' :: c :: cs =>
    match letterEscape? c, octalEscape? (c :: cs) with
    | some b, _ => b :: unescapeBytes n cs
    | none, some (b, rest) => b :: unescapeBytes n rest
    | none, none => 92 :: unescapeBytes n (c :: cs)
  | n + 1, c :: cs => bytesOf [c] ++ unescapeBytes n cs

/-- A format with its directives replaced by arguments, and the arguments left over. -/
def formatted : Nat → List Char → List String → List UInt8 × List String
  | 0, _, args => ([], args)
  | _, [], args => ([], args)
  | n + 1, '%' :: '%' :: cs, args => (fun (bs, left) => (37 :: bs, left)) (formatted n cs args)
  | n + 1, '%' :: c :: cs, args =>
    let arg := args.headD ""
    let shown :=
      if c = 'b' then unescapeBytes arg.length arg.toList
      else if c = 'd' && arg.isEmpty then [48]
      else Text.encode arg
    (fun (bs, left) => (shown ++ bs, left)) (formatted n cs args.tail)
  | n + 1, '\\' :: c :: cs, args =>
    let (b, rest) : List UInt8 × List Char :=
      match letterEscape? c, octalEscape? (c :: cs) with
      | some b, _ => ([b], cs)
      | none, some (b, rest) => ([b], rest)
      | none, none => ([92], c :: cs)
    (fun (bs, left) => (b ++ bs, left)) (formatted n rest args)
  | n + 1, c :: cs, args => (fun (bs, left) => (bytesOf [c] ++ bs, left)) (formatted n cs args)

/-- A format used again while it takes arguments and some are left. -/
def formattedAll : Nat → List Char → List String → List UInt8
  | 0, format, args => (formatted format.length format args).1
  | n + 1, format, args =>
    let (bytes, left) := formatted format.length format args
    if left.isEmpty || left.length = args.length then bytes
    else bytes ++ formattedAll n format left

/-! ### Sets of characters -/

/-- The characters of a set with ranges and escapes, as bytes. -/
def byteSet : List UInt8 → List UInt8
  | a :: 45 :: b :: rest =>
    (List.range (b.toNat + 1 - a.toNat)).map (fun k => UInt8.ofNat (a.toNat + k)) ++ byteSet rest
  | a :: rest => a :: byteSet rest
  | [] => []

/-- The characters of a named class or of a written set. -/
def setBytes (s : String) : List UInt8 :=
  match s with
  | "[:lower:]" => byteSet [97, 45, 122]
  | "[:upper:]" => byteSet [65, 45, 90]
  | "[:digit:]" => byteSet [48, 45, 57]
  | "[:alpha:]" => byteSet [65, 45, 90, 97, 45, 122]
  | "[:space:]" => [9, 10, 11, 12, 13, 32]
  | s => byteSet (unescapeBytes s.length s.toList)

/-- Each byte of the first set becomes the one at its place in the second, whose last one stands for
all places beyond it. -/
def exchange (src dst : List UInt8) (bytes : List UInt8) : List UInt8 :=
  bytes.map fun b =>
    match src.idxOf? b with
    | some i => (dst[i]?).getD (dst.getLastD b)
    | none => b

/-! ### Programs -/

/-- A number of seconds with an optional fraction. -/
def seconds? (s : String) : Option Duration :=
  match s.splitOn "." with
  | [whole] => whole.toNat?.map Duration.ofSeconds
  | [whole, fraction] =>
    let places := fraction.length
    (whole ++ fraction).toNat?.map fun n => ⟨n * 1000000000 / Nat.pow 10 places⟩
  | _ => none

/-- What a program does; nothing if there is none of that name. -/
def program? (name : String) (args : List String) (input : List UInt8) : Option Ended :=
  match name, args with
  | "cat", [] | "cat", ["-"] => some (prints input)
  | "cat", file :: _ => some (complains ("cat: " ++ file ++ ": No such file or directory"))
  | "echo", "-n" :: words => some (prints (Text.encode (" ".intercalate words)))
  | "echo", words => some (prints (Text.encode (" ".intercalate words ++ "\n")))
  | "printf", [] => some (complains "printf: missing operand")
  | "printf", format :: words => some (prints (formattedAll words.length format.toList words))
  | "true", _ => some {}
  | "false", _ => some { status := 1 }
  | "sleep", [time] =>
    match seconds? time with
    | some took => some { took }
    | none => some (complains ("sleep: invalid time interval '" ++ time ++ "'"))
  | "sleep", _ => some (complains "sleep: missing operand")
  | "tr", ["-d", set] => some (prints (input.filter fun b => !(setBytes set).contains b))
  | "tr", [src, dst] => some (prints (exchange (setBytes src) (setBytes dst) input))
  | "tr", _ => some (complains "tr: missing operand")
  | _, _ => none

end ModuleDocs.Shell
