/-!
# Text — Utf8

Bytes as text.  Where bytes are not well formed, the fault says from which byte on and how many
bytes belong to the broken character; a lenient reading puts one replacement character in the
place of each.
-/

namespace ModuleDocs.Text

/-- What stands at the start of some bytes. -/
inductive Utf8Head where
  /-- The bytes are used up. -/
  | done
  /-- A character of `width` bytes. -/
  | char (c : Char) (width : Nat)
  /-- `width` bytes that start no character. -/
  | invalid (width : Nat)
  /-- The bytes end within a character. -/
  | incomplete
deriving DecidableEq, Repr

/-- A byte that continues a character. -/
def isContinuation (b : UInt8) : Bool := 0x80 ≤ b && b ≤ 0xBF

/-- The bytes that may follow the first byte of a character of three bytes. -/
def secondOfThree (a b : UInt8) : Bool :=
  if a = 0xE0 then 0xA0 ≤ b && b ≤ 0xBF
  else if a = 0xED then 0x80 ≤ b && b ≤ 0x9F
  else isContinuation b

/-- The bytes that may follow the first byte of a character of four bytes. -/
def secondOfFour (a b : UInt8) : Bool :=
  if a = 0xF0 then 0x90 ≤ b && b ≤ 0xBF
  else if a = 0xF4 then 0x80 ≤ b && b ≤ 0x8F
  else isContinuation b

/-- The low bits of a byte. -/
def lowBits (b : UInt8) (bits : Nat) : Nat := b.toNat % Nat.pow 2 bits

/-- The character at the start of some bytes. -/
def utf8Head : List UInt8 → Utf8Head
  | [] => .done
  | a :: rest =>
    if a < 0x80 then .char (Char.ofNat a.toNat) 1
    else if 0xC2 ≤ a && a ≤ 0xDF then
      match rest with
      | [] => .incomplete
      | b :: _ =>
        if isContinuation b then .char (Char.ofNat (lowBits a 5 * 64 + lowBits b 6)) 2
        else .invalid 1
    else if 0xE0 ≤ a && a ≤ 0xEF then
      match rest with
      | [] => .incomplete
      | b :: rest =>
        if !secondOfThree a b then .invalid 1
        else
          match rest with
          | [] => .incomplete
          | c :: _ =>
            if isContinuation c then
              .char (Char.ofNat ((lowBits a 4 * 64 + lowBits b 6) * 64 + lowBits c 6)) 3
            else .invalid 2
    else if 0xF0 ≤ a && a ≤ 0xF4 then
      match rest with
      | [] => .incomplete
      | b :: rest =>
        if !secondOfFour a b then .invalid 1
        else
          match rest with
          | [] => .incomplete
          | c :: rest =>
            if !isContinuation c then .invalid 2
            else
              match rest with
              | [] => .incomplete
              | d :: _ =>
                if isContinuation d then
                  .char (Char.ofNat
                    (((lowBits a 3 * 64 + lowBits b 6) * 64 + lowBits c 6) * 64 + lowBits d 6)) 4
                else .invalid 3
    else .invalid 1

/-- Why bytes are not a text. -/
structure Utf8Fault where
  /-- The number of bytes that are well formed. -/
  index : Nat
  /-- The number of broken bytes; `none` if the bytes end too early. -/
  width : Option Nat
deriving DecidableEq, Repr

/-- The wording of a fault. -/
def Utf8Fault.message (f : Utf8Fault) : String :=
  match f.width with
  | some n =>
    "invalid utf-8 sequence of " ++ toString n ++ " bytes from index " ++ toString f.index
  | none => "incomplete utf-8 byte sequence from index " ++ toString f.index

/-- The text of the bytes from `index` on; `fuel` bounds the number of characters. -/
def decodeFrom : Nat → Nat → List Char → List UInt8 → Except Utf8Fault String
  | 0, _, out, _ => .ok (String.ofList out.reverse)
  | fuel + 1, index, out, bytes =>
    match utf8Head bytes with
    | .done => .ok (String.ofList out.reverse)
    | .char c width => decodeFrom fuel (index + width) (c :: out) (bytes.drop width)
    | .invalid width => .error ⟨index, some width⟩
    | .incomplete => .error ⟨index, none⟩

/-- The text of some bytes. -/
def decode (bytes : List UInt8) : Except Utf8Fault String :=
  decodeFrom (bytes.length + 1) 0 [] bytes

/-- The text of some bytes with a replacement character for each broken one; `fuel` bounds the
number of characters. -/
def decodeLossyFrom : Nat → List Char → List UInt8 → String
  | 0, out, _ => String.ofList out.reverse
  | fuel + 1, out, bytes =>
    match utf8Head bytes with
    | .done => String.ofList out.reverse
    | .char c width => decodeLossyFrom fuel (c :: out) (bytes.drop width)
    | .invalid width => decodeLossyFrom fuel ('�' :: out) (bytes.drop width)
    | .incomplete => String.ofList ('�' :: out).reverse

/-- The text of some bytes with a replacement character for each broken one. -/
def decodeLossy (bytes : List UInt8) : String := decodeLossyFrom (bytes.length + 1) [] bytes

/-- The bytes of a text. -/
def encode (s : String) : List UInt8 := s.toUTF8.toList

end ModuleDocs.Text
