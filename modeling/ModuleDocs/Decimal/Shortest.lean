/-!
# Decimal — Shortest

The fewest decimal digits that read back as a given double.  The double is `mant · 2 ^ expo`; the
reals that round to it form an interval, and for one digit, two digits and so on the two decimals
next to the double are tried until one lies in the interval.
-/

namespace ModuleDocs.Decimal

/-- The number `digits · 10 ^ exponent`, with no trailing zero digit. -/
structure Scientific where
  digits : Nat
  exponent : Int
deriving DecidableEq, Repr

/-- Moves trailing zeros of the digits into the exponent; `fuel` bounds their number. -/
def Scientific.strip : Nat → Scientific → Scientific
  | 0, s => s
  | fuel + 1, s =>
    if s.digits ≠ 0 ∧ s.digits % 10 = 0 then strip fuel ⟨s.digits / 10, s.exponent + 1⟩ else s

/-- The greatest `k` with `10 ^ k ≤ num / den`. -/
def decimalExponent (num den : Nat) : Int :=
  if num ≥ den then ((Nat.toDigits 10 (num / den)).length : Int) - 1
  else
    -- One over the number, rounded up, has as many digits as there are places to shift.
    -(((Nat.toDigits 10 ((den - 1) / num)).length : Int))

/-- The decimal of `n` digits nearest to `num / den` within `lo / den … hi / den`, if there is
one; the ends count when `closed`. -/
def gridPoint? (num lo hi den : Nat) (closed : Bool) (n : Nat) : Option Scientific :=
  let k := decimalExponent num den - (n : Int) + 1
  let p := Nat.pow 10 k.toNat
  let q := Nat.pow 10 (-k).toNat
  let below := num * q / (den * p)
  let within (d : Nat) : Bool :=
    let x := d * p * den
    if closed then lo * q ≤ x && x ≤ hi * q else lo * q < x && x < hi * q
  let above := below + 1
  let distBelow := num * q - below * p * den
  let distAbove := above * p * den - num * q
  match within below, within above with
  | true, true => some ⟨if distBelow < distAbove then below else above, k⟩
  | true, false => some ⟨below, k⟩
  | false, true => some ⟨above, k⟩
  | false, false => none

/-- The shortest decimal of the double `mant · 2 ^ expo`, whose lower neighbour is half a step
closer when `narrow`.  Seventeen digits always suffice. -/
def shortestOf (mant : Nat) (expo : Int) (narrow : Bool) : Scientific :=
  let up := Nat.pow 2 (expo - 2).toNat
  let den := Nat.pow 2 (2 - expo).toNat
  let num := 4 * mant * up
  let lo := (4 * mant - (if narrow then 1 else 2)) * up
  let hi := (4 * mant + 2) * up
  let found := (List.range 17).findSome? fun i => gridPoint? num lo hi den (mant % 2 = 0) (i + 1)
  (found.getD ⟨mant, expo⟩).strip 20

/-- The shortest decimal of a finite double's magnitude. -/
def shortest (x : Float) : Scientific :=
  let bits := x.toBits.toNat
  let field : Nat := bits / Nat.pow 2 52 % Nat.pow 2 11
  let frac : Nat := bits % Nat.pow 2 52
  if field = 0 then
    if frac = 0 then ⟨0, 0⟩ else shortestOf frac (-1074) false
  else shortestOf (Nat.pow 2 52 + frac) ((field : Int) - 1075) (frac = 0 && field > 1)

/-- The sign bit of a double. -/
def isNegative (x : Float) : Bool := x.toBits.toNat / Nat.pow 2 63 = 1

end ModuleDocs.Decimal
