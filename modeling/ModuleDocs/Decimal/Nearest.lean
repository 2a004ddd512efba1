/-!
# Decimal — Nearest

The double nearest to a quotient of natural numbers, computed with exact integers.  A half goes
to the even neighbour, and what lies beyond the largest double is infinite.
-/

namespace ModuleDocs.Decimal

/-- The quotient rounded to a natural number, a half to the even neighbour. -/
def roundDiv (num den : Nat) : Nat :=
  let q := num / den
  let r := num % den
  if 2 * r < den then q
  else if 2 * r > den then q + 1
  else if q % 2 = 0 then q else q + 1

/-- The exponent `e` with `2 ^ 52 ≤ (num / den) / 2 ^ e < 2 ^ 53`, but none below `-1074`. -/
def binaryExponent (num den : Nat) : Int :=
  let guess : Int := (num.log2 : Int) - (den.log2 : Int) - 52
  -- The quotient of the leading powers of two is off by at most a factor of two.
  let small : Bool :=
    if guess ≥ 0 then num < den * Nat.pow 2 (52 + guess.toNat)
    else num * Nat.pow 2 (-guess).toNat < den * Nat.pow 2 52
  max (-1074) (if small then guess - 1 else guess)

/-- The bits of the non-negative double nearest to `num / den`. -/
def nearestBits (num den : Nat) : UInt64 :=
  if num = 0 then 0
  else
    let e := binaryExponent num den
    let m :=
      if e ≥ 0 then roundDiv num (den * Nat.pow 2 e.toNat)
      else roundDiv (num * Nat.pow 2 (-e).toNat) den
    -- Adding the significand carries into the exponent field where rounding reaches a power of two.
    let bits := if m < Nat.pow 2 52 then m else (e + 1074).toNat * Nat.pow 2 52 + m
    if bits ≥ 0x7FF0000000000000 then 0x7FF0000000000000 else UInt64.ofNat bits

/-- The double nearest to `digits · 10 ^ exponent`. -/
def nearest (digits : Nat) (exponent : Int) : Float :=
  Float.ofBits <|
    if exponent ≥ 0 then
      -- Past 400 decimal places nothing but zero is finite.
      nearestBits (digits * Nat.pow 10 (min exponent.toNat 400)) 1
    else
      nearestBits digits
        (Nat.pow 10 (min (-exponent).toNat (400 + (Nat.toDigits 10 digits).length)))

end ModuleDocs.Decimal
