import ModuleDocs.Decimal.Shortest

/-!
# Decimal — Layout

How a shortest decimal is written: with a decimal point between given powers of ten, with an
exponent outside them.
-/

namespace ModuleDocs.Decimal

/-- The decisions of a number format. -/
structure Layout where
  /-- The number of digits before the point up to which the point is written; `none` for always. -/
  pointUpTo : Option Int
  /-- The number of digits before the point from which the point is written, negative for zeros
  after the point. -/
  pointFrom : Option Int
  /-- Whole numbers end in `.0`. -/
  wholeMark : Bool

/-- Numbers inside fault texts: positional from `1e-5` to below `1e16`. -/
def Layout.fault : Layout := ⟨some 16, some (-4), true⟩

/-- Numbers inside settings errors: always positional, whole numbers without a point. -/
def Layout.plain : Layout := ⟨none, none, false⟩

/-- The digits of a number written with a decimal point. -/
def pointText (wholeMark : Bool) (s : Scientific) : List Char :=
  let ds := Nat.toDigits 10 s.digits
  if s.exponent ≥ 0 then
    ds ++ List.replicate s.exponent.toNat '0' ++ (if wholeMark then ['.', '0'] else [])
  else
    let places := (-s.exponent).toNat
    if places < ds.length then
      ds.take (ds.length - places) ++ '.' :: ds.drop (ds.length - places)
    else '0' :: '.' :: List.replicate (places - ds.length) '0' ++ ds

/-- The digits of a number written with an exponent. -/
def exponentText (s : Scientific) : List Char :=
  let ds := Nat.toDigits 10 s.digits
  let e := s.exponent + (ds.length : Int) - 1
  let head := match ds with
    | d :: rest@(_ :: _) => d :: '.' :: rest
    | ds => ds
  head ++ 'e' :: (if e < 0 then '-' else '+') :: Nat.toDigits 10 e.natAbs

/-- A decimal in the given layout. -/
def Layout.digits (l : Layout) (s : Scientific) : List Char :=
  let point := s.exponent + ((Nat.toDigits 10 s.digits).length : Int)
  if l.pointUpTo.all (point ≤ ·) && l.pointFrom.all (· ≤ point) || s.digits = 0 then
    pointText l.wholeMark s
  else exponentText s

/-- A double in the given layout. -/
def Layout.text (l : Layout) (x : Float) : String :=
  if x.isNaN then "NaN"
  else
    let sign := if isNegative x then ['-'] else []
    if x.isInf then String.ofList (sign ++ ['i', 'n', 'f'])
    else String.ofList (sign ++ l.digits (shortest x))

end ModuleDocs.Decimal
