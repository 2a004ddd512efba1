/-!
# Duration

A span of time and its text: the largest unit of which it holds one, with as many decimal places
as the rest needs.
-/

namespace ModuleDocs

/-- A span of time. -/
structure Duration where
  nanos : Nat
deriving DecidableEq, Repr

namespace Duration

/-- Whole seconds. -/
def ofSeconds (n : Nat) : Duration := ⟨n * 1000000000⟩

/-- The digits of `part` behind a decimal point of `places` places, without trailing zeros. -/
def fraction (part places : Nat) : List Char :=
  let ds := Nat.toDigits 10 part
  let padded := List.replicate (places - ds.length) '0' ++ ds
  match (padded.reverse.dropWhile (· = '0')).reverse with
  | [] => []
  | ds => '.' :: ds

/-- The span in a unit of `10 ^ places` nanoseconds. -/
def inUnit (d : Duration) (places : Nat) (unit : String) : String :=
  toString (d.nanos / Nat.pow 10 places) ++
    String.ofList (fraction (d.nanos % Nat.pow 10 places) places) ++ unit

/-- The text of a span. -/
def text (d : Duration) : String :=
  if d.nanos ≥ 1000000000 then d.inUnit 9 "s"
  else if d.nanos ≥ 1000000 then d.inUnit 6 "ms"
  else if d.nanos ≥ 1000 then d.inUnit 3 "µs"
  else d.inUnit 0 "ns"

end Duration

end ModuleDocs
