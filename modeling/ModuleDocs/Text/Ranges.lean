/-!
# Text — Ranges

Character properties given as tables of code-point ranges.  A table is a list of pairs
`(first, last)`, both ends included.
-/

namespace ModuleDocs.Text

/-- A table of inclusive code-point ranges. -/
abbrev Ranges := List (Nat × Nat)

/-- The character lies in one of the ranges. -/
def Ranges.has (table : Ranges) (c : Char) : Bool :=
  table.any fun (first, last) => first ≤ c.toNat && c.toNat ≤ last

end ModuleDocs.Text
