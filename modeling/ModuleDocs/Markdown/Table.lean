import ModuleDocs.Markdown.Lexeme

/-!
# Markdown — Table

The lines of a table.  A row is cut at its pipes; a pipe behind a backslash belongs to its cell.
The line under the header row is made of hyphens, with colons that say how a column is set.
-/

namespace ModuleDocs.Markdown

/-- A blank inside a line. -/
def isLineSpace (c : Char) : Bool := isSpaceOrTab c || c == '\x0b' || c == '\x0c'

/-- The characters without each backslash that stands before a pipe. -/
def unescapePipes : List Char → List Char
  | '\\' :: '|' :: cs => '|' :: unescapePipes cs
  | c :: cs => c :: unescapePipes cs
  | [] => []

/-- The text of a cell, from its raw characters in reverse. -/
def cellText (reversed : List Char) : List Char := trimBoth (unescapePipes reversed.reverse)

/-- The cells of a line from a place inside it; `taken` is the current cell in reverse. -/
def cellsFrom (taken : List Char) : List Char → List (List Char)
  | [] => if taken.isEmpty then [] else [cellText taken]
  | c :: cs =>
    if c = '|' && taken.head? != some '\\' then
      cellText taken :: cellsFrom [] (cs.dropWhile isLineSpace)
    else cellsFrom (c :: taken) cs
termination_by cs => cs.length
decreasing_by
  · have := (List.dropWhile_suffix isLineSpace (l := cs)).length_le
    simp only [List.length_cons]; omega
  · simp

/-- The cells of a row.  A pipe at the start of the line opens the first cell. -/
def rowCells (line : List Char) : List (List Char) :=
  match line with
  | '|' :: cs => cellsFrom [] (cs.dropWhile isLineSpace)
  | cs => cellsFrom [] cs

/-- A cell of hyphens with an optional colon at either end. -/
def columnAlignment? (cell : List Char) : Option Alignment :=
  let left := cell.head? == some ':'
  let hyphens := (if left then cell.drop 1 else cell).takeWhile (· == '-')
  let rest := cell.drop ((if left then 1 else 0) + hyphens.length)
  if hyphens.isEmpty then none
  else match left, rest with
    | true, [':'] => some .center
    | true, [] => some .left
    | false, [':'] => some .right
    | false, [] => some .unset
    | _, _ => none

/-- The cell without the blanks of a line around it. -/
def trimLineSpace (cs : List Char) : List Char :=
  ((cs.dropWhile isLineSpace).reverse.dropWhile isLineSpace).reverse

/-- The columns that the line under a header row gives. -/
def columns? (line : List Char) : Option (List Alignment) :=
  let cells := rowCells line
  if cells.isEmpty then none
  else if line.all (fun c => isLineSpace c || "|:-".toList.contains c) then
    (cells.map trimLineSpace).mapM columnAlignment?
  else none

end ModuleDocs.Markdown
