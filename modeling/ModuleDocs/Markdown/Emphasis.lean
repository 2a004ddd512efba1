import ModuleDocs.Text.Blank
import ModuleDocs.Text.Punctuation
import ModuleDocs.Markdown.Document

/-!
# Markdown — Emphasis

Runs of `*`, `_`, `~` and quotes are matched after the rest of a text has been read.  A run that may
close looks back for the nearest run of its mark that may open; what stands between the two becomes
emphasis, strong emphasis or struck text, or is put between curved quotes.  Runs left over are text.
-/

namespace ModuleDocs.Markdown

/-- A run of one mark.  `size` counts the marks not used up, `full` those it had at first. -/
structure Run where
  mark : Char
  size : Nat
  full : Nat
  opens : Bool
  closes : Bool
  text : List Char
  deriving Repr, Inhabited

/-- An opening bracket whose partner has not been met.  `behind` is the text after it; `nested` says
that another bracket was opened behind it. -/
structure Bracket where
  isImage : Bool
  behind : List Char
  nested : Bool
  deriving Repr, Inhabited

/-- A part of a text under reading. -/
inductive Piece where
  | ready (inline : Inline)
  | run (run : Run)
  | bracket (bracket : Bracket)
  deriving Repr, Inhabited

/-- A quote of either kind. -/
def isQuote (c : Char) : Bool := c == '"' || c == '\''

/-- The characters of a run that matches nothing. -/
def Run.chars (r : Run) : List Char :=
  if isQuote r.mark then r.text else List.replicate r.size r.mark

/-- A piece with no markup of its own left in it. -/
def Piece.settle : Piece → Inline
  | .ready inline => inline
  | .run r => .text r.chars
  | .bracket b => .text (if b.isImage then ['!', '['] else ['['])

/-! ### Which way a run faces -/

/-- The nearest character that is no `~`; the ends of the text count as line feeds. -/
def nearestChar (cs : List Char) : Char := ((cs.dropWhile (· == '~')).head?).getD '\n'

/-- What stands beside a run, seen from the run. -/
structure Beside where
  before : Char
  after : Char

namespace Beside

/-- The run leans on what follows it. -/
def leansLeft (b : Beside) : Bool :=
  !Text.isBlank b.after &&
    (!Text.isPunctuation b.after || Text.isBlank b.before || Text.isPunctuation b.before)

/-- The run leans on what precedes it. -/
def leansRight (b : Beside) : Bool :=
  !Text.isBlank b.before &&
    (!Text.isPunctuation b.before || Text.isBlank b.after || Text.isPunctuation b.after)

/-- The run may open.  An underscore opens no emphasis inside a word, a quote none behind one. -/
def opens (b : Beside) (mark : Char) : Bool :=
  if mark = '_' then b.leansLeft && (!b.leansRight || Text.isPunctuation b.before)
  else if isQuote mark then
    b.leansLeft && (!b.leansRight || b.before == '(' || b.before == '[') &&
      b.before != ']' && b.before != ')'
  else b.leansLeft

/-- The run may close. -/
def closes (b : Beside) (mark : Char) : Bool :=
  if mark = '_' then b.leansRight && (!b.leansLeft || Text.isPunctuation b.after)
  else b.leansRight

end Beside

/-! ### Matching -/

/-- The curved quote that a mark opens. -/
def openingQuote (mark : Char) : List Char := if mark = '"' then ['“'] else ['‘']

/-- The curved quote that a mark closes. -/
def closingQuote (mark : Char) : List Char := if mark = '"' then ['”'] else ['’']

/-- The two runs may match.  Where one of them could face either way, their sizes must not add up to
a multiple of three, unless both are one. -/
def Run.fits (opener closer : Run) : Bool :=
  opener.opens && opener.mark == closer.mark &&
    !((closer.opens || opener.closes) && (opener.full + closer.full) % 3 == 0 &&
      !(opener.full % 3 == 0 && closer.full % 3 == 0))

/-- The nearest run that fits, in pieces with the newest first: what stands before it in the list,
the run, and what stands behind it. -/
def findOpener (closer : Run) : List Piece → Option (List Piece × Run × List Piece)
  | [] => none
  | p :: ps =>
    match p with
    | .run r =>
      if r.fits closer then some ([], r, ps)
      else (findOpener closer ps).map fun (inner, r, below) => (p :: inner, r, below)
    | _ => (findOpener closer ps).map fun (inner, r, below) => (p :: inner, r, below)

/-- The emphasis that `used` marks make. -/
def wrap (mark : Char) (used : Nat) (inner : List Inline) : Inline :=
  if mark = '~' then .struck inner else if used = 1 then .emphasis inner else .strong inner

/-- What is left of a run, if anything. -/
def Run.remaining (r : Run) (used : Nat) : List Piece :=
  if r.size ≤ used then [] else [.run { r with size := r.size - used }]

/-- The steps that a piece may take. -/
def Piece.weight : Piece → Nat
  | .run r => r.size + 1
  | _ => 1

/-- The steps that pieces may take. -/
def weight : List Piece → Nat
  | [] => 0
  | p :: ps => p.weight + weight ps

/-- Two runs of `~` strike text out only if they have one size, one or two. -/
def Run.strikes (opener closer : Run) (used : Nat) : Bool :=
  opener.size == closer.size && opener.size ≤ used

theorem weight_remaining_lt (r : Run) (used : Nat) (h : 0 < used) (rest : List Piece) :
    weight (r.remaining used ++ rest) < weight (.run r :: rest) := by
  unfold Run.remaining
  split
  · simp [weight, Piece.weight]
  · simp [weight, Piece.weight]
    omega

/-- Matches runs from left to right; `left` holds what has been passed, newest first.  A pair of `~`
that does not strike ends the matching. -/
def matchRuns (left : List Piece) : List Piece → List Inline
  | [] => left.reverse.map Piece.settle
  | .run r :: rest =>
    if !r.closes then matchRuns (.run r :: left) rest
    else
      match findOpener r left with
      | some (inner, opener, below) =>
        if isQuote r.mark then
          matchRuns (.ready (.text (closingQuote r.mark)) ::
            (inner ++ .ready (.text (openingQuote r.mark)) :: below)) rest
        else
          let used := if 2 ≤ r.size && 2 ≤ opener.size then 2 else 1
          if r.mark = '~' && !opener.strikes r used then
            (left.reverse ++ .run r :: rest).map Piece.settle
          else
            let node := wrap r.mark used (inner.reverse.map Piece.settle)
            matchRuns (.ready node :: (opener.remaining used ++ below)) (r.remaining used ++ rest)
      | none =>
        let r := if isQuote r.mark then { r with text := closingQuote r.mark } else r
        matchRuns ((if r.opens then .run r else .ready (.text r.chars)) :: left) rest
  | p :: rest => matchRuns (p :: left) rest
termination_by ps => weight ps
decreasing_by
  · simp [weight, Piece.weight]
  · simp [weight, Piece.weight]
  · refine weight_remaining_lt r _ ?_ rest
    grind
  · simp [weight, Piece.weight]
  · cases p <;> simp_all [weight, Piece.weight]

end ModuleDocs.Markdown
