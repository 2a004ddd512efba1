/-!
# Glob

Patterns over paths.  `?` stands for any character, `*` for any characters, `[…]` for one of a class
and `[!…]` for one outside it; `**` stands for any number of whole directories and has to be a
component of the pattern by itself.  Slashes are characters like all others, so that `*` also goes
across directories.
-/

namespace ModuleDocs

/-- One step of a pattern. -/
inductive Glob.Token where
  | char (c : Char)
  | any
  | within (ranges : List (Char × Char))
  | outside (ranges : List (Char × Char))
  /-- Any characters. -/
  | sequence
  /-- Any number of whole directories; at the end, anything. -/
  | directories
deriving DecidableEq, Repr

/-- A pattern. -/
abbrev Glob := List Glob.Token

namespace Glob

/-! ### Reading patterns -/

/-- The ranges of a class; a character alone is a range by itself. -/
def ranges : List Char → List (Char × Char)
  | a :: '-' :: b :: cs => (a, b) :: ranges cs
  | c :: cs => (c, c) :: ranges cs
  | [] => []

/-- The characters of a class and the text behind it.  The first character belongs to the class even
if it is the closing bracket. -/
def classBody? : List Char → Option (List Char × List Char)
  | c :: cs =>
    if cs.contains ']' then some (c :: cs.takeWhile (· ≠ ']'), (cs.dropWhile (· ≠ ']')).drop 1)
    else none
  | [] => none

/-- The class behind an opening bracket, and the text behind the class. -/
def class? (cs : List Char) : Option (Token × List Char) :=
  match cs with
  | '!' :: cs => (classBody? cs).map fun (body, rest) => (.outside (ranges body), rest)
  | cs => (classBody? cs).map fun (body, rest) => (.within (ranges body), rest)

/-- The tokens of a text; `fresh` says that a component starts here. -/
def tokens? : Nat → Bool → List Char → Option Glob
  | 0, _, _ => none
  | n + 1, fresh, cs =>
    match cs with
    | [] => some []
    | '?' :: cs => (tokens? n false cs).map (.any :: ·)
    | '*' :: '*' :: cs =>
      match cs with
      | [] => if fresh then some [.directories] else none
      | '/' :: cs => if fresh then (tokens? n true cs).map (.directories :: ·) else none
      | _ => none
    | '*' :: cs => (tokens? n false cs).map (.sequence :: ·)
    | '[' :: cs => (class? cs).bind fun (t, rest) => (tokens? n false rest).map (t :: ·)
    | c :: cs => (tokens? n (c == '/') cs).map (.char c :: ·)

/-- The pattern that a text writes, if it is one. -/
def read? (s : String) : Option Glob := tokens? (s.length + 1) true s.toList

/-! ### Matching -/

/-- A character is in one of the ranges. -/
def inRanges (ranges : List (Char × Char)) (c : Char) : Bool :=
  ranges.any fun (a, b) => a ≤ c && c ≤ b

/-- All ends of a text, from the whole to the empty one. -/
def ends : List Char → List (List Char)
  | [] => [[]]
  | c :: cs => (c :: cs) :: ends cs

/-- What may stand behind whole directories: the text, and its ends behind a slash. -/
def pastDirectories (cs : List Char) : List (List Char) :=
  cs :: go cs
where
  go : List Char → List (List Char)
    | [] => []
    | c :: cs => if c = '/' then cs :: go cs else go cs

/-- The pattern fits the whole text. -/
def fits : Glob → List Char → Bool
  | [], cs => cs.isEmpty
  | .sequence :: ts, cs => (ends cs).any (fits ts)
  | .directories :: ts, cs => ts.isEmpty || (pastDirectories cs).any (fits ts)
  | .char a :: ts, c :: cs => a == c && fits ts cs
  | .any :: ts, _ :: cs => fits ts cs
  | .within rs :: ts, c :: cs => inRanges rs c && fits ts cs
  | .outside rs :: ts, c :: cs => !inRanges rs c && fits ts cs
  | _ :: _, [] => false

/-- One of the patterns fits the path; a text that is no pattern fits nothing. -/
def anyFits (patterns : List String) (path : String) : Bool :=
  patterns.any fun p => (read? p).any (fits · path.toList)

end Glob

end ModuleDocs
