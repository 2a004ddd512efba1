/-!
# Text — Split

Cutting a text at each place where a character stands.
-/

namespace ModuleDocs.Text

/-- The parts between the places where the character stands; there is always at least one. -/
def splitChars (mark : Char) : List Char → List (List Char)
  | [] => [[]]
  | c :: cs =>
    if c = mark then [] :: splitChars mark cs
    else
      match splitChars mark cs with
      | part :: parts => (c :: part) :: parts
      | [] => [[c]]

/-- The parts of a text between the places where the character stands. -/
def split (mark : Char) (s : String) : List String :=
  (splitChars mark s.toList).map String.ofList

end ModuleDocs.Text
