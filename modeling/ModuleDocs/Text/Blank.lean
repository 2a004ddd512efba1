import ModuleDocs.Text.Ranges

/-!
# Text — Blank

Blank characters are those of Unicode's `White_Space` property.  Trimming removes them from the
ends of a text.
-/

namespace ModuleDocs.Text

/-- The ranges of the property `White_Space`. -/
def blankRanges : Ranges :=
  [(0x9, 0xD), (0x20, 0x20), (0x85, 0x85), (0xA0, 0xA0), (0x1680, 0x1680), (0x2000, 0x200A),
   (0x2028, 0x2029), (0x202F, 0x202F), (0x205F, 0x205F), (0x3000, 0x3000)]

/-- A character of the property `White_Space`. -/
def isBlank (c : Char) : Bool := blankRanges.has c

/-- The characters without the blanks they start with. -/
def trimLeft (cs : List Char) : List Char := cs.dropWhile isBlank

/-- The characters without the blanks they end with. -/
def trimRight (cs : List Char) : List Char := (cs.reverse.dropWhile isBlank).reverse

/-- The characters without the blanks at either end. -/
def trimChars (cs : List Char) : List Char := trimRight (trimLeft cs)

/-- A text without the blanks at either end. -/
def trim (s : String) : String := String.ofList (trimChars s.toList)

/-- A text without the blanks it starts with. -/
def trimStart (s : String) : String := String.ofList (trimLeft s.toList)

/-- A text of blanks only. -/
def allBlank (s : String) : Bool := s.toList.all isBlank

end ModuleDocs.Text
