import ModuleDocs.Markdown.Lexeme

/-!
# Markdown — Line

A line under reading, with tabs that reach to the next multiple of four columns, and the marks that
start a block: quote signs, list markers, fences, rules, headings and HTML.
-/

namespace ModuleDocs.Markdown

/-! ### Columns -/

/-- The columns from one place to the next tab stop. -/
def toTabStop (column : Nat) : Nat := 4 - column % 4

/-- Skips spaces and tabs: the column reached and the text there. -/
def skipIndent (column : Nat) : List Char → Nat × List Char
  | ' ' :: cs => skipIndent (column + 1) cs
  | '\t' :: cs => skipIndent (column + toTabStop column) cs
  | cs => (column, cs)

/-- A place in a line.  Inside a tab the tab still heads the rest. -/
structure Cursor where
  rest : List Char
  column : Nat := 0
  inTab : Bool := false

namespace Cursor

/-- The columns of white space ahead. -/
def indent (c : Cursor) : Nat := (skipIndent c.column c.rest).1 - c.column

/-- The text behind the white space ahead. -/
def ahead (c : Cursor) : List Char := (skipIndent c.column c.rest).2

/-- Nothing but white space is left. -/
def isBlank (c : Cursor) : Bool := c.ahead.isEmpty

/-- Goes past the white space ahead. -/
def skip (c : Cursor) : Cursor :=
  let (column, rest) := skipIndent c.column c.rest
  ⟨rest, column, if rest.length = c.rest.length then c.inTab else false⟩

/-- Goes on by characters that are no tabs. -/
def drop (c : Cursor) (n : Nat) : Cursor := ⟨c.rest.drop n, c.column + n, false⟩

/-- Goes on by columns, into a tab if it has to. -/
def advance (c : Cursor) : Nat → Cursor
  | 0 => c
  | n + 1 =>
    match c.rest with
    | [] => c
    | '\t' :: rest =>
      if toTabStop c.column > 1 then advance ⟨'\t' :: rest, c.column + 1, true⟩ n
      else advance ⟨rest, c.column + 1, false⟩ n
    | _ :: rest => advance ⟨rest, c.column + 1, false⟩ n

/-- Goes past one column of white space, if there is one. -/
def skipOne (c : Cursor) : Cursor := if c.rest.head?.any isSpaceOrTab then c.advance 1 else c

/-- The text from here, the rest of a tab as spaces, with its line feed. -/
def text (c : Cursor) : List Char :=
  (if c.inTab then List.replicate (toTabStop c.column) ' ' ++ c.rest.drop 1 else c.rest) ++ ['\n']

/-- The end of the line. -/
def finish (c : Cursor) : Cursor := ⟨[], c.column + c.rest.length, false⟩

end Cursor

/-! ### Marks -/

/-- The marker of a list item.  Lists go on while the kind of marker stays the same. -/
structure Marker where
  mark : Char
  start : Option Nat
  deriving DecidableEq, Repr, Inhabited

/-- The markers belong to one list. -/
def Marker.continues (a b : Marker) : Bool := a.mark == b.mark && a.start.isSome == b.start.isSome

/-- A list marker at the start of a text, and its size.  A paragraph is interrupted only by an item
that has text, and by a numbered one only if the number is one. -/
def marker? (inParagraph : Bool) (cs : List Char) : Option (Marker × Nat) :=
  let digits := (cs.takeWhile Char.isDigit).take 9
  let number := Text.digitsValue 10 digits
  let (marker, size) : Option Marker × Nat :=
    match digits, cs with
    | [], c :: _ => (if c = '*' || c = '-' || c = '+' then some ⟨c, none⟩ else none, 1)
    | _ :: _, cs =>
      match cs.drop digits.length with
      | c :: _ =>
        if (c = '.' || c = ')') && !(inParagraph && number != 1) then
          (some ⟨c, some number⟩, digits.length + 1)
        else (none, 0)
      | [] => (none, 0)
    | [], [] => (none, 0)
  let after := cs.drop size
  if !after.head?.all isSpace || (inParagraph && (after.dropWhile isSpaceOrTab).isEmpty) then none
  else marker.map (·, size)

/-- A heading's opening number signs: the level, and what they are followed by. -/
def headingMark? (cs : List Char) : Option (Fin 6 × Nat) :=
  let signs := (cs.takeWhile (· == '#')).length
  let blanks := ((cs.drop signs).takeWhile isSpaceOrTab).length
  if h : 1 ≤ signs ∧ signs ≤ 6 then
    if blanks = 0 && signs < cs.length then none
    else some (⟨signs - 1, by omega⟩, signs + blanks)
  else none

/-- A line without the number signs that close its heading. -/
def dropClosingSigns (line : List Char) : List Char :=
  let line := trimEnd line
  let body := (line.reverse.dropWhile (· == '#')).reverse
  match body.getLast? with
  | some c => if body.length < line.length && isSpaceOrTab c then trimEnd body else line
  | none => line

/-- A fence of three or more backticks or tildes.  No backtick may follow a fence of backticks. -/
def fence? (cs : List Char) : Option (Char × Nat) :=
  match cs with
  | c :: _ =>
    let size := (cs.takeWhile (· == c)).length
    if c = '\x60' && 3 ≤ size && !(cs.drop size).contains '\x60' then some (c, size)
    else if c = '~' && 3 ≤ size then some (c, size)
    else none
  | [] => none

/-- A fence that may close one of a given mark and size. -/
def closesFence (mark : Char) (size : Nat) (cs : List Char) : Bool :=
  let own := (cs.takeWhile (· == mark)).length
  3 ≤ own && size ≤ own && (cs.drop own).all isSpaceOrTab

/-- The line under a heading: its level. -/
def underline? (cs : List Char) : Option (Fin 6) :=
  match cs with
  | c :: _ =>
    if (c = '=' || c = '-') && (cs.dropWhile (· == c)).all isSpaceOrTab then
      some (if c = '=' then 0 else 1)
    else none
  | [] => none

/-- A rule: three or more of one mark with nothing but spaces and tabs between them. -/
def isRule (cs : List Char) : Bool :=
  match cs with
  | c :: _ =>
    (c = '*' || c = '-' || c = '_') && cs.all (fun d => d == c || isSpaceOrTab d) && 3 ≤ cs.count c
  | [] => false

/-! ### HTML -/

/-- The ways in which a block of HTML may end. -/
inductive HtmlEnd where
  | rawTag
  | text (mark : List Char)
  | blankLine
  deriving DecidableEq, Repr, Inhabited

/-- The elements whose text is no markup. -/
def rawTextTags : List (List Char) :=
  ["script".toList, "pre".toList, "textarea".toList, "style".toList]

/-- The elements that start a block of HTML. -/
def blockTags : List String :=
  ["address", "article", "aside", "base", "basefont", "blockquote", "body", "caption", "center",
   "col", "colgroup", "dd", "details", "dialog", "dir", "div", "dl", "dt", "fieldset", "figcaption",
   "figure", "footer", "form", "frame", "frameset", "h1", "h2", "h3", "h4", "h5", "h6", "head",
   "header", "hr", "html", "iframe", "legend", "li", "link", "main", "menu", "menuitem", "nav",
   "noframes", "ol", "optgroup", "option", "p", "param", "search", "section", "summary", "table",
   "tbody", "td", "tfoot", "th", "thead", "title", "tr", "track", "ul"]

/-- The block of HTML that a line starts.  A tag of any other name starts one only on a line of its
own, and does not interrupt a paragraph. -/
def htmlBlock? (inParagraph : Bool) (cs : List Char) : Option HtmlEnd := do
  let '<' :: cs := cs | failure
  let lowered := cs.map Char.toLower
  let endsWord := fun rest : List Char => rest.head?.all fun c => isSpace c || c == '>'
  if rawTextTags.any fun tag => (dropPrefix? tag lowered).any endsWord then return .rawTag
  match cs with
  | '!' :: '-' :: '-' :: _ => return .text "-->".toList
  | '?' :: _ => return .text "?>".toList
  | '!' :: c :: rest =>
    if c.isAlpha then return .text ['>']
    if c = '[' && "CDATA[".toList.isPrefixOf rest then return .text "]]>".toList
  | _ => pure ()
  let named := match lowered with
    | '/' :: rest => rest
    | rest => rest
  let name := named.takeWhile Char.isAlphanum
  let afterName := named.drop name.length
  if blockTags.contains (String.ofList name) &&
      (endsWord afterName || "/>".toList.isPrefixOf afterName) then
    return .blankLine
  if inParagraph then failure
  let rest ← behindTag? cs
  if rest.all isSpace then return .blankLine
  failure

/-- A text stands somewhere in another one. -/
def occursIn (mark cs : List Char) : Bool := (behindFirst? mark cs).isSome

/-- A block of HTML ends with this line. -/
def HtmlEnd.isMet (e : HtmlEnd) (cs : List Char) : Bool :=
  match e with
  | .rawTag =>
    rawTextTags.any fun tag => occursIn ("</".toList ++ tag ++ ['>']) (cs.map Char.toLower)
  | .text mark => occursIn mark cs
  | .blankLine => false

end ModuleDocs.Markdown
