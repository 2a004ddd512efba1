import ModuleDocs.Markdown.Autolink
import ModuleDocs.Markdown.Emphasis

/-!
# Markdown — Running

Running text: code spans, escapes, character references, raw HTML, links, images, emphasis,
addresses, line breaks, dashes and ellipses.  The text is read once from left to right into pieces;
a closing bracket turns the pieces behind its partner into a link, and the runs that are left are
matched at the end.
-/

namespace ModuleDocs.Markdown

/-- A text under reading: the pieces so far and the characters passed, both newest first. -/
structure Reading where
  pieces : List Piece
  behind : List Char
  rest : List Char
  /-- A link has been closed since the last bracket was opened, so none may be opened around it. -/
  linkClosed : Bool
  /-- A bracket stands open; no bare address becomes a link there. -/
  inBrackets : Bool

namespace Reading

/-- Passes a number of characters. -/
def pass (r : Reading) (n : Nat) : Reading :=
  { r with behind := (r.rest.take n).reverse ++ r.behind, rest := r.rest.drop n }

/-- Passes the characters up to a later rest of the text. -/
def passTo (r : Reading) (rest : List Char) : Reading := r.pass (r.rest.length - rest.length)

/-- Adds a piece. -/
def add (r : Reading) (p : Piece) : Reading := { r with pieces := p :: r.pieces }

/-- Adds a piece of running text that needs no more work. -/
def addInline (r : Reading) (i : Inline) : Reading := r.add (.ready i)

/-- Adds text. -/
def addText (r : Reading) (cs : List Char) : Reading := r.addInline (.text cs)

/-- Passes a number of characters and adds them as text. -/
def passText (r : Reading) (n : Nat) : Reading := (r.pass n).addText (r.rest.take n)

/-! ### Single constructs -/

/-- The end of a line.  Two spaces before it break the line. -/
def lineEnd (r : Reading) : Reading :=
  let isHard := match r.behind with
    | ' ' :: ' ' :: _ => true
    | _ => false
  let next := (r.pass 1).addInline (if isHard then .hardBreak else .softBreak)
  next.passTo (next.rest.dropWhile isSpaceOrTab)

/-- The longest run of backticks that may open a code span. -/
def longestTicks : Nat := 80

/-- The inside of a code span closed by a run of as many backticks, and the text behind it. -/
def codeSpan? (ticks : Nat) : Nat → List Char → List Char → Option (List Char × List Char)
  | 0, _, _ => none
  | _, _, [] => none
  | n + 1, taken, c :: cs =>
    if c = '\x60' then
      let run := (c :: cs).takeWhile (· == '\x60')
      let rest := (c :: cs).drop run.length
      if run.length = ticks then some (taken.reverse, rest)
      else codeSpan? ticks n (run ++ taken) rest
    else codeSpan? ticks n (c :: taken) cs

/-- The text of a code span: line feeds are spaces, and one space goes from either end if the text
has one at both and is not all spaces. -/
def codeText (cs : List Char) : List Char :=
  let cs := cs.map fun c => if c = '\n' then ' ' else c
  if cs.head? == some ' ' && cs.getLast? == some ' ' && cs.any (· != ' ') then
    (cs.drop 1).dropLast
  else cs

/-- Backticks. -/
def backticks (r : Reading) : Reading :=
  let run := r.rest.takeWhile (· == '\x60')
  let inside := r.rest.drop run.length
  let span := if run.length > longestTicks then none
    else codeSpan? run.length inside.length [] inside
  match span with
  | some (code, rest) => (r.passTo rest).addInline (.code (codeText code))
  | none => r.passText run.length

/-- A backslash: an escape, a line break, or itself. -/
def backslash (r : Reading) : Reading :=
  match r.rest with
  | _ :: '\n' :: _ => (r.pass 2).addInline .hardBreak
  | _ :: c :: _ => if isAsciiPunctuation c then (r.pass 2).addText [c] else r.passText 1
  | _ => r.passText 1

/-- An ampersand: a character reference or itself. -/
def ampersand (r : Reading) : Reading :=
  match reference? (r.rest.drop 1) with
  | some (chars, rest) => (r.passTo rest).addText chars
  | none => r.passText 1

/-- A link whose text is its address. -/
def addressLink (scheme address : List Char) : Inline :=
  let shown := decodeReferences address
  .link ⟨scheme ++ decodeReferences (trimBoth address), []⟩ [.text shown]

/-- A pointed bracket: an address, raw HTML, or itself. -/
def pointedBracket (r : Reading) : Reading :=
  let inside := r.rest.drop 1
  match pointedAddress? inside, pointedMail? inside, behindMarkup? inside with
  | some (address, rest), _, _ => (r.passTo rest).addInline (addressLink [] address)
  | none, some (address, rest), _ =>
    (r.passTo rest).addInline (addressLink "mailto:".toList address)
  | none, none, some rest =>
    (r.passTo rest).addInline (.rawHtml (r.rest.take (r.rest.length - rest.length)))
  | none, none, none => r.passText 1

/-- A run of a mark that may emphasise, strike or quote.  Quotes make runs of one. -/
def markRun (r : Reading) (mark : Char) : Reading :=
  let size := if isQuote mark then 1 else (r.rest.takeWhile (· == mark)).length
  let next := r.pass size
  let beside : Beside := ⟨nearestChar r.behind, nearestChar next.rest⟩
  let closes := beside.closes mark
  let opens := beside.opens mark
  let text :=
    if mark = '\'' then ['’']
    else if mark = '"' then (if closes then ['”'] else ['“'])
    else List.replicate size mark
  if opens || closes then next.add (.run ⟨mark, size, size, opens, closes, text⟩)
  else next.addText text

/-- Hyphens: two make an en dash and three an em dash; a longer run is made of one kind if it can
be, else of em dashes and one or two en dashes. -/
def dashes (count : Nat) : List Char :=
  let (em, en) :=
    if count % 3 = 0 then (count / 3, 0)
    else if count % 2 = 0 then (0, count / 2)
    else if count % 3 = 2 then ((count - 2) / 3, 1)
    else ((count - 4) / 3, 2)
  List.replicate em '—' ++ List.replicate en '–'

/-- A hyphen or a run of them. -/
def hyphens (r : Reading) : Reading :=
  let count := (r.rest.takeWhile (· == '-')).length
  if count ≤ 1 then r.passText 1 else (r.pass count).addText (dashes count)

/-- Up to three full stops; three make an ellipsis. -/
def fullStops (r : Reading) : Reading :=
  match r.rest with
  | '.' :: '.' :: '.' :: _ => (r.pass 3).addText ['…']
  | '.' :: '.' :: _ => r.passText 2
  | _ => r.passText 1

/-! ### Brackets -/

/-- Notes on the nearest open bracket that another one is opened behind it. -/
def noteNested : List Piece → List Piece
  | [] => []
  | .bracket b :: ps => .bracket { b with nested := true } :: ps
  | p :: ps => p :: noteNested ps

/-- Opens a bracket that is written with a number of characters. -/
def openBracket (r : Reading) (isImage : Bool) (size : Nat) : Reading :=
  let next := r.pass size
  { next with
    pieces := .bracket ⟨isImage, next.rest, false⟩ :: noteNested next.pieces
    linkClosed := if isImage then next.linkClosed else false
    inBrackets := true }

/-- The nearest open bracket: the pieces behind it, itself, and the pieces before it. -/
def nearestBracket? : List Piece → Option (List Piece × Bracket × List Piece)
  | [] => none
  | .bracket b :: ps => some ([], b, ps)
  | p :: ps => (nearestBracket? ps).map fun (inner, b, below) => (p :: inner, b, below)

/-- A target in parentheses, and the text behind it. -/
def inlineTarget? (cs : List Char) : Option (Target × List Char) := do
  let '(' :: cs := cs | failure
  let (destination, rest) ← destination? (cs.dropWhile isSpace)
  let beforeTitle := rest.dropWhile isSpace
  let (title, rest) :=
    if beforeTitle.length = rest.length then ([], rest)
    else (title? beforeTitle).getD ([], beforeTitle)
  match rest.dropWhile isSpace with
  | ')' :: rest => some (Target.ofParts destination title, rest)
  | _ => none

/-- A target by label, behind a closing bracket: the label that follows, or, if none or an empty one
does, the text between the brackets. -/
def labelTarget? (references : References) (b : Bracket) (after : List Char) :
    Option (Target × List Char) :=
  let inside := b.behind.take (b.behind.length - after.length - 1)
  let followed := label? after
  let rest := (followed.map Prod.snd).getD after
  let label :=
    match followed with
    | some (label, _) => if label.isEmpty && !b.nested then some inside else some label
    | none => if b.nested then none else some inside
  (label.bind fun label => references.lookup (labelKey label)).map (·, rest)

/-- A closing bracket. -/
def closeBracket (references : References) (r : Reading) : Reading :=
  let next := { r.pass 1 with inBrackets := false }
  match nearestBracket? r.pieces with
  | none => next.addText [']']
  | some (inner, b, below) =>
    let unmatched : Reading :=
      { next with pieces := inner ++ .ready (Piece.settle (.bracket b)) :: below }
    if !b.isImage && r.linkClosed then unmatched.addText [']']
    else
      match (inlineTarget? next.rest).or (labelTarget? references b next.rest) with
      | none => unmatched.addText [']']
      | some (target, rest) =>
        let content := matchRuns [] inner.reverse
        let node := if b.isImage then Inline.image target content else .link target content
        let closed := { next with pieces := .ready node :: below }
        { closed.passTo rest with linkClosed := if b.isImage then r.linkClosed else true }

/-! ### Bare addresses -/

/-- Takes characters back from the newest text. -/
def takeBack (n : Nat) : List Piece → List Piece
  | .ready (.text cs) :: ps => .ready (.text (cs.take (cs.length - n))) :: ps
  | ps => ps

/-- A colon, which may follow the scheme of an address. -/
def colon (r : Reading) : Reading :=
  match if r.inBrackets then none else schemeAddress? r.behind r.rest with
  | some (scheme, path) =>
    let address := scheme ++ path
    let next := { r.pass path.length with pieces := takeBack scheme.length r.pieces }
    next.addInline (.link ⟨address, []⟩ [.text address])
  | none => r.passText 1

/-- The letter w, which may start an address. -/
def letterW (r : Reading) : Reading :=
  match if r.inBrackets then none else wwwAddress? r.behind r.rest with
  | some address =>
    (r.pass address.length).addInline (.link ⟨"http://".toList ++ address, []⟩ [.text address])
  | none => r.passText 1

/-! ### The whole text -/

/-- The characters that may start a construct. -/
def isSpecial (c : Char) : Bool := "\n_*\"\x60'\\&<[]!:w~.-".toList.contains c

/-- Plain text up to the next special character; blanks before a line end are dropped. -/
def plainText (r : Reading) : Reading :=
  let run := r.rest.takeWhile (!isSpecial ·)
  let next := r.pass run.length
  let text := if next.rest.head? == some '\n' then trimEnd run else run
  if text.isEmpty then next else next.addText text

/-- Reads one construct. -/
def step (references : References) (r : Reading) : Reading :=
  match r.rest with
  | [] => r
  | c :: after =>
    if c = '\n' then r.lineEnd
    else if c = '\x60' then r.backticks
    else if c = '\\' then r.backslash
    else if c = '&' then r.ampersand
    else if c = '<' then r.pointedBracket
    else if c = ':' then r.colon
    else if c = 'w' then r.letterW
    else if c = '*' || c = '_' || c = '~' || isQuote c then r.markRun c
    else if c = '-' then r.hyphens
    else if c = '.' then r.fullStops
    else if c = '[' then r.openBracket false 1
    else if c = ']' then r.closeBracket references
    else if c = '!' then
      match after with
      | '[' :: '^' :: _ => r.passText 1
      | '[' :: _ => r.openBracket true 2
      | _ => r.passText 1
    else r.plainText

/-- Reads constructs until the text ends; each one takes at least a character. -/
def run (references : References) : Nat → Reading → Reading
  | 0, r => r
  | n + 1, r => if r.rest.isEmpty then r else run references n (r.step references)

end Reading

/-- The running text of some lines. -/
def readRunning (references : References) (cs : List Char) : List Inline :=
  let cs := trimEnd cs
  let start : Reading := ⟨[], [], cs, true, false⟩
  joined (matchRuns [] (start.run references cs.length).pieces.reverse)

end ModuleDocs.Markdown
