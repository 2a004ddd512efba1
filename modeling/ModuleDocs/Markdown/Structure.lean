import ModuleDocs.Markdown.Line
import ModuleDocs.Markdown.Table

/-!
# Markdown — Structure

The block structure of a document.  The blocks that are still open form a stack of frames, the
innermost first, with the document at the bottom.  A line is first matched against the open blocks
from the outside in; then it may open new blocks; what is left of it is text for the innermost one.
Blocks that a line did not match are closed as soon as it turns out that the line does not merely
go on with an open paragraph.
-/

namespace ModuleDocs.Markdown

/-! ### Frames -/

/-- What an open block is, with what has to be known of it to go on. -/
inductive Kind where
  | document
  | quote
  | list (marker : Marker)
  | item (indent : Nat)
  | paragraph (refusedTable : Bool)
  | fenced (mark : Char) (size : Nat) (indent : Nat)
  | indented
  | html (stop : HtmlEnd)
  | table (columns : List Alignment) (header : List (List Char)) (rows : List (List (List Char)))
  deriving Repr, Inhabited

/-- A closed block.  `beforeBlank` says that a blank line followed it, `tailBlank` that one followed
its last part, and `parts` tells this of each part of an item. -/
structure Closed where
  block : Block (List Char)
  beforeBlank : Bool := false
  tailBlank : Bool := false
  parts : List Bool := []
  deriving Inhabited

/-- A blank line follows the block or its last part. -/
def Closed.endsBlank (c : Closed) : Bool := c.beforeBlank || c.tailBlank

/-- An open block: its closed parts and its lines, newest first. -/
structure Frame where
  kind : Kind
  line : Nat
  children : List Closed := []
  lines : List (List Char) := []
  beforeBlank : Bool := false
  deriving Inhabited

namespace Frame

/-- The text of the block's lines. -/
def text (f : Frame) : List Char := f.lines.reverse.flatten

/-- Blocks other than items may stand in the block. -/
def holdsBlocks (f : Frame) : Bool :=
  match f.kind with
  | .document | .quote | .item _ => true
  | _ => false

/-- The block is a paragraph. -/
def isParagraph (f : Frame) : Bool :=
  match f.kind with
  | .paragraph _ => true
  | _ => false

/-- The block takes the rest of a line as it is. -/
def isVerbatim (f : Frame) : Bool :=
  match f.kind with
  | .fenced .. | .indented | .html _ => true
  | _ => false

/-- Adds a line. -/
def addLine (f : Frame) (line : List Char) : Frame := { f with lines := line :: f.lines }

/-- Adds a closed part. -/
def addChild (f : Frame) (c : Closed) : Frame := { f with children := c :: f.children }

end Frame

/-! ### Closing blocks -/

/-- The lines of an indented code block without the blank ones at its end. -/
def dropBlankLines (lines : List (List Char)) : List (List Char) :=
  (lines.reverse.dropWhile fun l => l.all isSpace).reverse

/-- No blank line stands between the items of a list or between the parts of one.  The items come in
order. -/
def isTight : List Closed → Bool
  | [] => true
  | item :: later =>
    let partsTight : List Bool → Bool := fun parts =>
      if later.isEmpty then !parts.dropLast.any id else !parts.any id
    !(item.beforeBlank && !later.isEmpty) && partsTight item.parts && isTight later

/-- The closed form of a block, and the link definitions found in it.  A paragraph of definitions
only is dropped. -/
def Frame.close (f : Frame) (references : References) : Option Closed × References :=
  let children := f.children.reverse
  let blocks := children.map Closed.block
  let tail := (f.children.head?.map Closed.endsBlank).getD false
  match f.kind with
  | .document | .quote =>
    (some { block := .quote blocks, beforeBlank := f.beforeBlank }, references)
  | .list marker =>
    (some
      { block := .list marker.start (isTight children) blocks
        beforeBlank := f.beforeBlank
        tailBlank := tail }, references)
  | .item _ =>
    (some
      { block := .item none blocks
        beforeBlank := f.beforeBlank
        tailBlank := tail
        parts := children.map Closed.endsBlank }, references)
  | .paragraph _ =>
    let (references, rest) := takeDefinitions f.text.length references f.text
    if rest.all isSpace then (none, references)
    else (some { block := .paragraph rest, beforeBlank := f.beforeBlank }, references)
  | .fenced .. =>
    let lines := f.lines.reverse
    let info := unescape (trimBoth (decodeReferences (lines.headD []).dropLast))
    (some { block := .code info (lines.drop 1).flatten, beforeBlank := f.beforeBlank }, references)
  | .indented =>
    let literal := (dropBlankLines f.lines.reverse).flatten
    (some { block := .code [] literal, beforeBlank := f.beforeBlank }, references)
  | .html _ => (some { block := .rawHtml, beforeBlank := f.beforeBlank }, references)
  | .table columns header rows =>
    (some { block := .table columns header rows.reverse, beforeBlank := f.beforeBlank }, references)

/-- The open blocks of a document, innermost first, and the link definitions met so far. -/
structure Open where
  frames : List Frame
  references : References

namespace Open

/-- Closes the innermost block, but never the document. -/
def closeOne (o : Open) : Open :=
  match o.frames with
  | f :: parent :: rest =>
    let (closed, references) := f.close o.references
    ⟨(match closed with
      | some c => parent.addChild c
      | none => parent) :: rest, references⟩
  | _ => o

/-- Closes a number of blocks. -/
def closeMany (o : Open) : Nat → Open
  | 0 => o
  | n + 1 => o.closeOne.closeMany n

/-- Closes blocks, up to a number of them, until the innermost one may hold blocks. -/
def closeToHolder (o : Open) : Nat → Open
  | 0 => o
  | n + 1 =>
    match o.frames with
    | f :: _ => if f.holdsBlocks then o else o.closeOne.closeToHolder n
    | [] => o

/-- Makes room for a block that is no item. -/
def makeRoom (o : Open) : Open := o.closeToHolder o.frames.length

/-- Opens a block inside the innermost one. -/
def push (o : Open) (line : Nat) (kind : Kind) : Open :=
  { o with frames := { kind, line } :: o.frames }

/-- Changes the innermost block. -/
def onInner (o : Open) (change : Frame → Frame) : Open :=
  match o.frames with
  | f :: rest => { o with frames := change f :: rest }
  | [] => o

/-- Adds a closed block to the innermost one. -/
def add (o : Open) (block : Block (List Char)) : Open := o.onInner (·.addChild { block })

/-- Forgets the blank lines noted on the open blocks. -/
def clearBlank (o : Open) : Open :=
  { o with frames := o.frames.map fun f => { f with beforeBlank := false } }

end Open

/-! ### Matching a line against the open blocks -/

/-- What a line means for an open block. -/
inductive Match where
  | goesOn (cursor : Cursor)
  | fails
  | closes

/-- Matches a line against one open block; `hasParts` says whether anything stands in it. -/
def Frame.matchLine (f : Frame) (hasParts : Bool) (c : Cursor) : Match :=
  match f.kind with
  | .document | .list _ => .goesOn c
  | .quote =>
    if c.indent ≤ 3 && c.ahead.head? == some '>' then .goesOn (c.advance (c.indent + 1)).skipOne
    else .fails
  | .item indent =>
    if c.indent ≥ indent then .goesOn (c.advance indent)
    else if c.isBlank && hasParts then .goesOn c.skip
    else .fails
  | .paragraph _ => if c.isBlank then .fails else .goesOn c
  | .fenced mark size indent =>
    if c.indent ≤ 3 && closesFence mark size c.ahead then .closes
    else .goesOn (c.advance (min indent c.indent))
  | .indented =>
    if c.indent ≥ 4 then .goesOn (c.advance 4) else if c.isBlank then .goesOn c.skip else .fails
  | .html stop => if stop = .blankLine && c.isBlank then .fails else .goesOn c
  | .table .. => if (rowCells c.ahead).isEmpty then .fails else .goesOn c

/-- The outcome of matching a line. -/
inductive Matched where
  /-- The frames that match, innermost first, how many of the open ones do not, and the place. -/
  | upTo (unmatched : Nat) (cursor : Cursor)
  /-- The line closes the innermost block and is used up. -/
  | closesInner

/-- Matches a line against frames, outermost first. -/
def matchFrames (c : Cursor) : List Frame → Matched
  | [] => .upTo 0 c
  | f :: inner =>
    match f.matchLine (!f.children.isEmpty || !inner.isEmpty) c with
    | .goesOn c => matchFrames c inner
    | .fails => .upTo (inner.length + 1) c
    | .closes => .closesInner

/-! ### Opening new blocks -/

/-- A line in the midst of being read.  `unmatched` of the open blocks, the innermost ones, have not
been matched by the line and are not closed yet. -/
structure Progress where
  blocks : Open
  unmatched : Nat
  cursor : Cursor
  opened : Bool
  /-- The line has been used up by a block without text. -/
  finished : Bool

namespace Progress

/-- The innermost block that the line is in. -/
def container (p : Progress) : Frame :=
  (p.blocks.frames.drop p.unmatched).headD { kind := .document, line := 0 }

/-- The blocks with those closed that the line did not match. -/
def settled (p : Progress) : Open := p.blocks.closeMany p.unmatched

/-- Opens a block that is no item. -/
def enter (p : Progress) (line : Nat) (kind : Kind) (cursor : Cursor) : Progress :=
  ⟨p.settled.makeRoom.push line kind, 0, cursor, true, false⟩

/-- Adds a block that takes the whole line. -/
def complete (p : Progress) (block : Block (List Char)) : Progress :=
  { p with
    blocks := (p.settled.makeRoom.add block).clearBlank
    unmatched := 0, cursor := p.cursor.finish, opened := true, finished := true }

/-- The white space behind a list marker: up to four columns belong to the marker; if there are
more, or nothing follows, one does.  Gives the width and the place where the item's text starts. -/
def afterMarker (c : Cursor) : Nat × Cursor :=
  let width := c.indent
  if c.isBlank || width = 0 || width ≥ 5 then (1, if width = 0 then c else c.advance 1)
  else (width, c.advance width)

/-- Opens a list item, and a list for it unless the innermost block is one that goes on. -/
def enterItem (p : Progress) (line : Nat) (marker : Marker) (size : Nat) : Progress :=
  let indent := p.cursor.indent
  let (width, cursor) := afterMarker (p.cursor.skip.drop size)
  let settled := p.settled
  let inList :=
    match p.container.kind with
    | .list known =>
      if marker.continues known then settled else settled.makeRoom.push line (.list marker)
    | _ => settled.makeRoom.push line (.list marker)
  ⟨inList.push line (.item (indent + size + width)), 0, cursor, true, false⟩

/-- Turns a paragraph into a heading with the line under it, unless it holds definitions only. -/
def underlined (p : Progress) (level : Fin 6) : Progress :=
  let text := p.container.text
  let (references, rest) := takeDefinitions text.length p.blocks.references text
  if rest.all isSpace then
    { p with blocks := { p.blocks with references }.onInner fun f => { f with lines := [rest] } }
  else
    let outer : Open := ⟨p.blocks.frames.drop 1, references⟩
    { p with
      blocks := (outer.add (.heading level rest)).clearBlank
      cursor := p.cursor.finish, opened := true, finished := true }

/-- The last line of a text whose lines all end in line feeds, without its line feed, and the text
before it. -/
def splitLastLine (lines : List (List Char)) : List Char × List Char :=
  match lines with
  | last :: before => (last.dropLast, before.reverse.flatten)
  | [] => ([], [])

/-- Turns the last line of a paragraph into the header of a table, if the line gives as many columns
as that line has cells. -/
def headed? (p : Progress) (line : Nat) : Option Progress := do
  let f := p.container
  let columns ← columns? p.cursor.ahead
  let (last, before) := splitLastLine f.lines
  let header := rowCells last
  if header.length ≠ columns.length then failure
  let outer : Open := ⟨p.blocks.frames.drop 1, p.blocks.references⟩
  let outer :=
    if before.isEmpty then outer else outer.add (.paragraph (trimBoth (unescapePipes before)))
  let opened := (outer.clearBlank.push line (.table columns header []))
  return { p with
    blocks := opened.onInner fun f => { f with beforeBlank := true }
    cursor := p.cursor.finish, opened := true, finished := true }

/-- Adds a row to a table; missing cells are empty and cells too many are dropped. -/
def withRow (p : Progress) (columns : List Alignment) : Progress :=
  let cells := rowCells p.cursor.ahead
  let row := (cells ++ List.replicate (columns.length - cells.length) []).take columns.length
  let blocks := p.settled.clearBlank.onInner fun f =>
    match f.kind with
    | .table columns header rows => { f with kind := .table columns header (row :: rows) }
    | _ => f
  { p with blocks, unmatched := 0, cursor := p.cursor.finish, opened := true, finished := true }

/-- A paragraph or a table that the line may go on with in its own way. -/
def tableLine (p : Progress) (line : Nat) : Progress :=
  match p.container.kind with
  | .paragraph false =>
    match p.headed? line with
    | some p => p
    | none =>
      if (columns? p.cursor.ahead).isSome then
        { p with blocks := p.blocks.onInner fun f => { f with kind := .paragraph true } }
      else p
  | .table columns .. => if p.cursor.isBlank then p else p.withRow columns
  | _ => p

/-- The deepest nesting of lists that one line may open. -/
def deepestList : Nat := 100

/-- Opens the blocks that the line starts.  `lazy` says that the innermost open block is a paragraph
that the line may go on with; `depth` counts the blocks opened. -/
def openBlocks (line : Nat) (lazy : Bool) (depth : Nat) : Nat → Progress → Progress
  | 0, p => p
  | n + 1, p =>
    let f := p.container
    let c := p.cursor
    let ahead := c.ahead
    let shallow := c.indent < 4
    let inParagraph := f.isParagraph
    if f.isVerbatim then p
    else if shallow && ahead.head? == some '>' then
      openBlocks line false (depth + 1) n (p.enter line .quote (c.skip.drop 1).skipOne)
    else
      match if shallow then headingMark? ahead else none with
      | some (level, size) =>
        p.complete (.heading level ((dropClosingSigns ahead).drop size))
      | none =>
      match if shallow then fence? ahead else none with
      | some (mark, size) =>
        let indent := c.rest.length - ahead.length
        p.enter line (.fenced mark size indent) (c.skip.drop size)
      | none =>
      match if shallow then htmlBlock? inParagraph ahead else none with
      | some stop => p.enter line (.html stop) c
      | none =>
      match if shallow && inParagraph then underline? ahead else none with
      | some level => p.underlined level
      | none =>
      if shallow && !(inParagraph && p.unmatched > 0) && isRule ahead then p.complete .rule
      else
        match if shallow && depth + 1 < deepestList then marker? inParagraph ahead else none with
        | some (marker, size) =>
          openBlocks line false (depth + 1) n (p.enterItem line marker size)
        | none =>
          if !shallow && !lazy && !c.isBlank then p.enter line .indented (c.advance 4)
          else if shallow then p.tableLine line
          else p

end Progress

/-! ### Text -/

namespace Progress

/-- Notes a blank line on the newest part of the container. -/
def noteBlank (p : Progress) : Progress :=
  let mark := fun f : Frame => { f with beforeBlank := true }
  let frames := p.blocks.frames
  let frames :=
    if p.unmatched = 0 then
      match frames with
      | f :: rest =>
        match f.children with
        | child :: older =>
          { f with children := { child with beforeBlank := true } :: older } :: rest
        | [] => frames
      | [] => frames
    else frames.modify (p.unmatched - 1) mark
  { p with blocks := { p.blocks with frames } }

/-- A blank line counts for the container itself unless it is a quote, a fenced block, or an item
that has just been started and is empty. -/
def containerBlank (p : Progress) (line : Nat) : Bool :=
  let f := p.container
  p.cursor.isBlank &&
    match f.kind with
    | .quote | .fenced .. => false
    | .item _ => !f.children.isEmpty || p.unmatched > 0 || f.line != line
    | _ => true

/-- Sets the blank-line mark of the container and takes it off the blocks around it. -/
def setBlank (p : Progress) (blank : Bool) : Progress :=
  let frames := p.blocks.frames
  let inner := frames.take p.unmatched
  let outer := (frames.drop p.unmatched).map fun f => { f with beforeBlank := false }
  let outer :=
    match outer with
    | f :: rest => { f with beforeBlank := blank } :: rest
    | [] => []
  { p with blocks := { p.blocks with frames := inner ++ outer } }

/-- Adds the rest of the line, as text, to the innermost block that takes it. -/
def addText (p : Progress) (line : Nat) : Open :=
  let blank := p.cursor.isBlank
  let p := if blank then p.noteBlank else p
  let p := p.setBlank (p.containerBlank line)
  let inner := p.blocks.frames.headD { kind := .document, line := 0 }
  if p.unmatched > 0 && !p.opened && !blank && inner.isParagraph then
    p.blocks.onInner (·.addLine p.cursor.text)
  else
    let blocks := p.settled
    match p.container.kind with
    | .fenced .. | .indented => blocks.onInner (·.addLine p.cursor.text)
    | .html stop =>
      let added := blocks.onInner (·.addLine p.cursor.text)
      if stop.isMet p.cursor.ahead then added.closeOne else added
    | .paragraph _ => if blank then blocks else blocks.onInner (·.addLine p.cursor.skip.text)
    | _ =>
      if blank then blocks
      else (blocks.makeRoom.push line (.paragraph false)).onInner (·.addLine p.cursor.skip.text)

end Progress

/-! ### Documents -/

/-- Reads one line. -/
def Open.readLine (o : Open) (line : Nat) (cs : List Char) : Open :=
  match matchFrames ⟨cs, 0, false⟩ o.frames.reverse with
  | .closesInner => o.closeOne
  | .upTo unmatched cursor =>
    let lazy := (o.frames.head?.map Frame.isParagraph).getD false
    let start : Progress := ⟨o, unmatched, cursor, false, false⟩
    let p := start.openBlocks line lazy 0 (cs.length + 2)
    if p.finished then p.blocks else p.addText line

/-- Reads lines. -/
def Open.readLines (o : Open) (line : Nat) : List (List Char) → Open
  | [] => o
  | cs :: rest => (o.readLine line cs).readLines (line + 1) rest

/-- The lines of a text.  A line ends with a line feed, a carriage return or both; NUL becomes the
replacement character. -/
def splitLines (taken : List Char) : List Char → List (List Char)
  | [] => if taken.isEmpty then [] else [taken.reverse]
  | '\r' :: '\n' :: cs => taken.reverse :: splitLines [] cs
  | c :: cs =>
    if c = '\n' || c = '\r' then taken.reverse :: splitLines [] cs
    else splitLines ((if c = '\x00' then '�' else c) :: taken) cs

/-- The text without a byte order mark at its start. -/
def dropByteOrderMark : List Char → List Char
  | '\ufeff' :: cs => cs
  | cs => cs

/-- The block structure of a text, and the link definitions in it. -/
def readStructure (cs : List Char) : List (Block (List Char)) × References :=
  let start : Open := ⟨[{ kind := .document, line := 0 }], []⟩
  let read := start.readLines 1 (splitLines [] (dropByteOrderMark cs))
  let done := read.closeMany read.frames.length
  let top := done.frames.headD { kind := .document, line := 0 }
  (top.children.reverse.map Closed.block, done.references)

end ModuleDocs.Markdown
